import Hotkeys.Engine.InMemory
import Hotkeys.Proofs.X11.Holding

/-!
# After a session has been left

A session in memory that has been left refuses every bind.  A manager that has been detached reads
no events any more, but it still asks the server for grabs: a bind that the server grants then makes
a registration that no event can run.

What such a manager does follows from what one that listens does, as neither binding nor
unregistering looks at whether it listens (`Detached`).  It stays so as long as no bind gives the
number of a live registration once more; where nothing is registered, none can.  Main statement:
what holds in every state after a detach, and exactly when nothing is registered and held in all of
them (`detached_stays_empty_iff`).
-/

set_option autoImplicit false

namespace Hotkeys.X11

open Hotkeys.Keys (Chord)

variable {α : Type}

/-- A call on a manager, or something that happens to it. -/
inductive Call (α : Type) where
  /-- A call that leaves the manager listening, an event, or a change of what the server denies. -/
  | step (s : Step α)
  /-- The manager is to be detached. -/
  | detach

/-- The step that a call is, unless it is to detach. -/
def Call.step? : Call α → Option (Step α)
  | .step s => some s
  | .detach => none

namespace Connection

theorem ungrabAll_alive (c : Connection) : c.ungrabAll.alive = c.alive := by
  rw [ungrabAll, send_alive, send_alive]

/-- Nothing is held once every grab of both families has been given up. -/
theorem held_ungrabAll {c : Connection} (halive : c.alive = true) : c.ungrabAll.held = ∅ := by
  rw [ungrabAll, held_send ((send_alive c _).trans halive), held_send halive]
  ext g
  cases hfamily : g.family <;> simp [Request.effect, hfamily]

end Connection

namespace Manager

variable {m : Manager α}

/-- The manager after a call. -/
def call (m : Manager α) : Call α → Manager α
  | .step s => (m.step s).2
  | .detach => m.detach.2

/-- The manager after some calls. -/
def afterCalls (m : Manager α) (calls : List (Call α)) : Manager α :=
  calls.foldl call m

/-- Whether the server would grant every grab that binding a chord asks for, and there is one. -/
def Grants (m : Manager α) (chord : Chord) (kind : EventKind) : Prop :=
  ∃ codes, m.codesOf chord = .ok codes ∧ ∀ code ∈ codes, ∀ extra ∈ m.locks.combinations,
    ({ family := kind.family, code, mods := m.locks.clean chord.mods ||| extra } : Grab) ∉
      m.connection.denied

/-! ## Listening or not -/

/-- The manager that listens or does not, as told. -/
def setListening (m : Manager α) (b : Bool) : Manager α :=
  { m with listening := b }

theorem setListening_self (m : Manager α) : m.setListening m.listening = m := rfl

/-- Binding does not look at whether the manager listens. -/
theorem bind_setListening (m : Manager α) (b : Bool) (chord : Chord) (kind : EventKind)
    (action : α) :
    (m.setListening b).bind chord kind action =
      ((m.bind chord kind action).1, (m.bind chord kind action).2.setListening b) := by
  cases hcodes : m.codesOf chord with
  | error e =>
      have hcodes' : (m.setListening b).codesOf chord = .error e := hcodes
      rw [bind, bind, hcodes, hcodes']
  | ok codes =>
      have hcodes' : (m.setListening b).codesOf chord = .ok codes := hcodes
      by_cases htaken : ∃ key ∈ (m.registrationFor codes chord kind action).keys,
          m.registry.idOf? key ≠ none
      · rw [bind_of_taken hcodes htaken, bind_of_taken hcodes' htaken]
      · have hfresh : ∀ key ∈ (m.registrationFor codes chord kind action).keys,
            m.registry.idOf? key = none := by
          simpa using htaken
        have hgrab : grabAll kind.family
            ((m.setListening b).registrationFor codes chord kind action).grabbed
            (m.setListening b).connection =
              grabAll kind.family (m.registrationFor codes chord kind action).grabbed
                m.connection := rfl
        rw [bind_of_fresh hcodes hfresh, bind_of_fresh hcodes' hfresh, hgrab]
        rcases grabAll kind.family (m.registrationFor codes chord kind action).grabbed
          m.connection with ⟨_ | reason, granted, c⟩ <;> rfl

theorem unregister_setListening (m : Manager α) (b : Bool) (id : Nat) :
    (m.setListening b).unregister id =
      ((m.unregister id).1, (m.unregister id).2.setListening b) := by
  have hregistry : (m.setListening b).registry = m.registry := rfl
  rw [unregister, unregister, hregistry]
  cases m.registry.remove id <;> rfl

/-- No step changes whether the manager listens, and none but an event looks at it. -/
theorem step_setListening (m : Manager α) (b : Bool) (s : Step α) :
    ((m.setListening b).step s).2 = (m.step s).2.setListening b ∧
      ((m.setListening b).step s).1.newId? = (m.step s).1.newId? := by
  cases s with
  | bind chord kind action =>
      rw [step, step, m.bind_setListening b chord kind action]
      exact ⟨rfl, rfl⟩
  | unregister id =>
      rw [step, step, m.unregister_setListening b id]
      exact ⟨rfl, rfl⟩
  | deny denied => exact ⟨rfl, rfl⟩
  | event kind code state => exact ⟨rfl, rfl⟩

theorem step_listening (m : Manager α) (s : Step α) : (m.step s).2.listening = m.listening := by
  have hsame := (m.step_setListening m.listening s).1
  rw [setListening_self] at hsame
  rw [hsame]
  rfl

theorem after_listening (m : Manager α) (steps : List (Step α)) :
    (m.after steps).listening = m.listening := by
  induction steps generalizing m with
  | nil => rfl
  | cons s rest ih => exact (ih _).trans (m.step_listening s)

/-! ## Detached -/

/-- What holds of a manager once it has been detached while the server answered: it does not listen,
and apart from that it is as sound as one that does. -/
structure Detached (m : Manager α) : Prop where
  listening : m.listening = false
  sound : (m.setListening true).Sound

/-- A manager that is detached leaves nothing registered and nothing held. -/
theorem detached_detach (halive : m.connection.alive = true) (hlistening : m.listening = true) :
    m.detach.1 = .ok () ∧ m.detach.2.Detached ∧ m.detach.2.registry = m.registry.clear := by
  have hdetach : m.detach =
      (.ok (), { m with
        registry := m.registry.clear
        connection := m.connection.ungrabAll
        listening := false }) := by
    rw [detach, if_pos hlistening, if_pos halive]
  rw [hdetach]
  refine ⟨rfl, ⟨rfl, ?_⟩, rfl⟩
  exact {
    alive := (Connection.ungrabAll_alive _).trans halive
    listening := rfl
    registry := ⟨List.nodup_nil, by simp [setListening, Registry.clear, Registry.idOf?,
      Registry.get?]⟩
    ofChord := nofun
    grabbed := nofun
    held_iff := by simp [setListening, Connection.held_ungrabAll halive, Registry.clear] }

/-- A manager that does not listen is not detached again. -/
theorem detach_of_not_listening (hlistening : m.listening = false) : m.detach = (.ok (), m) := by
  rw [detach, if_neg (Bool.eq_false_iff.mp hlistening)]

/-- Where the manager does not listen, calls are the steps among them. -/
theorem afterCalls_eq_after (hlistening : m.listening = false) (calls : List (Call α)) :
    m.afterCalls calls = m.after (calls.filterMap Call.step?) := by
  induction calls generalizing m with
  | nil => rfl
  | cons c calls ih =>
      cases c with
      | step s => exact ih ((m.step_listening s).trans hlistening)
      | detach =>
          have hsame : m.call .detach = m := by rw [call, detach_of_not_listening hlistening]
          rw [afterCalls, List.foldl_cons, hsame]
          exact ih hlistening

/-- No event runs anything where the manager does not listen, and nothing makes it listen. -/
theorem actionFor_afterCalls (hlistening : m.listening = false) (calls : List (Call α))
    (kind : EventKind) (code : Keycode) (state : Keys.Mask) :
    (m.afterCalls calls).actionFor kind code state = none := by
  have hlater : (m.afterCalls calls).listening = false := by
    rw [afterCalls_eq_after hlistening, after_listening, hlistening]
  have hhears : (m.afterCalls calls).hears = false := by rw [hears, hlater, Bool.false_and]
  rw [Manager.actionFor, hhears, if_neg Bool.false_ne_true]

namespace Detached

theorem held_of_empty (h : m.Detached) (hempty : m.registry.byId = []) :
    m.connection.held = ∅ := by
  refine Finset.eq_empty_of_forall_notMem fun g hg => ?_
  obtain ⟨e, he, -⟩ := (h.sound.held_iff g).mp hg
  have hnone : (m.setListening true).registry.byId = [] := hempty
  rw [hnone] at he
  exact List.not_mem_nil he

protected theorem step (h : m.Detached) (s : Step α)
    (hnew : ∀ id, (m.step s).1.newId? = some id → m.registry.get? id = none) :
    (m.step s).2.Detached := by
  obtain ⟨hsame, hnumber⟩ := m.step_setListening true s
  refine ⟨(m.step_listening s).trans h.listening, ?_⟩
  rw [← hsame]
  exact h.sound.step s fun id hid => hnew id (hnumber ▸ hid)

protected theorem after (h : m.Detached) {steps : List (Step α)}
    (hnumbers : m.GivesFreeNumbers steps) : (m.after steps).Detached := by
  induction steps generalizing m with
  | nil => exact h
  | cons s rest ih => exact ih (h.step s hnumbers.1) hnumbers.2

/-- Where nothing is registered every number is free. -/
theorem call_from_empty (h : m.Detached) (hempty : m.registry.byId = []) (c : Call α) :
    (m.call c).Detached := by
  cases c with
  | step s =>
      refine h.step s fun id _ => ?_
      rw [Registry.get?, hempty]
      rfl
  | detach =>
      rw [Manager.call, detach_of_not_listening h.listening]
      exact h

theorem afterCalls_through_empty (h : m.Detached) {calls : List (Call α)}
    (hempty : ∀ done, done <+: calls → (m.afterCalls done).registry.byId = []) :
    (m.afterCalls calls).Detached := by
  induction calls generalizing m with
  | nil => exact h
  | cons c calls ih =>
      refine ih (h.call_from_empty (hempty [] List.nil_prefix) c) fun done hdone => ?_
      exact hempty (c :: done) (List.cons_prefix_cons.mpr ⟨rfl, hdone⟩)

/-! ## Binding when nothing is registered -/

/-- Where nothing is registered, a bind is accepted just when the server grants it; then something
is registered, and otherwise nothing is. -/
theorem bind_of_empty (h : m.Detached) (hempty : m.registry.byId = []) (chord : Chord)
    (kind : EventKind) (action : α) :
    (m.Grants chord kind ∧ (∃ id, (m.bind chord kind action).1 = .ok id) ∧
        (m.bind chord kind action).2.registry.byId ≠ []) ∨
      (¬ m.Grants chord kind ∧ (∃ e, (m.bind chord kind action).1 = .error e) ∧
        (m.bind chord kind action).2.registry.byId = []) := by
  have hgrants : m.Grants chord kind ↔ ∃ codes, m.codesOf chord = .ok codes ∧
      ∀ g ∈ (m.registrationFor codes chord kind action).grabs, g ∉ m.connection.denied := by
    refine exists_congr fun codes => and_congr_right fun _ => ?_
    simp only [mem_grabs_iff_wants_of_grabsFor (r := m.registrationFor codes chord kind action) rfl]
    constructor
    · rintro hfree g ⟨code, hcode, extra, hextra, rfl⟩
      exact hfree code hcode extra hextra
    · intro hfree code hcode extra hextra
      exact hfree _ ⟨code, hcode, extra, hextra, rfl⟩
  have hout := bind_outcome (m := m) h.sound.alive chord kind action
  generalize m.bind chord kind action = out at hout ⊢
  rw [hgrants]
  cases hout with
  | @noCode e hcodes =>
      refine Or.inr ⟨?_, ⟨e, rfl⟩, hempty⟩
      rintro ⟨codes, hok, -⟩
      rw [hcodes] at hok
      cases hok
  | @taken codes hcodes htaken =>
      -- A key that leads to a number leads to a registration, and there is none.
      obtain ⟨key, -, hkey⟩ := htaken
      obtain ⟨id, hid⟩ := Option.ne_none_iff_exists'.mp hkey
      obtain ⟨r, hr, -⟩ := (h.sound.registry.idOf?_iff key id).mp hid
      have hmem : (id, r) ∈ m.registry.byId := Registry.mem_of_get? hr
      rw [hempty] at hmem
      exact absurd hmem List.not_mem_nil
  | @denied codes c granted hcodes hfresh hdenied halive hsame hheld =>
      refine Or.inr ⟨?_, ⟨_, rfl⟩, hempty⟩
      rintro ⟨others, hok, hfree⟩
      rw [hcodes] at hok
      cases hok
      obtain ⟨g, hg, hin⟩ := hdenied
      exact hfree g hg hin
  | @made codes c hcodes hfresh hfree halive hsame hheld =>
      refine Or.inl ⟨⟨codes, hcodes, hfree⟩, ⟨_, rfl⟩, ?_⟩
      rw [Registry.insert]
      exact List.append_ne_nil_of_right_ne_nil _ (List.cons_ne_nil _ _)

/-- Nothing but a bind that the server grants makes a registration. -/
theorem call_of_empty (h : m.Detached) (hempty : m.registry.byId = []) {c : Call α}
    (hc : ∀ chord kind action, c = .step (.bind chord kind action) → ¬ m.Grants chord kind) :
    (m.call c).registry.byId = [] := by
  cases c with
  | detach =>
      rw [call, detach_of_not_listening h.listening]
      exact hempty
  | step s =>
      cases s with
      | bind chord kind action =>
          rcases h.bind_of_empty hempty chord kind action with ⟨hgrants, -⟩ | ⟨-, -, hnext⟩
          · exact absurd hgrants (hc chord kind action rfl)
          · exact hnext
      | unregister id =>
          have hnone : m.registry.remove id = none := by
            rw [Registry.remove_eq_none, Registry.get?, hempty]
            rfl
          have hsame : m.unregister id = (.error .invalidId, m) := by rw [unregister, hnone]
          rw [call, step, hsame]
          exact hempty
      | deny denied => exact hempty
      | event kind code state => exact hempty

/-- As long as the server grants no bind, nothing is registered.  The induction is on the calls from
a state in which nothing is. -/
theorem afterCalls_of_empty (h : m.Detached) (hempty : m.registry.byId = []) {calls : List (Call α)}
    (hcalls : ∀ done chord kind action, done ++ [.step (.bind chord kind action)] <+: calls →
      ¬ (m.afterCalls done).Grants chord kind) :
    (m.afterCalls calls).registry.byId = [] := by
  induction calls generalizing m with
  | nil => exact hempty
  | cons c calls ih =>
      refine ih (h.call_from_empty hempty c) (h.call_of_empty hempty ?_) ?_
      · rintro chord kind action rfl
        exact hcalls [] chord kind action ⟨calls, rfl⟩
      · intro done chord kind action hdone
        refine hcalls (c :: done) chord kind action ?_
        rw [List.cons_append, List.cons_prefix_cons]
        exact ⟨rfl, hdone⟩

end Detached

/-! ## Main statement -/

/-- Fewer than 2 ^ 32 binds before and after a detach give free numbers after it. -/
theorem givesFreeNumbers_of_detach {keymap : KeyMap} {locks : LockMasks} {denied : List Grab}
    {steps later : List (Step α)}
    (hfew : steps.countP Step.isBind + later.countP Step.isBind < 2 ^ 32) :
    ((opened keymap locks denied : Manager α).after steps).detach.2.GivesFreeNumbers later := by
  let start : Manager α := opened keymap locks denied
  have hbefore : (start.givenNumbers steps).length ≤ steps.countP Step.isBind :=
    length_givenNumbers_le rfl steps
  have hzero : start.registry.lastId.toNat = 0 := rfl
  obtain ⟨-, -, -, hlast⟩ := run_ids (m := start) rfl Registry.counted_empty steps (by omega)
  obtain ⟨-, hdetached, hclear⟩ :=
    detached_detach (after_keyboard (m := start) rfl steps).1 (start.after_listening steps)
  have halive : (start.after steps).detach.2.connection.alive = true := hdetached.sound.alive
  have hlater := length_givenNumbers_le halive later
  have hsame : (start.after steps).detach.2.registry.lastId.toNat =
      (start.givenNumbers steps).length := by
    rw [hclear]
    exact hlast.trans (by rw [hzero, Nat.zero_add])
  refine (run_ids halive ?_ later (by omega)).1
  rw [hclear]
  exact nofun

/-- A detach of a manager that has only been connected, after any calls and events and while the
server answers, succeeds.  Whatever happens later, no event runs anything, and before 2 ^ 32 binds
the server holds what the registrations want.  There are none, the server holds nothing, and every
bind fails, just as long as the server grants no bind: one with a keycode and no grab that is
denied.  A session in memory that has been left refuses every bind. -/
theorem detached_stays_empty_iff (keymap : KeyMap) (locks : LockMasks) (denied : List Grab)
    (steps : List (Step α)) (calls : List (Call α)) :
    let m := (opened keymap locks denied).after steps
    let later := fun done => m.detach.2.afterCalls done
    m.detach.1 = .ok () ∧
      (∀ done, done <+: calls →
        (∀ kind code state, (later done).actionFor kind code state = none) ∧
        ((steps.countP Step.isBind + (done.filterMap Call.step?).countP Step.isBind < 2 ^ 32) →
          ∀ g, g ∈ (later done).connection.held ↔
            ∃ id r, (later done).registry.get? id = some r ∧ r.Wants (later done).locks g)) ∧
      ((∀ done, done <+: calls → (later done).size = 0 ∧ (later done).connection.held = ∅ ∧
          ∀ chord kind action, done ++ [.step (.bind chord kind action)] <+: calls →
            ∃ e, ((later done).bind chord kind action).1 = .error e) ↔
        ∀ done chord kind action, done ++ [.step (.bind chord kind action)] <+: calls →
          ¬ (later done).Grants chord kind) ∧
      ∀ (s : Engine.Session) chord kind job,
        s.detach.bind chord kind job = (.error .detached, s.detach) := by
  intro m later
  have halive : m.connection.alive = true := (after_keyboard rfl steps).1
  obtain ⟨hanswer, hdetached, hclear⟩ := detached_detach halive (after_listening _ steps)
  have hempty : m.detach.2.registry.byId = [] := by rw [hclear]; rfl
  refine ⟨hanswer, fun done _ => ⟨actionFor_afterCalls hdetached.listening done, fun hfew => ?_⟩,
    ⟨fun hall done chord kind action hdone => ?_, fun hnone done hdone => ?_⟩, fun _ _ _ _ => rfl⟩
  · have hlater : (later done).Detached := by
      rw [show later done = _ from afterCalls_eq_after hdetached.listening done]
      exact hdetached.after (givesFreeNumbers_of_detach hfew)
    exact hlater.sound.mem_held_iff
  · have hprefix : done <+: calls := (List.prefix_append _ _).trans hdone
    have hlater : (later done).Detached := hdetached.afterCalls_through_empty fun before hbefore =>
      List.length_eq_zero_iff.mp (hall before (hbefore.trans hprefix)).1
    obtain ⟨hsize, -, hfails⟩ := hall done hprefix
    obtain ⟨e, he⟩ := hfails chord kind action hdone
    rcases hlater.bind_of_empty (List.length_eq_zero_iff.mp hsize) chord kind action with
      ⟨-, ⟨id, hid⟩, -⟩ | ⟨hgrants, -⟩
    · rw [he] at hid
      cases hid
    · exact hgrants
  · have hstill : ∀ before, before <+: done → (later before).registry.byId = [] :=
      fun before hbefore => hdetached.afterCalls_of_empty hempty
        fun earlier chord kind action hearlier =>
          hnone earlier chord kind action (hearlier.trans (hbefore.trans hdone))
    have hlater : (later done).Detached := hdetached.afterCalls_through_empty hstill
    have hhere := hstill done (List.prefix_refl done)
    refine ⟨List.length_eq_zero_iff.mpr hhere, hlater.held_of_empty hhere,
      fun chord kind action hbind => ?_⟩
    rcases hlater.bind_of_empty hhere chord kind action with ⟨hgrants, -⟩ | ⟨-, hfails, -⟩
    · exact absurd hgrants (hnone done chord kind action hbind)
    · exact hfails

/-- A key bound after a detach is registered and held, and no event runs its action. -/
theorem not_final_of_later_bind :
    let m : Manager Nat := opened ⟨[(0x61, [8])]⟩ ⟨0, 0⟩ []
    let late := m.detach.2.bind ⟨0, .key 0x61⟩ .keyPress 1
    m.detach.1 = .ok () ∧ late.1 = .ok 1 ∧ late.2.size = 1 ∧
      late.2.connection.held = {⟨.key, 8, 0⟩, ⟨.key, 8, 2⟩} ∧
      late.2.actionFor .keyPress 8 0 = none :=
  ⟨rfl, by rfl, by decide, by decide +kernel, by decide⟩

end Manager

end Hotkeys.X11
