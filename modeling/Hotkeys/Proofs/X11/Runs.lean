import Hotkeys.Proofs.X11.Locks
import Hotkeys.Proofs.X11.Registry
import Hotkeys.Proofs.X11.Requests

/-!
# Runs of a manager

A run is any sequence of binding, unregistering, changes of what the server denies, and events,
before the manager is detached or the server hangs up.

What one operation does is said once: `bind_outcome` lists the four ways in which binding can end,
`unregister_outcome` the two of unregistering.  From these follows the invariant `Sound`: the
registry is consistent, every registration stems from a chord and was grabbed as one, and the server
holds exactly what some registration needs.  Each step keeps it (`Sound.step`) and hence every run
(`Sound.after`), as long as no bind gives the number of a live registration once more.
-/

set_option autoImplicit false

namespace Hotkeys.X11

open Hotkeys.Keys (Chord Mask)

variable {α : Type}

/-- The grabs that a registration is about: each of its codes under its modifiers together with
every combination of locks. -/
def Registration.Wants (locks : LockMasks) (r : Registration α) (g : Grab) : Prop :=
  ∃ code ∈ r.codes, ∃ extra ∈ locks.combinations,
    g = { family := r.kind.family, code, mods := r.mods ||| extra }

/-! ## Steps -/

/-- What can happen to a manager that listens. -/
inductive Step (α : Type) where
  /-- A chord is to be bound. -/
  | bind (chord : Chord) (kind : EventKind) (action : α)
  /-- A registration is to be dropped. -/
  | unregister (id : Nat)
  /-- The server changes its mind about what it denies. -/
  | deny (denied : List Grab)
  /-- A key or button event arrives. -/
  | event (kind : EventKind) (code : Keycode) (state : Mask)

/-- What is seen of a step. -/
inductive Answer (α : Type) where
  /-- The number of a registration, or why there is none. -/
  | bound (answer : Except ManagerError Nat)
  /-- Whether a registration was dropped. -/
  | unregistered (answer : Except ManagerError Unit)
  /-- Nothing. -/
  | silent
  /-- The action that was run, if there was one. -/
  | ran (action : Option α)

/-- The number that an answer gives to a new registration, if it does. -/
def Answer.newId? : Answer α → Option Nat
  | .bound (.ok id) => some id
  | _ => none

/-- Whether a step asks for a registration. -/
def Step.isBind : Step α → Bool
  | .bind _ _ _ => true
  | _ => false

namespace Manager

/-- A manager that has just been connected and has bound nothing. -/
def opened (keymap : KeyMap) (locks : LockMasks) (denied : List Grab) : Manager α :=
  { connection := { alive := true, denied, requests := [] }
    keymap
    locks
    registry := Registry.empty
    listening := true }

/-- What a connection to a server yields, if it yields anything. -/
theorem connect_eq_ok {server : Server} {m : Manager α} :
    connect server = .ok m ↔ server.failing = none ∧
      m = opened
        (KeyMap.ofTable server.keyboard.firstCode server.keyboard.perCode server.keyboard.keysyms)
        (LockMasks.ofTable
          (KeyMap.ofTable server.keyboard.firstCode server.keyboard.perCode server.keyboard.keysyms)
          server.keyboard.modifierCodes)
        server.denied := by
  cases hfail : server.failing with
  | none =>
      simp only [connect, hfail, Except.ok.injEq, true_and, opened]
      exact eq_comm
  | some step => cases step <;> simp [connect, hfail]

/-- One step: what is seen of it and the manager after it. -/
def step (m : Manager α) : Step α → Answer α × Manager α
  | .bind chord kind action =>
    let (answer, next) := m.bind chord kind action
    (.bound answer, next)
  | .unregister id =>
    let (answer, next) := m.unregister id
    (.unregistered answer, next)
  | .deny denied => (.silent, m.setDenied denied)
  | .event kind code state => (.ran (m.actionFor kind code state), m)

/-- The step that binds gives the number that binding answers. -/
theorem newId?_step_bind {m : Manager α} {chord : Chord} {kind : EventKind} {action : α}
    {id : Nat} :
    (m.step (.bind chord kind action)).1.newId? = some id ↔
      (m.bind chord kind action).1 = .ok id := by
  rw [step]
  generalize m.bind chord kind action = out
  obtain ⟨e | id', next⟩ := out
  · exact ⟨nofun, nofun⟩
  · simp [Answer.newId?]

/-- The manager after some steps. -/
def after (m : Manager α) : List (Step α) → Manager α
  | [] => m
  | s :: rest => (m.step s).2.after rest

/-- What is seen of some steps. -/
def answers (m : Manager α) : List (Step α) → List (Answer α)
  | [] => []
  | s :: rest => (m.step s).1 :: (m.step s).2.answers rest

/-- No bind of a run gives a number that a live registration has. -/
def GivesFreeNumbers (m : Manager α) : List (Step α) → Prop
  | [] => True
  | s :: rest =>
    (∀ id, (m.step s).1.newId? = some id → m.registry.get? id = none) ∧
      (m.step s).2.GivesFreeNumbers rest

/-- The registration that binding a chord with these codes makes. -/
def registrationFor (m : Manager α) (codes : List Keycode) (chord : Chord) (kind : EventKind)
    (action : α) : Registration α :=
  { kind
    codes
    mods := m.locks.clean chord.mods
    grabbed := grabsFor m.locks codes (m.locks.clean chord.mods)
    action }

theorem codesOf_ne_nil {m : Manager α} {chord : Chord} {codes : List Keycode}
    (h : m.codesOf chord = .ok codes) : codes ≠ [] := by
  unfold codesOf at h
  split at h
  · rw [← Except.ok.inj h]
    exact List.cons_ne_nil _ _
  · split at h
    · exact absurd h (by simp)
    · rename_i hne
      exact Except.ok.inj h ▸ hne

/-- What is grabbed for a registration is what it wants. -/
theorem mem_grabs_iff_wants_of_grabsFor {locks : LockMasks} {r : Registration α}
    (hgrabbed : r.grabbed = grabsFor locks r.codes r.mods) {g : Grab} :
    g ∈ r.grabs ↔ r.Wants locks g := by
  obtain ⟨family, code, mask⟩ := g
  rw [Registration.mem_grabs, hgrabbed, mem_grabsFor]
  simp only [Registration.Wants, Grab.mk.injEq]
  constructor
  · rintro ⟨hfamily, hcode, extra, hextra, hmask⟩
    exact ⟨code, hcode, extra, hextra, hfamily.symm, rfl, hmask⟩
  · rintro ⟨c, hc, extra, hextra, hfamily, rfl, hmask⟩
    exact ⟨hfamily.symm, hc, extra, hextra, hmask⟩

/-- The ways in which binding can end while the server answers. -/
inductive BindOutcome (m : Manager α) (chord : Chord) (kind : EventKind) (action : α) :
    Except ManagerError Nat × Manager α → Prop where
  /-- The chord has no code. -/
  | noCode {e : ManagerError} (hcodes : m.codesOf chord = .error e) :
      BindOutcome m chord kind action (.error e, m)
  /-- One of the keys leads to a registration already. -/
  | taken {codes : List Keycode} (hcodes : m.codesOf chord = .ok codes)
      (htaken : ∃ key ∈ (m.registrationFor codes chord kind action).keys,
        m.registry.idOf? key ≠ none) :
      BindOutcome m chord kind action (.error (.alreadyBound chord.text), m)
  /-- A grab is denied; what was granted before it is given up again unless it is needed. -/
  | denied {codes : List Keycode} {c : Connection} (granted : List Grab)
      (hcodes : m.codesOf chord = .ok codes)
      (hfresh : ∀ key ∈ (m.registrationFor codes chord kind action).keys,
        m.registry.idOf? key = none)
      (hdenied : ∃ g ∈ (m.registrationFor codes chord kind action).grabs,
        g ∈ m.connection.denied)
      (halive : c.alive = true) (hsame : c.denied = m.connection.denied)
      (hheld : ∀ g, g ∈ c.held ↔ (g ∈ m.connection.held ∨ g ∈ granted) ∧
        (m.registry.needs g = true ∨ g ∉ granted)) :
      BindOutcome m chord kind action
        (.error (.grabFailed chord.text .refused), { m with connection := c })
  /-- Every grab is granted and the registration is made. -/
  | made {codes : List Keycode} {c : Connection} (hcodes : m.codesOf chord = .ok codes)
      (hfresh : ∀ key ∈ (m.registrationFor codes chord kind action).keys,
        m.registry.idOf? key = none)
      (hfree : ∀ g ∈ (m.registrationFor codes chord kind action).grabs,
        g ∉ m.connection.denied)
      (halive : c.alive = true) (hsame : c.denied = m.connection.denied)
      (hheld : ∀ g, g ∈ c.held ↔ g ∈ m.connection.held ∨
        g ∈ (m.registrationFor codes chord kind action).grabs) :
      BindOutcome m chord kind action
        (.ok m.registry.nextId,
          { m with
            connection := c
            registry := m.registry.insert (m.registrationFor codes chord kind action) })

/-- Binding a chord whose keys lead nowhere yet ends as its grabs do. -/
theorem bind_of_fresh {m : Manager α} {chord : Chord} {codes : List Keycode}
    (hcodes : m.codesOf chord = .ok codes) {kind : EventKind} {action : α}
    (hfresh : ∀ key ∈ (m.registrationFor codes chord kind action).keys,
      m.registry.idOf? key = none) :
    m.bind chord kind action =
      match grabAll kind.family (m.registrationFor codes chord kind action).grabbed
        m.connection with
      | (some reason, granted, c) =>
        (.error (.grabFailed chord.text reason),
          { m with connection := release m.registry kind.family granted c })
      | (none, _, c) =>
        (.ok m.registry.nextId,
          { m with
            connection := c
            registry := m.registry.insert (m.registrationFor codes chord kind action) }) := by
  have hany : ¬ ((m.registrationFor codes chord kind action).keys.any fun key =>
      (m.registry.idOf? key).isSome) = true := by
    simpa [Option.isSome_iff_ne_none] using hfresh
  rw [bind, hcodes]
  exact if_neg hany

theorem bind_of_taken {m : Manager α} {chord : Chord} {codes : List Keycode}
    (hcodes : m.codesOf chord = .ok codes) {kind : EventKind} {action : α}
    (htaken : ∃ key ∈ (m.registrationFor codes chord kind action).keys,
      m.registry.idOf? key ≠ none) :
    m.bind chord kind action = (.error (.alreadyBound chord.text), m) := by
  have hany : ((m.registrationFor codes chord kind action).keys.any fun key =>
      (m.registry.idOf? key).isSome) = true := by
    simpa [Option.isSome_iff_ne_none] using htaken
  rw [bind, hcodes]
  exact if_pos hany

/-- Binding ends in one of its four ways. -/
theorem bind_outcome {m : Manager α} (halive : m.connection.alive = true) (chord : Chord)
    (kind : EventKind) (action : α) :
    BindOutcome m chord kind action (m.bind chord kind action) := by
  cases hcodes : m.codesOf chord with
  | error e =>
      rw [bind, hcodes]
      exact .noCode hcodes
  | ok codes =>
      by_cases htaken : ∃ key ∈ (m.registrationFor codes chord kind action).keys,
          m.registry.idOf? key ≠ none
      · rw [bind_of_taken hcodes htaken]
        exact .taken hcodes htaken
      · have hfresh : ∀ key ∈ (m.registrationFor codes chord kind action).keys,
            m.registry.idOf? key = none := by
          simpa using htaken
        rw [bind_of_fresh hcodes hfresh]
        have hgrabs := Registration.grabs_eq (m.registrationFor codes chord kind action)
        have hgrabbed := grabAll_outcome kind.family
          (m.registrationFor codes chord kind action).grabbed halive
        generalize grabAll kind.family (m.registrationFor codes chord kind action).grabbed
          m.connection = grabbed at hgrabbed ⊢
        cases hgrabbed with
        | granted hfree halive' hsame hheld =>
            refine .made hcodes hfresh ?_ halive' hsame ?_
            · rw [hgrabs]
              exact List.forall_mem_map.mpr hfree
            · rw [hgrabs]
              exact hheld
        | @refused granted c hdenied halive' hsame hheld =>
            have hleft := release_connection m.registry kind.family granted c
            refine .denied (granted.map (Grab.on kind.family)) hcodes hfresh ?_
              (hleft.1.trans halive') (hleft.2.trans hsame) ?_
            · rw [hgrabs]
              obtain ⟨p, hp, hin⟩ := hdenied
              exact ⟨_, List.mem_map_of_mem hp, hin⟩
            · intro g
              rw [mem_held_release halive', hheld]

/-! ## Unregistering -/

/-- The ways in which unregistering can end while the server answers. -/
inductive UnregisterOutcome (m : Manager α) (id : Nat) :
    Except ManagerError Unit × Manager α → Prop where
  /-- No registration has the number. -/
  | unknown (hnone : m.registry.get? id = none) :
      UnregisterOutcome m id (.error .invalidId, m)
  /-- The registration is dropped, and of its grabs those that no other one needs. -/
  | dropped {r : Registration α} {registry : Registry α} {c : Connection}
      (hrem : m.registry.remove id = some (r, registry))
      (halive : c.alive = true) (hsame : c.denied = m.connection.denied)
      (hheld : ∀ g, g ∈ c.held ↔
        g ∈ m.connection.held ∧ (registry.needs g = true ∨ g ∉ r.grabs)) :
      UnregisterOutcome m id (.ok (), { m with connection := c, registry })

theorem unregister_outcome {m : Manager α} (halive : m.connection.alive = true) (id : Nat) :
    UnregisterOutcome m id (m.unregister id) := by
  unfold unregister
  cases hrem : m.registry.remove id with
  | none => exact .unknown (Registry.remove_eq_none.mp hrem)
  | some p =>
      obtain ⟨r, registry⟩ := p
      have hleft := release_connection registry r.kind.family r.grabbed m.connection
      refine .dropped hrem (hleft.1.trans halive) hleft.2 ?_
      intro g
      rw [mem_held_release halive, Registration.grabs_eq]

/-! ## The invariant -/

/-- What holds of a manager from its connection until it is detached or hung up on. -/
structure Sound (m : Manager α) : Prop where
  alive : m.connection.alive = true
  listening : m.listening = true
  registry : m.registry.Consistent
  ofChord : ∀ e ∈ m.registry.byId, ∃ chord,
    m.codesOf chord = .ok e.2.codes ∧ e.2.mods = m.locks.clean chord.mods
  grabbed : ∀ e ∈ m.registry.byId, e.2.grabbed = grabsFor m.locks e.2.codes e.2.mods
  held_iff : ∀ g, g ∈ m.connection.held ↔ ∃ e ∈ m.registry.byId, g ∈ e.2.grabs

theorem sound_opened (keymap : KeyMap) (locks : LockMasks) (denied : List Grab) :
    (opened keymap locks denied : Manager α).Sound where
  alive := rfl
  listening := rfl
  registry := Registry.consistent_empty
  ofChord := by simp [opened, Registry.empty]
  grabbed := by simp [opened, Registry.empty]
  held_iff := by simp [opened, Registry.empty, Connection.held]

namespace Sound

variable {m : Manager α}

theorem hears (h : m.Sound) : m.hears = true := by
  rw [Manager.hears, h.listening, h.alive]
  rfl

theorem codes_ne_nil (h : m.Sound) : ∀ e ∈ m.registry.byId, e.2.codes ≠ [] := by
  intro e he
  obtain ⟨chord, hcodes, _⟩ := h.ofChord e he
  exact codesOf_ne_nil hcodes

theorem grabbed_eq (h : m.Sound) {id : Nat} {r : Registration α}
    (hr : m.registry.get? id = some r) : r.grabbed = grabsFor m.locks r.codes r.mods :=
  h.grabbed (id, r) (h.registry.get?_iff.mp hr)

/-- What the server holds is what the registrations rely on. -/
theorem needs_iff (h : m.Sound) (g : Grab) :
    m.registry.needs g = true ↔ g ∈ m.connection.held := by
  rw [Registry.needs_iff h.codes_ne_nil, h.held_iff]

/-- A manager stays sound when only its connection changes and the server holds the same. -/
theorem setConnection (h : m.Sound) {c : Connection} (halive : c.alive = true)
    (hheld : ∀ g, g ∈ c.held ↔ g ∈ m.connection.held) : ({ m with connection := c }).Sound where
  alive := halive
  listening := h.listening
  registry := h.registry
  ofChord := h.ofChord
  grabbed := h.grabbed
  held_iff := fun g => (hheld g).trans (h.held_iff g)

/-- A bind that is refused halfway leaves the server with what it held before: what it was granted
on the way is either needed by a registration, and was held already, or is given up again. -/
theorem held_of_rollback (h : m.Sound) {c : Connection} {granted : List Grab}
    (hheld : ∀ g, g ∈ c.held ↔ (g ∈ m.connection.held ∨ g ∈ granted) ∧
      (m.registry.needs g = true ∨ g ∉ granted)) (g : Grab) :
    g ∈ c.held ↔ g ∈ m.connection.held := by
  rw [hheld, h.needs_iff]
  constructor
  · rintro ⟨hbefore | hgranted, hkeep⟩
    · exact hbefore
    · exact hkeep.resolve_right fun hout => hout hgranted
  · intro hbefore
    exact ⟨Or.inl hbefore, Or.inl hbefore⟩

protected theorem bind (h : m.Sound) (chord : Chord) (kind : EventKind) (action : α)
    (hnew : ∀ id, (m.bind chord kind action).1 = .ok id → m.registry.get? id = none) :
    (m.bind chord kind action).2.Sound := by
  have hout := bind_outcome h.alive chord kind action
  generalize m.bind chord kind action = out at hout hnew ⊢
  cases hout with
  | noCode _ => exact h
  | taken _ _ => exact h
  | denied _ _ _ _ halive _ hheld => exact h.setConnection halive (h.held_of_rollback hheld)
  | made hcodes hfresh _ halive _ hheld =>
      have hfree := hnew _ rfl
      have hbyId := Registry.byId_insert hfree
      refine ⟨halive, h.listening, h.registry.insert hfresh hfree, ?_, ?_, ?_⟩
      · intro e he
        rw [hbyId] at he
        rcases List.mem_append.mp he with hold | hnew
        · exact h.ofChord e hold
        · rw [List.mem_singleton.mp hnew]
          exact ⟨chord, hcodes, rfl⟩
      · intro e he
        rw [hbyId] at he
        rcases List.mem_append.mp he with hold | hnew
        · exact h.grabbed e hold
        · rw [List.mem_singleton.mp hnew]
          rfl
      · intro g
        rw [hheld, h.held_iff, hbyId]
        simp [or_and_right, exists_or]

/-- The registrations that are left are those with other numbers. -/
theorem mem_byId_of_remove {s s' : Registry α} {id : Nat} {r : Registration α}
    (hrem : s.remove id = some (r, s')) {e : Nat × Registration α} :
    e ∈ s'.byId ↔ e ∈ s.byId ∧ e.1 ≠ id := by
  obtain ⟨_, rfl⟩ := Registry.remove_eq_some.mp hrem
  simp [List.mem_filter]

/-- What is still needed after a registration is gone, and what is held then. -/
theorem held_of_unregister (h : m.Sound) {id : Nat} {r : Registration α}
    {registry : Registry α} (hrem : m.registry.remove id = some (r, registry)) {c : Connection}
    (hheld : ∀ g, g ∈ c.held ↔
      g ∈ m.connection.held ∧ (registry.needs g = true ∨ g ∉ r.grabs)) (g : Grab) :
    g ∈ c.held ↔ ∃ e ∈ registry.byId, g ∈ e.2.grabs := by
  have hneeds : registry.needs g = true ↔ ∃ e ∈ registry.byId, g ∈ e.2.grabs :=
    Registry.needs_iff fun e he => h.codes_ne_nil e ((mem_byId_of_remove hrem).mp he).1
  rw [hheld, h.held_iff, hneeds]
  constructor
  · rintro ⟨⟨e, he, hg⟩, hkeep⟩
    rcases hkeep with hneed | hout
    · exact hneed
    · -- The grab is not one of the removed registration, so it belongs to another.
      have hother : e.1 ≠ id := by
        intro hid
        have hr := h.registry.get?_iff.mpr (hid ▸ he : (id, e.2) ∈ m.registry.byId)
        rw [(Registry.remove_eq_some.mp hrem).1] at hr
        exact hout (Option.some.inj hr ▸ hg)
      exact ⟨e, (mem_byId_of_remove hrem).mpr ⟨he, hother⟩, hg⟩
  · rintro ⟨e, he, hg⟩
    exact ⟨⟨e, ((mem_byId_of_remove hrem).mp he).1, hg⟩, Or.inl ⟨e, he, hg⟩⟩

protected theorem unregister (h : m.Sound) (id : Nat) : (m.unregister id).2.Sound := by
  have hout := unregister_outcome h.alive id
  generalize m.unregister id = out at hout ⊢
  cases hout with
  | unknown _ => exact h
  | dropped hrem halive _ hheld =>
      exact {
        alive := halive
        listening := h.listening
        registry := h.registry.remove hrem
        ofChord := fun e he => h.ofChord e ((mem_byId_of_remove hrem).mp he).1
        grabbed := fun e he => h.grabbed e ((mem_byId_of_remove hrem).mp he).1
        held_iff := h.held_of_unregister hrem hheld }

/-- One step keeps a manager sound, if it gives a free number or none. -/
protected theorem step (h : m.Sound) (s : Step α)
    (hnew : ∀ id, (m.step s).1.newId? = some id → m.registry.get? id = none) :
    (m.step s).2.Sound := by
  cases s with
  | bind chord kind action =>
      exact h.bind chord kind action fun id hid => hnew id (newId?_step_bind.mpr hid)
  | unregister id => exact h.unregister id
  | deny denied => exact h.setConnection h.alive fun _ => Iff.rfl
  | event kind code state => exact h

/-- A whole run that gives free numbers keeps a manager sound. -/
protected theorem after (h : m.Sound) {steps : List (Step α)}
    (hnumbers : m.GivesFreeNumbers steps) : (m.after steps).Sound := by
  induction steps generalizing m with
  | nil => exact h
  | cons s rest ih => exact ih (h.step s hnumbers.1) hnumbers.2

end Sound

/-! ## What never changes -/

theorem step_keyboard {m : Manager α} (halive : m.connection.alive = true) (s : Step α) :
    (m.step s).2.connection.alive = true ∧ (m.step s).2.keymap = m.keymap ∧
      (m.step s).2.locks = m.locks := by
  cases s with
  | bind chord kind action =>
      have hout := bind_outcome halive chord kind action
      rw [step]
      generalize m.bind chord kind action = out at hout ⊢
      cases hout with
      | noCode _ => exact ⟨halive, rfl, rfl⟩
      | taken _ _ => exact ⟨halive, rfl, rfl⟩
      | denied _ _ _ _ halive' _ _ => exact ⟨halive', rfl, rfl⟩
      | made _ _ _ halive' _ _ => exact ⟨halive', rfl, rfl⟩
  | unregister id =>
      have hout := unregister_outcome halive id
      rw [step]
      generalize m.unregister id = out at hout ⊢
      cases hout with
      | unknown _ => exact ⟨halive, rfl, rfl⟩
      | dropped _ halive' _ _ => exact ⟨halive', rfl, rfl⟩
  | deny denied => exact ⟨halive, rfl, rfl⟩
  | event kind code state => exact ⟨halive, rfl, rfl⟩

/-- The keyboard and its locks stay as they were at the time of connecting. -/
theorem after_keyboard {m : Manager α} (halive : m.connection.alive = true)
    (steps : List (Step α)) :
    (m.after steps).connection.alive = true ∧ (m.after steps).keymap = m.keymap ∧
      (m.after steps).locks = m.locks := by
  induction steps generalizing m with
  | nil => exact ⟨halive, rfl, rfl⟩
  | cons s rest ih =>
      obtain ⟨halive', hkeymap', hlocks'⟩ := step_keyboard halive s
      obtain ⟨hlast, hkeymap, hlocks⟩ := ih halive'
      exact ⟨hlast, hkeymap.trans hkeymap', hlocks.trans hlocks'⟩

end Manager

end Hotkeys.X11
