import Hotkeys.Engine.Display
import Hotkeys.Engine.Registration
import Hotkeys.Proofs.Keys.Analysis
import Hotkeys.Proofs.X11.Bindings
import Hotkeys.Proofs.X11.Holding
import Hotkeys.Proofs.X11.KeyCodes

/-!
# The first binding of an event is registered

On a display, the bindings of a configuration are bound one after the other through one manager.
`Setting.Refused` says for which reasons a binding is not registered: its text names no chord, its
key has no code, a binding that is registered already catches one of its events, or the server
denies one of its grabs.  `Setting.Settled` is the list of bindings with what becomes of each when
nothing else counts.

`Setting.Holding` relates a manager to the bindings that are registered in it.  Binding one more
keeps it (`Holding.bindText`), and so does a whole list (`registerEach_onDisplay`).  The counter of
numbers does not come to its end meanwhile: no event is one of two registered bindings, and there
are fewer events than numbers (`Holding.room`).  Main statement: `registerAll_first_wins`, which
also says what a refused binding leaves behind, namely nothing.
-/

set_option autoImplicit false

namespace Hotkeys.Engine

open Hotkeys.Config (Binding Configuration)
open Hotkeys.Keys (Chord ChordError Mask)
open Hotkeys.X11 (Bindings Entry Grab KeyMap Keycode LockMasks Manager Registry Server Step
  maxKeycode)

/-! ## Who is refused -/

/-- The chord that a binding names. -/
def chordOf (b : Binding) : Except ChordError Chord :=
  Chord.ofText b.normalized b.event.isButton

/-- What decides about a binding besides the bindings before it. -/
structure Setting where
  /-- The keyboard. -/
  keymap : KeyMap
  /-- Its lock modifiers. -/
  locks : LockMasks
  /-- The grabs that the server denies. -/
  denied : List Grab
  /-- The codes of the keyboard are codes of keys. -/
  codes_le : ∀ sym, ∀ code ∈ keymap.codes sym, code ≤ maxKeycode

namespace Setting

/-- The setting that a server makes. -/
def ofServer (server : Server) : Setting :=
  let keyboard := server.keyboard
  let keymap := KeyMap.ofTable keyboard.firstCode keyboard.perCode keyboard.keysyms
  { keymap
    locks := LockMasks.ofTable keymap keyboard.modifierCodes
    denied := server.denied
    codes_le := fun _ _ hcode => KeyMap.le_maxKeycode_of_mem_ofTable hcode }

/-- A manager that has bound nothing yet. -/
def manager (t : Setting) : Manager Job :=
  Manager.opened t.keymap t.locks t.denied

/-- Connecting to a server leads to such a manager. -/
theorem connect_ofServer {server : Server} (h : server.failing = none) :
    Manager.connect server = .ok (ofServer server).manager :=
  Manager.connect_eq_ok.mpr ⟨h, rfl⟩

/-- The codes that produce the key or button of a chord. -/
def codes (t : Setting) (chord : Chord) : List Keycode :=
  match chord.target with
  | .button number => [number]
  | .key sym => t.keymap.codes sym

/-- An event of this kind, with this code, under these clean modifiers is one of a binding. -/
def Catches (t : Setting) (b : Binding) (kind : EventKind) (code : Keycode) (mods : Mask) : Prop :=
  ∃ chord, chordOf b = .ok chord ∧
    b.event = kind ∧ code ∈ t.codes chord ∧ t.locks.clean chord.mods = mods

/-- A binding is grabbed by this grab among others: one of its codes, under its modifiers and a
combination of locks. -/
def Needs (t : Setting) (b : Binding) (g : Grab) : Prop :=
  ∃ chord, chordOf b = .ok chord ∧
    ∃ code ∈ t.codes chord, ∃ extra ∈ t.locks.combinations,
      g = { family := b.event.family, code, mods := t.locks.clean chord.mods ||| extra }

/-- No event is one of both bindings. -/
def Apart (t : Setting) (b b' : Binding) : Prop :=
  ∀ kind code mods, ¬ (t.Catches b kind code mods ∧ t.Catches b' kind code mods)

/-- The reasons for which a binding is not registered behind the registered ones. -/
inductive Refused (t : Setting) (live : List Binding) (b : Binding) : Prop where
  /-- Its text names no chord. -/
  | unreadable {e : ChordError} (hchord : chordOf b = .error e)
  /-- Its key has no code. -/
  | noCode {chord : Chord} (hchord : chordOf b = .ok chord) (hcodes : t.codes chord = [])
  /-- A registered binding catches one of its events. -/
  | taken {other : Binding} (hlive : other ∈ live) {kind : EventKind} {code : Keycode}
      {mods : Mask} (hother : t.Catches other kind code mods) (hown : t.Catches b kind code mods)
  /-- The server denies one of its grabs. -/
  | denied {g : Grab} (hneeds : t.Needs b g) (hdenied : g ∈ t.denied)

variable {t : Setting} {c : Configuration} {live : List Binding} {b : Binding} {chord : Chord}

/-- The codes of the chord of a binding are codes of keys or numbers of buttons, which both end at
the same one. -/
theorem codes_le_of_chordOf (t : Setting) (hchord : chordOf b = .ok chord) :
    ∀ code ∈ t.codes chord, code ≤ maxKeycode := by
  intro code hcode
  rw [codes] at hcode
  cases htarget : chord.target with
  | key sym =>
      rw [htarget] at hcode
      exact t.codes_le sym code hcode
  | button number =>
      rw [htarget, List.mem_singleton] at hcode
      rw [chordOf, Chord.ofText] at hchord
      split at hchord
      · obtain ⟨part, number', -, hnumber, hbutton⟩ := Chord.ofButtonText_eq_ok_iff.mp hchord
        rw [htarget] at hbutton
        cases hbutton
        exact hcode ▸ (Chord.bounds_of_buttonNumber? hnumber).2
      · obtain ⟨part, sym, -, -, hkey⟩ := Chord.ofKeyText_eq_ok_iff.mp hchord
        rw [htarget] at hkey
        cases hkey

theorem catches_iff (hchord : chordOf b = .ok chord) {kind : EventKind} {code : Keycode}
    {mods : Mask} :
    t.Catches b kind code mods ↔
      b.event = kind ∧ code ∈ t.codes chord ∧ t.locks.clean chord.mods = mods := by
  simp [Catches, hchord]

theorem needs_iff (hchord : chordOf b = .ok chord) {g : Grab} :
    t.Needs b g ↔ ∃ code ∈ t.codes chord, ∃ extra ∈ t.locks.combinations,
      g = { family := b.event.family, code, mods := t.locks.clean chord.mods ||| extra } := by
  simp [Needs, hchord]

/-- Of a binding whose chord is known, two reasons are left besides a missing code. -/
theorem refused_iff (hchord : chordOf b = .ok chord) :
    t.Refused live b ↔ t.codes chord = [] ∨
      (∃ other ∈ live, ∃ code ∈ t.codes chord,
        t.Catches other b.event code (t.locks.clean chord.mods)) ∨
      ∃ code ∈ t.codes chord, ∃ extra ∈ t.locks.combinations,
        { family := b.event.family, code, mods := t.locks.clean chord.mods ||| extra : Grab } ∈
          t.denied := by
  constructor
  · rintro (hnone | ⟨hchord', hcodes⟩ | ⟨hlive, hother, hown⟩ | ⟨hneeds, hdenied⟩)
    · rw [hchord] at hnone
      exact absurd hnone (by simp)
    · rw [hchord] at hchord'
      exact Or.inl (Except.ok.inj hchord' ▸ hcodes)
    · obtain ⟨rfl, hcode, rfl⟩ := (catches_iff hchord).mp hown
      exact Or.inr (Or.inl ⟨_, hlive, _, hcode, hother⟩)
    · obtain ⟨code, hcode, extra, hextra, rfl⟩ := (needs_iff hchord).mp hneeds
      exact Or.inr (Or.inr ⟨code, hcode, extra, hextra, hdenied⟩)
  · rintro (hcodes | ⟨other, hlive, code, hcode, hother⟩ | ⟨code, hcode, extra, hextra, hdenied⟩)
    · exact .noCode hchord hcodes
    · exact .taken hlive hother ((catches_iff hchord).mpr ⟨rfl, hcode, rfl⟩)
    · exact .denied ((needs_iff hchord).mpr ⟨code, hcode, extra, hextra, rfl⟩) hdenied

end Setting

/-! ## What becomes of a list of bindings -/

/-- Bindings, each with the number of its registration if there is one. -/
abbrev Outcomes := List (Binding × Option Nat)

namespace Outcomes

/-- The bindings that are registered. -/
def registered (o : Outcomes) : List Binding :=
  (o.filter fun r => r.2.isSome).map Prod.fst

/-- The numbers of the registrations and the texts of the other bindings. -/
def report (o : Outcomes) : Registered :=
  { ids := o.filterMap Prod.snd
    failed := (o.filter fun r => r.2.isNone).map fun r => r.1.written }

@[simp] theorem registered_none (b : Binding) (o : Outcomes) :
    registered ((b, none) :: o) = registered o := rfl

@[simp] theorem registered_some (b : Binding) (id : Nat) (o : Outcomes) :
    registered ((b, some id) :: o) = b :: registered o := rfl

@[simp] theorem registered_append (o o' : Outcomes) :
    registered (o ++ o') = registered o ++ registered o' := by
  simp [registered]

/-- A binding whose text is not reported is registered. -/
theorem mem_registered_of_notMem_failed {o : Outcomes} {b : Binding} (hb : b ∈ o.map Prod.fst)
    (hnot : b.written ∉ o.report.failed) : b ∈ o.registered := by
  obtain ⟨⟨b, number⟩, hr, rfl⟩ := List.mem_map.mp hb
  refine List.mem_map_of_mem (List.mem_filter.mpr ⟨hr, ?_⟩)
  cases number with
  | some id => rfl
  | none => exact absurd (List.mem_map_of_mem (List.mem_filter.mpr ⟨hr, rfl⟩)) hnot

theorem report_ids_delete (before after : Outcomes) (b : Binding) :
    (report (before ++ (b, none) :: after)).ids = (report (before ++ after)).ids := by
  simp [report]

end Outcomes

namespace Setting

variable {t : Setting} {c : Configuration} {live : List Binding} {b : Binding}

/-- Behind registered bindings, each binding gets the next number unless it is refused. -/
def Settled (t : Setting) : List Binding → Outcomes → Prop
  | _, [] => True
  | live, (b, none) :: rest => t.Refused live b ∧ Settled t live rest
  | live, (b, some id) :: rest =>
    ¬ t.Refused live b ∧ id = live.length + 1 ∧ Settled t (live ++ [b]) rest

theorem settled_append {before after : Outcomes} :
    t.Settled live (before ++ after) ↔
      t.Settled live before ∧ t.Settled (live ++ before.registered) after := by
  induction before generalizing live with
  | nil => simp [Settled, Outcomes.registered]
  | cons r rest ih =>
      obtain ⟨b, _ | id⟩ := r
      · simp [Settled, ih, and_assoc]
      · simp [Settled, ih, and_assoc]

/-- What becomes of bindings is determined. -/
theorem Settled.unique {o o' : Outcomes} (h : t.Settled live o) (h' : t.Settled live o')
    (hsame : o.map Prod.fst = o'.map Prod.fst) : o = o' := by
  induction o generalizing live o' with
  | nil => exact (List.map_eq_nil_iff.mp hsame.symm).symm
  | cons r rest ih =>
      obtain ⟨r', rest', rfl, hfst, hrest⟩ := List.map_eq_cons_iff.mp hsame.symm
      obtain ⟨b, number⟩ := r
      obtain ⟨b', number'⟩ := r'
      cases hfst
      cases number with
      | none =>
          cases number' with
          | none => rw [ih h.2 h'.2 hrest.symm]
          | some id' => exact absurd h.1 h'.1
      | some id =>
          cases number' with
          | none => exact absurd h'.1 h.1
          | some id' => rw [h.2.1, h'.2.1, ih h.2.2 h'.2.2 hrest.symm]

/-- A binding among others is refused for what is registered before it, or gets the next number. -/
theorem Settled.outcome {before after : Outcomes} {number : Option Nat}
    (h : t.Settled live (before ++ (b, number) :: after)) :
    (t.Refused (live ++ before.registered) b ∧ number = none) ∨
      (¬ t.Refused (live ++ before.registered) b ∧
        number = some ((live ++ before.registered).length + 1)) := by
  have hhere := (settled_append.mp h).2
  cases number with
  | none => exact Or.inl ⟨hhere.1, rfl⟩
  | some id => exact Or.inr ⟨hhere.1, by rw [hhere.2.1]⟩

/-- A refused binding does not count for the others. -/
theorem Settled.delete {before after : Outcomes}
    (h : t.Settled live (before ++ (b, none) :: after)) : t.Settled live (before ++ after) := by
  obtain ⟨hbefore, hhere⟩ := settled_append.mp h
  exact settled_append.mpr ⟨hbefore, hhere.2⟩

/-- No event is one of two registered bindings. -/
theorem Settled.pairwise {o : Outcomes} (h : t.Settled live o) (hlive : live.Pairwise t.Apart) :
    (live ++ o.registered).Pairwise t.Apart := by
  induction o generalizing live with
  | nil => simpa [Outcomes.registered] using hlive
  | cons r rest ih =>
      obtain ⟨b, _ | id⟩ := r
      · exact ih h.2 hlive
      · have hlonger : (live ++ [b]).Pairwise t.Apart := by
          refine List.pairwise_append.mpr ⟨hlive, List.pairwise_singleton _ _, ?_⟩
          -- A binding that shared an event with an earlier one would have been refused.
          intro other hother b' hb' kind code mods hboth
          rw [List.mem_singleton.mp hb'] at hboth
          exact h.1 (.taken hother hboth.1 hboth.2)
        simpa using ih h.2.2 hlonger

/-! ## Managers that hold bindings -/

/-- An entry of a manager is the one of a binding. -/
structure Represents (t : Setting) (c : Configuration) (e : Entry Job) (b : Binding) : Prop where
  chord : ∃ chord, chordOf b = .ok chord ∧
    e.codes = t.codes chord ∧ e.mods = t.locks.clean chord.mods
  kind : e.kind = b.event
  action : e.action = jobOf c b.command

namespace Represents

variable {e : Entry Job}

theorem matches_iff (h : t.Represents c e b) {kind : EventKind} {code : Keycode} {mods : Mask} :
    e.Matches kind code mods ↔ t.Catches b kind code mods := by
  obtain ⟨chord, hchord, hcodes, hmods⟩ := h.chord
  rw [catches_iff hchord, Entry.Matches, h.kind, hcodes, hmods]

theorem grabbed_iff (h : t.Represents c e b) {g : Grab} :
    (∃ code ∈ e.codes, ∃ extra ∈ t.locks.combinations,
      g = { family := e.kind.family, code, mods := e.mods ||| extra }) ↔ t.Needs b g := by
  obtain ⟨chord, hchord, hcodes, hmods⟩ := h.chord
  rw [needs_iff hchord, h.kind, hcodes, hmods]

end Represents

/-- A manager has registered these bindings and no others. -/
structure Holding (t : Setting) (c : Configuration) (live : List Binding) (m : Manager Job) :
    Prop where
  sound : m.Sound
  keymap : m.keymap = t.keymap
  locks : m.locks = t.locks
  denied : m.bindings.denied = t.denied
  counted : m.registry.Counted
  lastId : m.bindings.lastId = live.length
  entries : List.Forall₂ (t.Represents c) m.bindings.entries live

theorem holding_manager (t : Setting) (c : Configuration) : t.Holding c [] t.manager where
  sound := Manager.sound_opened _ _ _
  keymap := rfl
  locks := rfl
  denied := rfl
  counted := Registry.counted_empty
  lastId := rfl
  entries := .nil

/-- A question that is the same for an entry and its binding is the same for all of them. -/
theorem exists_entry_iff {entries : List (Entry Job)}
    (h : List.Forall₂ (t.Represents c) entries live) {P : Entry Job → Prop} {Q : Binding → Prop}
    (hiff : ∀ e b, t.Represents c e b → (P e ↔ Q b)) :
    (∃ e ∈ entries, P e) ↔ ∃ b ∈ live, Q b := by
  induction h with
  | nil => simp
  | cons hhead _ ih => simp [hiff _ _ hhead, ih]

/-! ## Binding one binding -/

theorem bind_of_no_codes (b : Bindings Job) {chord : Chord} (hcodes : t.codes chord = [])
    (kind : EventKind) (action : Job) :
    ∃ e, b.bind t.keymap t.locks chord kind action = (.error e, b) := by
  rw [codes] at hcodes
  rw [Bindings.bind]
  cases htarget : chord.target with
  | button number => simp [htarget] at hcodes
  | key sym =>
      rw [htarget] at hcodes
      exact ⟨_, if_pos hcodes⟩

theorem bind_of_codes (b : Bindings Job) {chord : Chord} (hcodes : t.codes chord ≠ [])
    (kind : EventKind) (action : Job) :
    b.bind t.keymap t.locks chord kind action =
      b.bindCodes t.locks (t.codes chord) chord kind action := by
  rw [codes] at hcodes ⊢
  rw [Bindings.bind]
  cases htarget : chord.target with
  | button number => rfl
  | key sym =>
      rw [htarget] at hcodes
      exact if_neg hcodes

/-- What binding a binding can come to: nothing, or one more registration with the next number. -/
inductive Bound (t : Setting) (c : Configuration) (live : List Binding) (b : Binding) :
    Except Error Nat × Manager Job → Prop where
  | refused {e : Error} {m : Manager Job} (hrefused : t.Refused live b)
      (hholding : t.Holding c live m) : Bound t c live b (.error e, m)
  | made {m : Manager Job} (hfree : ¬ t.Refused live b)
      (hholding : t.Holding c (live ++ [b]) m) : Bound t c live b (.ok (live.length + 1), m)

namespace Holding

variable {m : Manager Job}

/-- There are far fewer registered bindings than numbers. -/
theorem room (h : t.Holding c live m) : m.registry.lastId.toNat + 1 < 2 ^ 32 := by
  have hlength : m.registry.byId.length = live.length := by
    have hentries := h.entries.length_eq
    rwa [Manager.bindings, List.length_map] at hentries
  have hle : m.registry.byId.length ≤ 2 ^ 26 := by
    refine h.sound.registry.length_le fun e he => ?_
    obtain ⟨i, hi, hentry⟩ :=
      List.getElem_of_mem (List.mem_map_of_mem (f := Entry.ofRegistration) he)
    have hrep := h.entries.get hi (h.entries.length_eq ▸ hi)
    obtain ⟨chord, hchord, hcodes, -⟩ := hrep.chord
    have hsame : (m.bindings.entries.get ⟨i, hi⟩).codes = e.2.codes := congrArg Entry.codes hentry
    obtain ⟨code, hcode⟩ := List.exists_mem_of_ne_nil _ (h.sound.codes_ne_nil e he)
    exact ⟨code, hcode, t.codes_le_of_chordOf hchord code ((hsame.symm.trans hcodes) ▸ hcode)⟩
  have hlast : m.registry.lastId.toNat = live.length := h.lastId
  omega

/-- Binding gives the number behind the last, which is free. -/
theorem bind_number (h : t.Holding c live m) (chord : Chord) (kind : EventKind) (action : Job) :
    (∀ id, (m.bind chord kind action).1 = .ok id →
      m.registry.get? id = none ∧ id = m.registry.lastId.toNat + 1) ∧
      (m.bind chord kind action).2.registry.Counted := by
  have hone : (m.givenNumbers [.bind chord kind action]).length ≤ 1 :=
    Manager.length_givenNumbers_le h.sound.alive [.bind chord kind action]
  have hroom : m.registry.lastId.toNat +
      (m.givenNumbers [.bind chord kind action]).length < 2 ^ 32 := by
    have hlast := h.room
    omega
  obtain ⟨hnew, hcounted, -⟩ := Manager.step_room h.sound.alive h.counted hroom
  refine ⟨fun id hid => ?_, hcounted⟩
  obtain ⟨hfree, hnext, -⟩ := hnew id (Manager.newId?_step_bind.mpr hid)
  exact ⟨hfree, hnext⟩

/-- Binding changes neither the keyboard nor what makes a manager sound. -/
theorem of_bind (h : t.Holding c live m) (chord : Chord) (kind : EventKind) (action : Job)
    {next : Bindings Job} {live' : List Binding}
    (hnext : next = (m.bind chord kind action).2.bindings) (hdenied : next.denied = t.denied)
    (hlastId : next.lastId = live'.length)
    (hentries : List.Forall₂ (t.Represents c) next.entries live') :
    t.Holding c live' (m.bind chord kind action).2 := by
  obtain ⟨-, hkeymap, hlocks⟩ :=
    Manager.step_keyboard h.sound.alive (.bind chord kind action)
  obtain ⟨hnew, hcounted⟩ := h.bind_number chord kind action
  subst hnext
  exact {
    sound := h.sound.bind chord kind action fun id hid => (hnew id hid).1
    keymap := hkeymap.trans h.keymap
    locks := hlocks.trans h.locks
    denied := hdenied
    counted := hcounted
    lastId := hlastId
    entries := hentries }

/-- A chord is taken exactly if a registered binding catches one of its events. -/
theorem taken_iff (h : t.Holding c live m) (kind : EventKind) (codes : List Keycode)
    (mods : Mask) :
    (∃ e ∈ m.bindings.entries, ∃ code ∈ codes, e.Matches kind code mods) ↔
      ∃ other ∈ live, ∃ code ∈ codes, t.Catches other kind code mods := by
  refine exists_entry_iff h.entries fun e b hrep => ?_
  simp only [hrep.matches_iff]

/-- A bind that fails and leaves the bindings as they were is one of a refused binding. -/
theorem bound_of_error (h : t.Holding c live m) {chord : Chord} {e : X11.ManagerError}
    (hrefused : t.Refused live b)
    (hbind : (.error e, m.bindings) = ((m.bind chord b.event (jobOf c b.command)).1,
      (m.bind chord b.event (jobOf c b.command)).2.bindings)) :
    Bound t c live b
      ((m.bind chord b.event (jobOf c b.command)).1.mapError .manager,
        (m.bind chord b.event (jobOf c b.command)).2) := by
  obtain ⟨hanswer, hnext⟩ := Prod.mk.inj hbind
  rw [← hanswer]
  exact .refused hrefused (h.of_bind _ _ _ hnext h.denied h.lastId h.entries)

/-- Binding the chord of one more binding. -/
theorem bind_chord (h : t.Holding c live m) {chord : Chord} (hchord : chordOf b = .ok chord) :
    Bound t c live b
      ((m.bind chord b.event (jobOf c b.command)).1.mapError .manager,
        (m.bind chord b.event (jobOf c b.command)).2) := by
  have hbind := h.sound.bind_bindings chord b.event (jobOf c b.command)
    (h.bind_number chord b.event (jobOf c b.command)).1
  rw [h.keymap, h.locks] at hbind
  have hreasons : t.Refused live b ↔ _ := refused_iff hchord
  rw [← h.taken_iff] at hreasons
  by_cases hcodes : t.codes chord = []
  · obtain ⟨e, hnone⟩ := bind_of_no_codes m.bindings hcodes b.event (jobOf c b.command)
    exact h.bound_of_error (hreasons.mpr (Or.inl hcodes)) (hnone.symm.trans hbind)
  rw [bind_of_codes _ hcodes, Bindings.bindCodes, h.denied] at hbind
  by_cases htaken : ∃ e ∈ m.bindings.entries, ∃ code ∈ t.codes chord,
      e.Matches b.event code (t.locks.clean chord.mods)
  · rw [if_pos htaken] at hbind
    exact h.bound_of_error (hreasons.mpr (Or.inr (Or.inl htaken))) hbind
  rw [if_neg htaken] at hbind
  by_cases hdenied : ∃ code ∈ t.codes chord, ∃ extra ∈ t.locks.combinations,
      { family := b.event.family, code, mods := t.locks.clean chord.mods ||| extra : Grab } ∈
        t.denied
  · rw [if_pos hdenied] at hbind
    exact h.bound_of_error (hreasons.mpr (Or.inr (Or.inr hdenied))) hbind
  rw [if_neg hdenied] at hbind
  have hfree : ¬ t.Refused live b := by simp [hreasons, hcodes, htaken, hdenied]
  have hnew : t.Represents c
      { id := m.bindings.lastId + 1, kind := b.event, codes := t.codes chord
        mods := t.locks.clean chord.mods, action := jobOf c b.command } b :=
    { chord := ⟨chord, hchord, rfl, rfl⟩, kind := rfl, action := rfl }
  obtain ⟨hanswer, hnext⟩ := Prod.mk.inj hbind
  rw [← hanswer, h.lastId]
  refine .made hfree (h.of_bind _ _ _ hnext rfl ?_ ?_)
  · simp [h.lastId]
  · exact List.rel_append h.entries (.cons hnew .nil)

/-- Binding the text of one more binding. -/
theorem bindText (h : t.Holding c live m) (b : Binding) :
    Bound t c live b (Engine.bindText m b.normalized b.event (jobOf c b.command)) := by
  cases hchord : chordOf b with
  | error e =>
      have hanswer : Engine.bindText m b.normalized b.event (jobOf c b.command) =
          (.error (.chord e), m) := by
        rw [Engine.bindText, ← chordOf, hchord]
      rw [hanswer]
      exact .refused (.unreadable hchord) h
  | ok chord =>
      have hanswer : Engine.bindText m b.normalized b.event (jobOf c b.command) =
          ((m.bind chord b.event (jobOf c b.command)).1.mapError .manager,
            (m.bind chord b.event (jobOf c b.command)).2) := by
        rw [Engine.bindText, ← chordOf, hchord]
      rw [hanswer]
      exact h.bind_chord hchord

/-- The server holds the grabs that registered bindings need. -/
theorem mem_held_iff (h : t.Holding c live m) (g : Grab) :
    g ∈ m.connection.held ↔ ∃ b ∈ live, t.Needs b g := by
  rw [← exists_entry_iff h.entries fun e b hrep => hrep.grabbed_iff (g := g), h.sound.mem_held_iff,
    h.locks]
  constructor
  · rintro ⟨id, r, hr, hwants⟩
    exact ⟨_, h.sound.mem_entries.mpr ⟨id, r, hr, rfl⟩, hwants⟩
  · rintro ⟨e, he, hwants⟩
    obtain ⟨id, r, hr, rfl⟩ := h.sound.mem_entries.mp he
    exact ⟨id, r, hr, hwants⟩

/-- An event runs the job of a registered binding that catches it. -/
theorem actionFor_eq_some_iff (h : t.Holding c live m) {kind : EventKind} {code : Keycode}
    {state : Mask} {job : Job} :
    m.actionFor kind code state = some job ↔
      ∃ b ∈ live, t.Catches b kind code (t.locks.clean state) ∧ jobOf c b.command = job := by
  rw [h.sound.actionFor_eq_some_iff, h.locks]
  refine exists_entry_iff h.entries fun e b hrep => ?_
  rw [hrep.matches_iff, hrep.action]

end Holding

end Setting

/-! ## Binding a configuration -/

namespace Display

/-- The grabs that the server holds for a session. -/
def held (d : Display) (session : Nat) : Finset Grab :=
  match d.managers[session]? with
  | none => ∅
  | some m => m.connection.held

/-- The job that an event runs in a session. -/
def jobFor (d : Display) (session : Nat) (kind : EventKind) (code : Keycode) (state : Mask) :
    Option Job :=
  d.managers[session]?.bind fun m => m.actionFor kind code state

variable (server : Option Server) (attempts : Nat) (past : List (Manager Job)) (m : Manager Job)

/-- The session that was opened last. -/
theorem held_last :
    Display.held { server, attempts, managers := past ++ [m] } past.length = m.connection.held := by
  have hlast : (past ++ [m])[past.length]? = some m := List.getElem?_concat_length
  rw [held, hlast]

theorem jobFor_last (kind : EventKind) (code : Keycode) (state : Mask) :
    Display.jobFor { server, attempts, managers := past ++ [m] } past.length kind code state =
      m.actionFor kind code state := by
  have hlast : (past ++ [m])[past.length]? = some m := List.getElem?_concat_length
  rw [jobFor, hlast, Option.bind_some]

theorem bind_last (chord : Text) (event : EventKind) (job : Job) :
    Display.bind past.length chord event job { server, attempts, managers := past ++ [m] } =
      ((bindText m chord event job).1,
        { server, attempts, managers := past ++ [(bindText m chord event job).2] }) := by
  have hlast : (past ++ [m])[past.length]? = some m := List.getElem?_concat_length
  rw [Display.bind]
  simp only [hlast, List.set_append_right _ _ (Nat.le_refl _), Nat.sub_self, List.set_cons_zero]

end Display

section Registering

variable {σ ι : Type} {backend : Backend σ ι} {session : ι} {c : Configuration} {b : Binding}
  {s s' : σ}

theorem registerEach_cons_error {e : Error}
    (h : register backend session c b s = (.error e, s')) (bs : List Binding) :
    let rest := registerEach backend session c bs s'
    let out := registerEach backend session c (b :: bs) s
    out.1 = { rest.1 with failed := b.written :: rest.1.failed } ∧ out.2.2 = rest.2.2 := by
  rw [registerEach, h]
  exact ⟨rfl, rfl⟩

theorem registerEach_cons_ok {id : Nat} (h : register backend session c b s = (.ok id, s'))
    (bs : List Binding) :
    let rest := registerEach backend session c bs s'
    let out := registerEach backend session c (b :: bs) s
    out.1 = { rest.1 with ids := id :: rest.1.ids } ∧ out.2.2 = rest.2.2 := by
  rw [registerEach, h]
  exact ⟨rfl, rfl⟩

end Registering

namespace Setting

variable {t : Setting} {c : Configuration}

/-- Binding bindings one after the other in the session that was opened last. -/
theorem registerEach_onDisplay (server : Option Server) (attempts : Nat) (past : List (Manager Job))
    {live : List Binding} {m : Manager Job} (h : t.Holding c live m) (bs : List Binding) :
    let out := registerEach onDisplay past.length c bs
      { server, attempts, managers := past ++ [m] }
    ∃ (o : Outcomes) (next : Manager Job), o.map Prod.fst = bs ∧ t.Settled live o ∧
      out.1 = o.report ∧ out.2.2 = { server, attempts, managers := past ++ [next] } ∧
      t.Holding c (live ++ o.registered) next := by
  -- Each binding leaves another manager behind, which holds what the rest begins with.
  induction bs generalizing live m with
  | nil => exact ⟨[], m, rfl, trivial, rfl, rfl, by simpa [Outcomes.registered] using h⟩
  | cons b bs ih =>
      have hregister : register onDisplay past.length c b
          { server, attempts, managers := past ++ [m] } = _ :=
        Display.bind_last server attempts past m b.normalized b.event (jobOf c b.command)
      have hbound := h.bindText b
      generalize bindText m b.normalized b.event (jobOf c b.command) = answer at hregister hbound
      cases hbound with
      | refused hrefused hholding =>
          obtain ⟨hreport, hdisplay⟩ := registerEach_cons_error hregister bs
          obtain ⟨o, next, hfst, hsettled, hrest, hlast, hnext⟩ := ih hholding
          refine ⟨(b, none) :: o, next, by rw [List.map_cons, hfst], ⟨hrefused, hsettled⟩, ?_,
            hdisplay.trans hlast, hnext⟩
          rw [hreport, hrest]
          rfl
      | made hfree hholding =>
          obtain ⟨hreport, hdisplay⟩ := registerEach_cons_ok hregister bs
          obtain ⟨o, next, hfst, hsettled, hrest, hlast, hnext⟩ := ih hholding
          refine ⟨(b, some (live.length + 1)) :: o, next, by rw [List.map_cons, hfst],
            ⟨hfree, rfl, hsettled⟩, ?_, hdisplay.trans hlast, by simpa using hnext⟩
          rw [hreport, hrest]
          rfl

/-- What is seen of registering a configuration in a session that has just been opened. -/
structure Registers (t : Setting) (c : Configuration) (session : Nat) (o : Outcomes)
    (out : Registered × Log × Display) : Prop where
  bindings : o.map Prod.fst = c.bindings
  settled : t.Settled [] o
  report : out.1 = o.report
  held : ∀ g, g ∈ out.2.2.held session ↔ ∃ b ∈ o.registered, t.Needs b g
  jobFor : ∀ kind code state job, out.2.2.jobFor session kind code state = some job ↔
    ∃ b ∈ o.registered, t.Catches b kind code (t.locks.clean state) ∧ jobOf c b.command = job

theorem registers (server : Option Server) (attempts : Nat) (past : List (Manager Job))
    (t : Setting) (c : Configuration) :
    ∃ o, t.Registers c past.length o (registerAll onDisplay past.length c
      { server, attempts, managers := past ++ [t.manager] }) := by
  obtain ⟨o, m, hfst, hsettled, hreport, hlast, hholding⟩ :=
    registerEach_onDisplay server attempts past (t.holding_manager c) c.bindings
  refine ⟨o, hfst, hsettled, hreport, ?_, ?_⟩
  · intro g
    rw [registerAll, hlast, Display.held_last, hholding.mem_held_iff, List.nil_append]
  · intro kind code state job
    rw [registerAll, hlast, Display.jobFor_last, hholding.actionFor_eq_some_iff, List.nil_append]

/-- Registering a configuration without a refused binding. -/
theorem Registers.delete {session : Nat} {before after : Outcomes} {b : Binding}
    {out less : Registered × Log × Display} {o : Outcomes}
    (h : t.Registers c session (before ++ (b, none) :: after) out)
    (hless : t.Registers { c with bindings := (before ++ after).map Prod.fst } session o less) :
    less.1.ids = out.1.ids ∧ less.1.failed = (before ++ after : Outcomes).report.failed ∧
      less.2.2.held session = out.2.2.held session ∧
      less.2.2.jobFor session = out.2.2.jobFor session := by
  have hsame : o = before ++ after := hless.settled.unique h.settled.delete hless.bindings
  have hregistered : (before ++ (b, none) :: after : Outcomes).registered = o.registered := by
    simp [hsame]
  refine ⟨?_, ?_, ?_, ?_⟩
  · rw [hless.report, h.report, Outcomes.report_ids_delete, hsame]
  · rw [hless.report, hsame]
  · ext g
    rw [hless.held, h.held, hregistered]
  · funext kind code state
    refine Option.ext fun job => ?_
    rw [hless.jobFor, h.jobFor, hregistered]
    rfl

end Setting

/-- Registering a configuration in a session that has just been opened splits its bindings, in
order, into those that get a number and those that are reported.  A binding is reported exactly if
its text names no chord, its key has no code, a binding registered before it catches one of its
events, or the server denies one of its grabs.  Without a reported binding the configuration comes
to the same: the same numbers, the same other reports, the same held grabs and the same job for
each event.  The server then holds what the registered bindings need, and no event is one of two of
them.  An event for which there is one has the interpreter of the configuration read the command of
that one, behind the preamble if there is a preamble; another event runs nothing. -/
theorem registerAll_first_wins (server : Option Server) (attempts : Nat) (past : List (Manager Job))
    (t : Setting) (c : Configuration) :
    let d : Display := { server, attempts, managers := past ++ [t.manager] }
    let session := past.length
    let out := registerAll onDisplay session c d
    ∃ o : Outcomes,
      o.map Prod.fst = c.bindings ∧ out.1 = o.report ∧
      (∀ (before : Outcomes) (b : Binding) (number : Option Nat) (after : Outcomes),
        o = before ++ (b, number) :: after →
        ((t.Refused before.registered b ∧ number = none) ∨
          (¬ t.Refused before.registered b ∧ number = some (before.registered.length + 1))) ∧
        (number = none →
          let less := registerAll onDisplay session
            { c with bindings := (before ++ after).map Prod.fst } d
          less.1.ids = out.1.ids ∧ less.1.failed = (Outcomes.report (before ++ after)).failed ∧
            less.2.2.held session = out.2.2.held session ∧
            less.2.2.jobFor session = out.2.2.jobFor session)) ∧
      (∀ g, g ∈ out.2.2.held session ↔ ∃ b ∈ o.registered, t.Needs b g) ∧
      o.registered.Pairwise t.Apart ∧
      ∀ kind code state,
        (∀ b ∈ o.registered, t.Catches b kind code (t.locks.clean state) →
          out.2.2.jobFor session kind code state = some
            { interpreter := c.interpreter
              script := if c.globals = [] then b.command else c.globals ++ '\n' :: b.command }) ∧
        ((∀ b ∈ o.registered, ¬ t.Catches b kind code (t.locks.clean state)) →
          out.2.2.jobFor session kind code state = none) := by
  intro d session out
  obtain ⟨o, h⟩ := Setting.registers server attempts past t c
  refine ⟨o, h.bindings, h.report, ?_, h.held, ?_, ?_⟩
  · rintro before b number after rfl
    refine ⟨by simpa using h.settled.outcome, ?_⟩
    rintro rfl
    obtain ⟨o', hless⟩ := Setting.registers server attempts past t
      { c with bindings := (before ++ after).map Prod.fst }
    exact h.delete hless
  · simpa using h.settled.pairwise List.Pairwise.nil
  · intro kind code state
    refine ⟨?_, ?_⟩
    · intro b hb hcatches
      exact (h.jobFor kind code state _).mpr ⟨b, hb, hcatches, rfl⟩
    · intro hnone
      refine Option.eq_none_iff_forall_ne_some.mpr fun job hjob => ?_
      obtain ⟨b, hb, hcatches, _⟩ := (h.jobFor kind code state job).mp hjob
      exact hnone b hb hcatches

/-- Two transitions of one key share its grabs and run different commands; between them stand a text
without a key, a key that the keyboard lacks, the same key under caps lock, and a grab that is
denied half of the way. -/
theorem registerAll_first_wins_of_transitions :
    let server : Server :=
      { keyboard :=
          { firstCode := 38, perCode := 1, keysyms := [0x61, 0xff7f]
            modifierCodes := [0, 0, 0, 0, 39, 0, 0, 0] }
        denied := [{ family := .key, code := 38, mods := 0x13 }]
        failing := none }
    let binding (text : String) (event : EventKind) (command : String) : Binding :=
      { written := text.toList, normalized := text.toList, event, command := command.toList }
    let c : Configuration :=
      { interpreter := { program := "/bin/dash".toList, args := ["-u".toList] }
        globals := "n=1".toList
        bindings := [binding "a" .keyPress "echo first", binding "shift" .keyPress "x",
          binding "b" .keyPress "x", binding "lock-a" .keyPress "x",
          binding "shift-a" .keyPress "x", binding "a" .keyRelease "echo second"] }
    let opened := (Display.fresh (some server)).connect
    let out := registerAll onDisplay 0 c opened.2
    opened.1 = .ok 0 ∧
      out.1 = { ids := [1, 2], failed := ["shift", "b", "lock-a", "shift-a"].map String.toList } ∧
      out.2.2.jobFor 0 .keyPress 38 0x10 =
        some { interpreter := c.interpreter, script := "n=1\necho first".toList } ∧
      out.2.2.jobFor 0 .keyRelease 38 0x112 =
        some { interpreter := c.interpreter, script := "n=1\necho second".toList } := by
  intro server binding c opened out
  let t := Setting.ofServer server
  have hopened : opened =
      (.ok 0, { server := some server, attempts := 1, managers := [t.manager] }) := by
    have hconnect : Manager.connect server = .ok t.manager := Setting.connect_ofServer rfl
    rw [show opened = (Display.fresh (some server)).connect from rfl, Display.connect]
    simp only [Display.fresh, hconnect]
    rfl
  have hreport : out.1 =
      { ids := [1, 2], failed := ["shift", "b", "lock-a", "shift-a"].map String.toList } := by
    decide +kernel
  obtain ⟨o, hbindings, hsplit, -, -, -, hevents⟩ :=
    registerAll_first_wins (some server) 1 [] t c
  have hout : out = registerAll onDisplay 0 c
      { server := some server, attempts := 1, managers := [t.manager] } :=
    congrArg (fun opened => registerAll onDisplay 0 c opened.2) hopened
  simp only [List.nil_append, List.length_nil, ← hout] at hsplit hevents
  have hmem : ∀ b ∈ c.bindings, b.written ∉ out.1.failed → b ∈ o.registered := fun b hb hnot =>
    Outcomes.mem_registered_of_notMem_failed (hbindings ▸ hb) (hsplit ▸ hnot)
  rw [hreport] at hmem
  have hchord : Chord.ofText "a".toList false = .ok { mods := 0, target := .key 0x61 } := by
    decide +kernel
  refine ⟨congrArg Prod.fst hopened, hreport, ?_, ?_⟩
  · exact (hevents .keyPress 38 0x10).1 (binding "a" .keyPress "echo first")
      (hmem _ (by decide) (by decide))
      ⟨_, hchord, rfl, by decide +kernel, by decide +kernel⟩
  · exact (hevents .keyRelease 38 0x112).1 (binding "a" .keyRelease "echo second")
      (hmem _ (by decide) (by decide))
      ⟨_, hchord, rfl, by decide +kernel, by decide +kernel⟩

end Hotkeys.Engine
