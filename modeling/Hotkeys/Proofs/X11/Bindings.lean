import Hotkeys.Proofs.X11.Numbers

/-!
# A manager is a list of bindings

`Bindings` is what a user of a manager has to know: the live bindings, each with its codes, clean
modifiers and action, and the number given last.  It has no index, no requests and no grabs; whether
a chord is free is asked of every live binding, and an event looks for a binding that matches it.

Main statement: `answers_eq_bindings`.  Over every run of binds, unregistrations, events and changes
of mind of the server, a manager answers what this list answers.  The list counts its bindings
without an end, the manager in 32 bits, so that a run is to have fewer than 2 ^ 32 binds.
-/

set_option autoImplicit false

namespace Hotkeys.X11

open Hotkeys.Keys (Chord Keysym Mask Target)

variable {α : Type}

/-! ## The list -/

/-- A live binding. -/
structure Entry (α : Type) where
  /-- Its number. -/
  id : Nat
  /-- The kind of event that runs it. -/
  kind : EventKind
  /-- The codes of its chord. -/
  codes : List Keycode
  /-- The modifiers of its chord that count. -/
  mods : Mask
  /-- What it runs. -/
  action : α

/-- Whether an event of a kind, with a code, under clean modifiers runs a binding. -/
def Entry.Matches (e : Entry α) (kind : EventKind) (code : Keycode) (mods : Mask) : Prop :=
  e.kind = kind ∧ code ∈ e.codes ∧ e.mods = mods

instance (e : Entry α) (kind : EventKind) (code : Keycode) (mods : Mask) :
    Decidable (e.Matches kind code mods) :=
  inferInstanceAs (Decidable (_ ∧ _ ∧ _))

/-- The live bindings, the number given last and what the server denies. -/
structure Bindings (α : Type) where
  /-- The live bindings, in the order in which they were made. -/
  entries : List (Entry α)
  /-- The number given last. -/
  lastId : Nat
  /-- The grabs that the server denies at present. -/
  denied : List Grab

namespace Bindings

/-- No bindings yet. -/
def none (denied : List Grab) : Bindings α :=
  { entries := [], lastId := 0, denied }

/-- Binds codes under clean modifiers: not if a live binding would run for one of the codes, and
not if the server denies one of the grabs. -/
def bindCodes (locks : LockMasks) (b : Bindings α) (codes : List Keycode) (chord : Chord)
    (kind : EventKind) (action : α) : Except ManagerError Nat × Bindings α :=
  let mods := locks.clean chord.mods
  if ∃ e ∈ b.entries, ∃ code ∈ codes, e.Matches kind code mods then
    (.error (.alreadyBound chord.text), b)
  else if ∃ code ∈ codes, ∃ extra ∈ locks.combinations,
      { family := kind.family, code, mods := mods ||| extra : Grab } ∈ b.denied then
    (.error (.grabFailed chord.text .refused), b)
  else
    let id := b.lastId + 1
    (.ok id, { b with entries := b.entries ++ [{ id, kind, codes, mods, action }], lastId := id })

/-- Binds a chord; a key has to have a code. -/
def bind (keymap : KeyMap) (locks : LockMasks) (b : Bindings α) (chord : Chord)
    (kind : EventKind) (action : α) : Except ManagerError Nat × Bindings α :=
  match chord.target with
  | .button number => b.bindCodes locks [number] chord kind action
  | .key sym =>
    if keymap.codes sym = [] then (.error (.noKeycode sym), b)
    else b.bindCodes locks (keymap.codes sym) chord kind action

/-- Drops a binding. -/
def unregister (b : Bindings α) (id : Nat) : Except ManagerError Unit × Bindings α :=
  if ∃ e ∈ b.entries, e.id = id then
    (.ok (), { b with entries := b.entries.filter fun e => e.id ≠ id })
  else (.error .invalidId, b)

/-- What an event runs. -/
def actionFor (locks : LockMasks) (b : Bindings α) (kind : EventKind) (code : Keycode)
    (state : Mask) : Option α :=
  (b.entries.find? fun e => e.Matches kind code (locks.clean state)).map Entry.action

/-- One step: what is seen of it and the bindings after it. -/
def step (keymap : KeyMap) (locks : LockMasks) (b : Bindings α) : Step α → Answer α × Bindings α
  | .bind chord kind action =>
    let (answer, next) := b.bind keymap locks chord kind action
    (.bound answer, next)
  | .unregister id =>
    let (answer, next) := b.unregister id
    (.unregistered answer, next)
  | .deny denied => (.silent, { b with denied })
  | .event kind code state => (.ran (b.actionFor locks kind code state), b)

/-- The bindings after some steps. -/
def after (keymap : KeyMap) (locks : LockMasks) (b : Bindings α) : List (Step α) → Bindings α
  | [] => b
  | s :: rest => after keymap locks (b.step keymap locks s).2 rest

/-- What is seen of some steps. -/
def answers (keymap : KeyMap) (locks : LockMasks) (b : Bindings α) :
    List (Step α) → List (Answer α)
  | [] => []
  | s :: rest => (b.step keymap locks s).1 :: answers keymap locks (b.step keymap locks s).2 rest

end Bindings

/-! ## A manager seen as its bindings -/

/-- A registration as a binding. -/
def Entry.ofRegistration (e : Nat × Registration α) : Entry α :=
  { id := e.1, kind := e.2.kind, codes := e.2.codes, mods := e.2.mods, action := e.2.action }

namespace Manager

/-- The bindings of a manager. -/
def bindings (m : Manager α) : Bindings α :=
  { entries := m.registry.byId.map Entry.ofRegistration
    lastId := m.registry.lastId.toNat
    denied := m.connection.denied }

namespace Sound

variable {m : Manager α}

theorem mem_entries (h : m.Sound) {e : Entry α} :
    e ∈ m.bindings.entries ↔
      ∃ id r, m.registry.get? id = some r ∧ Entry.ofRegistration (id, r) = e := by
  simp only [bindings, List.mem_map, Prod.exists, h.registry.get?_iff]

/-- A key leads to a number exactly if the binding with that number matches it. -/
theorem idOf?_eq_some_iff (h : m.Sound) {kind : EventKind} {code : Keycode} {mods : Mask}
    {id : Nat} :
    m.registry.idOf? { kind, code, mods } = some id ↔
      ∃ e ∈ m.bindings.entries, e.id = id ∧ e.Matches kind code mods := by
  rw [h.registry.idOf?_iff]
  constructor
  · rintro ⟨r, hr, hkey⟩
    obtain ⟨hkind, hcode, hmods⟩ := Registration.mem_keys.mp hkey
    exact ⟨_, h.mem_entries.mpr ⟨id, r, hr, rfl⟩, rfl, hkind.symm, hcode, hmods.symm⟩
  · rintro ⟨e, he, rfl, hkind, hcode, hmods⟩
    obtain ⟨id, r, hr, rfl⟩ := h.mem_entries.mp he
    exact ⟨r, hr, Registration.mem_keys.mpr ⟨hkind.symm, hcode, hmods.symm⟩⟩

/-- No event matches two bindings. -/
theorem matches_unique (h : m.Sound) {kind : EventKind} {code : Keycode} {mods : Mask}
    {e e' : Entry α} (he : e ∈ m.bindings.entries) (he' : e' ∈ m.bindings.entries)
    (hmatch : e.Matches kind code mods) (hmatch' : e'.Matches kind code mods) : e = e' := by
  have hid := h.idOf?_eq_some_iff.mpr ⟨e, he, rfl, hmatch⟩
  have hid' := h.idOf?_eq_some_iff.mpr ⟨e', he', rfl, hmatch'⟩
  obtain ⟨id, r, hr, rfl⟩ := h.mem_entries.mp he
  obtain ⟨id', r', hr', rfl⟩ := h.mem_entries.mp he'
  have hsame : id = id' := Option.some.inj (hid.symm.trans hid')
  subst hsame
  rw [hr] at hr'
  rw [Option.some.inj hr']

/-- A chord is taken exactly if a live binding runs for one of its codes. -/
theorem taken_iff (h : m.Sound) (codes : List Keycode) (chord : Chord) (kind : EventKind)
    (action : α) :
    (∃ key ∈ (m.registrationFor codes chord kind action).keys, m.registry.idOf? key ≠ none) ↔
      ∃ e ∈ m.bindings.entries, ∃ code ∈ codes,
        e.Matches kind code (m.locks.clean chord.mods) := by
  constructor
  · rintro ⟨⟨kind', code, mods⟩, hkey, hne⟩
    obtain ⟨hkind, hcode, hmods⟩ := Registration.mem_keys.mp hkey
    obtain ⟨id, hid⟩ := Option.ne_none_iff_exists'.mp hne
    obtain ⟨e, he, _, hmatch⟩ := h.idOf?_eq_some_iff.mp hid
    simp only [registrationFor] at hkind hmods
    rw [hkind, hmods] at hmatch
    exact ⟨e, he, code, hcode, hmatch⟩
  · rintro ⟨e, he, code, hcode, hmatch⟩
    refine ⟨{ kind, code, mods := m.locks.clean chord.mods },
      Registration.mem_keys.mpr ⟨rfl, hcode, rfl⟩, ?_⟩
    rw [h.idOf?_eq_some_iff.mpr ⟨e, he, rfl, hmatch⟩]
    exact Option.some_ne_none _

end Sound

/-- The server denies a grab of a chord exactly if it denies one of the codes under a
combination of locks. -/
theorem denied_iff (m : Manager α) (codes : List Keycode) (chord : Chord) (kind : EventKind)
    (action : α) :
    (∃ g ∈ (m.registrationFor codes chord kind action).grabs, g ∈ m.connection.denied) ↔
      ∃ code ∈ codes, ∃ extra ∈ m.locks.combinations,
        { family := kind.family, code, mods := m.locks.clean chord.mods ||| extra : Grab } ∈
          m.bindings.denied := by
  have hwants := fun g =>
    mem_grabs_iff_wants_of_grabsFor (r := m.registrationFor codes chord kind action) rfl (g := g)
  constructor
  · rintro ⟨g, hg, hdenied⟩
    obtain ⟨code, hcode, extra, hextra, rfl⟩ := (hwants g).mp hg
    exact ⟨code, hcode, extra, hextra, hdenied⟩
  · rintro ⟨code, hcode, extra, hextra, hdenied⟩
    exact ⟨_, (hwants _).mpr ⟨code, hcode, extra, hextra, rfl⟩, hdenied⟩

/-! ## One step -/

/-- A bind is made of the codes that the chord has on the keyboard. -/
theorem bindings_bind_eq (m : Manager α) (b : Bindings α) (chord : Chord) (kind : EventKind)
    (action : α) :
    b.bind m.keymap m.locks chord kind action =
      match m.codesOf chord with
      | .error e => (.error e, b)
      | .ok codes => b.bindCodes m.locks codes chord kind action := by
  unfold codesOf Bindings.bind
  cases chord.target with
  | button number => rfl
  | key sym =>
      dsimp only
      cases hsym : m.keymap.codes sym with
      | nil => rfl
      | cons c cs => rfl

theorem bindings_bind_of_error {m : Manager α} {chord : Chord} {e : ManagerError}
    (hcodes : m.codesOf chord = .error e) (b : Bindings α) (kind : EventKind) (action : α) :
    b.bind m.keymap m.locks chord kind action = (.error e, b) := by
  rw [bindings_bind_eq, hcodes]

theorem bindings_bind_of_codes {m : Manager α} {chord : Chord} {codes : List Keycode}
    (hcodes : m.codesOf chord = .ok codes) (b : Bindings α) (kind : EventKind) (action : α) :
    b.bind m.keymap m.locks chord kind action = b.bindCodes m.locks codes chord kind action := by
  rw [bindings_bind_eq, hcodes]

namespace Sound

variable {m : Manager α}

/-- A chord whose keys lead nowhere is not taken. -/
theorem not_taken_of_fresh (h : m.Sound) {codes : List Keycode} {chord : Chord}
    {kind : EventKind} {action : α}
    (hfresh : ∀ key ∈ (m.registrationFor codes chord kind action).keys,
      m.registry.idOf? key = none) :
    ¬ ∃ e ∈ m.bindings.entries, ∃ code ∈ codes,
      e.Matches kind code (m.locks.clean chord.mods) := by
  intro htaken
  obtain ⟨key, hkey, hne⟩ := (h.taken_iff codes chord kind action).mpr htaken
  exact hne (hfresh key hkey)

/-- A bind is that of the bindings, if the number that it gives is free and the one behind the
last. -/
theorem bind_bindings (h : m.Sound) (chord : Chord) (kind : EventKind) (action : α)
    (hnew : ∀ id, (m.bind chord kind action).1 = .ok id →
      m.registry.get? id = none ∧ id = m.registry.lastId.toNat + 1) :
    m.bindings.bind m.keymap m.locks chord kind action =
      ((m.bind chord kind action).1, (m.bind chord kind action).2.bindings) := by
  have hout := bind_outcome h.alive chord kind action
  generalize m.bind chord kind action = out at hout hnew ⊢
  cases hout with
  | noCode hcodes => exact bindings_bind_of_error hcodes _ _ _
  | taken hcodes htaken =>
      rw [bindings_bind_of_codes hcodes, Bindings.bindCodes,
        if_pos ((h.taken_iff _ _ _ _).mp htaken)]
  | denied _ hcodes hfresh hdenied _ hsame _ =>
      rw [bindings_bind_of_codes hcodes, Bindings.bindCodes, if_neg (h.not_taken_of_fresh hfresh),
        if_pos ((denied_iff _ _ _ _ _).mp hdenied)]
      simp only [bindings, hsame]
  | @made codes c hcodes hfresh hfree _ hsame _ =>
      have hgranted : ¬ ∃ code ∈ codes, ∃ extra ∈ m.locks.combinations,
          { family := kind.family, code, mods := m.locks.clean chord.mods ||| extra : Grab } ∈
            m.bindings.denied := by
        rw [← denied_iff m codes chord kind action]
        rintro ⟨g, hg, hdenied⟩
        exact hfree g hg hdenied
      obtain ⟨hunused, hnext⟩ := hnew _ rfl
      have hbyId := Registry.byId_insert hunused (m.registrationFor codes chord kind action)
      have hlast : (m.registry.insert (m.registrationFor codes chord kind action)).lastId.toNat =
          m.registry.nextId := rfl
      rw [bindings_bind_of_codes hcodes, Bindings.bindCodes, if_neg (h.not_taken_of_fresh hfresh),
        if_neg hgranted]
      simp only [bindings, hsame, hbyId, hlast, hnext, List.map_append, List.map_singleton]
      rfl

/-- A bind that fails, and not because of a grab, asks nothing of the server. -/
theorem bind_eq_self (h : m.Sound) {chord : Chord} {kind : EventKind} {action : α}
    {e : ManagerError} (herror : (m.bind chord kind action).1 = .error e)
    (hother : ∀ shown reason, e ≠ .grabFailed shown reason) :
    (m.bind chord kind action).2 = m := by
  have hout := bind_outcome h.alive chord kind action
  generalize m.bind chord kind action = out at hout herror ⊢
  cases hout with
  | noCode _ => rfl
  | taken _ _ => rfl
  | denied _ _ _ _ _ _ _ => exact absurd (Except.error.inj herror).symm (hother _ _)
  | made _ _ _ _ _ _ => exact absurd herror (by simp)

theorem unregister_bindings (h : m.Sound) (id : Nat) :
    m.bindings.unregister id = ((m.unregister id).1, (m.unregister id).2.bindings) := by
  have hout := unregister_outcome h.alive id
  generalize m.unregister id = out at hout ⊢
  cases hout with
  | unknown hnone =>
      have hno : ¬ ∃ e ∈ m.bindings.entries, e.id = id := by
        rintro ⟨e, he, hid⟩
        obtain ⟨id', r, hr, rfl⟩ := h.mem_entries.mp he
        have hsame : id' = id := hid
        rw [hsame, hnone] at hr
        exact absurd hr (by simp)
      rw [Bindings.unregister, if_neg hno]
  | @dropped r registry c hrem halive hsame _ =>
      obtain ⟨hr, hregistry⟩ := Registry.remove_eq_some.mp hrem
      have hyes : ∃ e ∈ m.bindings.entries, e.id = id :=
        ⟨_, h.mem_entries.mpr ⟨id, r, hr, rfl⟩, rfl⟩
      rw [Bindings.unregister, if_pos hyes]
      simp only [bindings, hregistry, hsame, List.filter_map]
      congr 4
      funext e
      by_cases hid : e.1 = id <;> simp [Entry.ofRegistration, hid]

theorem actionFor_bindings (h : m.Sound) (kind : EventKind) (code : Keycode) (state : Mask) :
    m.bindings.actionFor m.locks kind code state = m.actionFor kind code state := by
  rw [actionFor, if_pos h.hears, Registry.match?, Bindings.actionFor]
  cases hid : m.registry.idOf? { kind, code, mods := m.locks.clean state } with
  | none =>
      have hnone : ∀ e ∈ m.bindings.entries, ¬ e.Matches kind code (m.locks.clean state) := by
        intro e he hmatch
        rw [h.idOf?_eq_some_iff.mpr ⟨e, he, rfl, hmatch⟩] at hid
        exact absurd hid (by simp)
      have hfind : m.bindings.entries.find?
          (fun e => e.Matches kind code (m.locks.clean state)) = none :=
        List.find?_eq_none.mpr fun e he => by simpa using hnone e he
      rw [hfind]
      rfl
  | some id =>
      obtain ⟨e, he, rfl, hmatch⟩ := h.idOf?_eq_some_iff.mp hid
      -- Whatever the search finds is this binding, since no other one matches.
      have hfind : m.bindings.entries.find?
          (fun e => e.Matches kind code (m.locks.clean state)) = some e := by
        cases hfound : m.bindings.entries.find?
            (fun e => e.Matches kind code (m.locks.clean state)) with
        | none => exact absurd hmatch (by simpa using List.find?_eq_none.mp hfound e he)
        | some e' =>
            have hmatch' : e'.Matches kind code (m.locks.clean state) := by
              simpa using List.find?_some hfound
            rw [h.matches_unique (List.mem_of_find?_eq_some hfound) he hmatch' hmatch]
      obtain ⟨id, r, hr, rfl⟩ := h.mem_entries.mp he
      rw [hfind]
      simp only [Entry.ofRegistration, Option.bind_some, Option.map_some, hr]

/-- An event runs the action of a binding that matches it. -/
theorem actionFor_eq_some_iff (h : m.Sound) {kind : EventKind} {code : Keycode} {state : Mask}
    {action : α} :
    m.actionFor kind code state = some action ↔
      ∃ e ∈ m.bindings.entries, e.Matches kind code (m.locks.clean state) ∧ e.action = action := by
  rw [← h.actionFor_bindings, Bindings.actionFor, Option.map_eq_some_iff]
  constructor
  · rintro ⟨e, hfind, haction⟩
    exact ⟨e, List.mem_of_find?_eq_some hfind, by simpa using List.find?_some hfind, haction⟩
  · rintro ⟨e, he, hmatch, haction⟩
    have hsome : (m.bindings.entries.find? fun e =>
        e.Matches kind code (m.locks.clean state)).isSome = true := by
      rw [List.find?_isSome]
      exact ⟨e, he, by simpa using hmatch⟩
    obtain ⟨found, hfind⟩ := Option.isSome_iff_exists.mp hsome
    have hfound : found.Matches kind code (m.locks.clean state) := by
      simpa using List.find?_some hfind
    exact ⟨found, hfind,
      h.matches_unique (List.mem_of_find?_eq_some hfind) he hfound hmatch ▸ haction⟩

/-- One step of a manager is the same step of its bindings, if a number that it gives is free and
the one behind the last. -/
theorem step_bindings (h : m.Sound) (s : Step α)
    (hnew : ∀ id, (m.step s).1.newId? = some id →
      m.registry.get? id = none ∧ id = m.registry.lastId.toNat + 1) :
    m.bindings.step m.keymap m.locks s = ((m.step s).1, (m.step s).2.bindings) := by
  cases s with
  | bind chord kind action =>
      have hbind := h.bind_bindings chord kind action fun id hid =>
        hnew id (newId?_step_bind.mpr hid)
      rw [Bindings.step, hbind, step]
  | unregister id => rw [Bindings.step, h.unregister_bindings, step]
  | deny denied => rfl
  | event kind code state => rw [Bindings.step, h.actionFor_bindings, step]

/-! ## Runs -/

/-- A run of a manager whose counter does not come to its end is the same run of its bindings. -/
theorem run_bindings (h : m.Sound) (hcounted : m.registry.Counted) (steps : List (Step α))
    (hroom : m.registry.lastId.toNat + (m.givenNumbers steps).length < 2 ^ 32) :
    m.bindings.answers m.keymap m.locks steps = m.answers steps ∧
      m.bindings.after m.keymap m.locks steps = (m.after steps).bindings := by
  induction steps generalizing m with
  | nil => exact ⟨rfl, rfl⟩
  | cons s rest ih =>
      obtain ⟨hnew, hcounted', hroom'⟩ := step_room h.alive hcounted hroom
      have hstep := h.step s fun id hid => (hnew id hid).1
      obtain ⟨hanswers, hafter⟩ := ih hstep hcounted' hroom'
      obtain ⟨-, hkeymap, hlocks⟩ := step_keyboard h.alive s
      rw [hkeymap, hlocks] at hanswers hafter
      have hfresh := fun id hid => And.intro (hnew id hid).1 (hnew id hid).2.1
      rw [Bindings.answers, Bindings.after, h.step_bindings s hfresh, hanswers, hafter]
      exact ⟨rfl, rfl⟩

end Sound

/-- Over every run of fewer than 2 ^ 32 binds from a new connection a manager answers what the plain
list of bindings answers, and at its end it is that list: as many registrations as bindings, no
event that matches two of them, and an index that leads from a key to a number exactly if the
registration with that number lists the key.  A bind that fails for want of a code or because of a
taken one makes no request.  The numbers given go up, and there are no more of them than binds. -/
theorem answers_eq_bindings (keymap : KeyMap) (locks : LockMasks) (denied : List Grab)
    (steps : List (Step α)) (hfew : steps.countP Step.isBind < 2 ^ 32) :
    let opened : Manager α := opened keymap locks denied
    let none : Bindings α := .none denied
    let m := opened.after steps
    let b := none.after keymap locks steps
    opened.answers steps = none.answers keymap locks steps ∧
    m.bindings = b ∧
    m.size = b.entries.length ∧
    (∀ kind code mods, ∀ e ∈ b.entries, ∀ e' ∈ b.entries,
      e.Matches kind code mods → e'.Matches kind code mods → e = e') ∧
    (∀ key id, m.registry.idOf? key = some id ↔
      ∃ r, m.registry.get? id = some r ∧ key ∈ r.keys) ∧
    (∀ chord kind action e, (m.bind chord kind action).1 = .error e →
      (∀ shown reason, e ≠ .grabFailed shown reason) → (m.bind chord kind action).2 = m) ∧
    ((opened.answers steps).filterMap Answer.newId?).Pairwise (· < ·) ∧
    (∀ id ∈ (opened.answers steps).filterMap Answer.newId?, id ≤ b.lastId) ∧
    b.lastId ≤ steps.countP Step.isBind := by
  intro opened none m b
  have hopened : opened.Sound := sound_opened keymap locks denied
  have hcounted : opened.registry.Counted := Registry.counted_empty
  have hle : (opened.givenNumbers steps).length ≤ steps.countP Step.isBind :=
    length_givenNumbers_le rfl steps
  have hzero : opened.registry.lastId.toNat = 0 := rfl
  have hroom : opened.registry.lastId.toNat + (opened.givenNumbers steps).length < 2 ^ 32 := by
    omega
  obtain ⟨hnumbers, hids, -, hlast⟩ := run_ids rfl hcounted steps hroom
  have h : m.Sound := hopened.after hnumbers
  obtain ⟨hanswers, hafter⟩ := hopened.run_bindings hcounted steps hroom
  have hb : m.bindings = b := hafter.symm
  have hend : b.lastId = (opened.givenNumbers steps).length := by
    rw [← hb]
    exact hlast.trans (by rw [hzero, Nat.zero_add])
  rw [hzero, Nat.zero_add] at hids
  refine ⟨hanswers.symm, hb, ?_, ?_, h.registry.idOf?_iff, ?_, ?_, ?_, hend ▸ hle⟩
  · rw [← hb]
    exact (List.length_map _).symm
  · rw [← hb]
    intro kind code mods e he e' he' hmatch hmatch'
    exact h.matches_unique he he' hmatch hmatch'
  · intro chord kind action e herror hother
    exact h.bind_eq_self herror hother
  · change (opened.givenNumbers steps).Pairwise (· < ·)
    rw [hids]
    exact List.pairwise_lt_range'
  · change ∀ id ∈ opened.givenNumbers steps, id ≤ b.lastId
    intro id hid
    rw [hids, List.mem_range'_1] at hid
    omega

/-- A key on two codes is bound for both of its transitions; binding it again and a key that shares
one of its codes fails, and the number of a dropped registration is not given again. -/
theorem answers_eq_bindings_of_shared :
    let keymap : KeyMap := { entries := [(0x61, [38, 54]), (0x62, [54, 55])] }
    let locks : LockMasks := { num := 0x10, scroll := 0 }
    let a : Chord := { mods := 0, target := .key 0x61 }
    let b : Chord := { mods := 0x2, target := .key 0x62 }
    let steps : List (Step Nat) :=
      [.bind a .keyPress 1, .bind a .keyRelease 2, .bind b .keyPress 3, .event .keyPress 54 0x12,
        .unregister 1, .bind b .keyPress 4, .unregister 1, .event .keyPress 38 0,
        .event .keyPress 55 0x110]
    let opened : Manager Nat := opened keymap locks []
    steps.countP Step.isBind = 4 ∧
      (opened.answers steps).filterMap Answer.newId? = [1, 2, 3] ∧
      ((Bindings.none []).after keymap locks steps).entries.map (fun e => (e.id, e.action)) =
        [(2, 2), (3, 4)] ∧
      opened.answers steps = (Bindings.none []).answers keymap locks steps := by
  intro keymap locks a b steps opened
  have hbinds : steps.countP Step.isBind = 4 := by decide
  obtain ⟨hanswers, hend, -⟩ := answers_eq_bindings keymap locks [] steps (by omega)
  refine ⟨hbinds, by decide +kernel, ?_, hanswers⟩
  rw [← hend]
  decide +kernel

end Manager

end Hotkeys.X11
