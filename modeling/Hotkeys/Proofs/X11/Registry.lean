import Hotkeys.X11.Manager
import Mathlib.Algebra.Group.Nat.Defs
import Mathlib.Data.List.Nodup

/-!
# Registrations and their index

A registry files each registration twice: under its number, and under every key that its events are
matched by.  Removing a registration deletes its keys from the index without asking whose they are,
so the two files agree only as long as no key belongs to two registrations.

`Registry.Consistent` is the invariant: no number belongs to two registrations, and the index leads
from a key to a number exactly if the registration with that number lists the key.  Main statements:
adding a registration with fresh keys and a free number keeps it (`Consistent.insert`), and so does
removing any registration (`Consistent.remove`).

The counter of numbers goes round, so that a next number is free as long as it has not come to its
end: `Registry.Counted` says that no number is beyond the last one.
-/

set_option autoImplicit false

namespace Hotkeys.X11

namespace Registration

variable {α : Type}

theorem mem_keys {r : Registration α} {key : GrabKey} :
    key ∈ r.keys ↔ key.kind = r.kind ∧ key.code ∈ r.codes ∧ key.mods = r.mods := by
  obtain ⟨kind, code, mods⟩ := key
  simp only [keys, List.mem_map, GrabKey.mk.injEq]
  constructor
  · rintro ⟨c, hc, rfl, rfl, rfl⟩
    exact ⟨rfl, hc, rfl⟩
  · rintro ⟨rfl, hc, rfl⟩
    exact ⟨code, hc, rfl, rfl, rfl⟩

theorem mem_grabs {r : Registration α} {g : Grab} :
    g ∈ r.grabs ↔ r.kind.family = g.family ∧ (g.code, g.mods) ∈ r.grabbed := by
  obtain ⟨family, code, mods⟩ := g
  simp only [grabs, List.mem_map, Grab.mk.injEq]
  constructor
  · rintro ⟨p, hp, rfl, rfl, rfl⟩
    exact ⟨rfl, hp⟩
  · rintro ⟨rfl, hp⟩
    exact ⟨(code, mods), hp, rfl, rfl, rfl⟩

/-- A registration that has a code relies on its own grabs and on no others. -/
theorem needs_iff {r : Registration α} (hcodes : r.codes ≠ []) {g : Grab} :
    r.needs g = true ↔ g ∈ r.grabs := by
  have hsome : r.codes.isEmpty = false := by simpa using hcodes
  simp [needs, mem_grabs, hsome]

end Registration

namespace Registry

variable {α : Type}

/-! ## Looking up -/

/-- Looking a key up among the entries whose keys are kept. -/
theorem find?_filter_keys {κ β : Type} [DecidableEq κ] (entries : List (κ × β)) (keep : κ → Bool)
    (key : κ) :
    (entries.filter fun e => keep e.1).find? (fun e => e.1 == key) =
      if keep key then entries.find? (fun e => e.1 == key) else none := by
  rw [List.find?_filter]
  by_cases hkeep : keep key = true
  · rw [if_pos hkeep]
    congr 1
    funext e
    by_cases he : e.1 = key
    · simp [he, hkeep]
    · simp [he]
  · rw [if_neg hkeep, List.find?_eq_none]
    intro e _ hboth
    obtain ⟨hkept, he⟩ : keep e.1 = true ∧ e.1 = key := by simpa using hboth
    exact hkeep (he ▸ hkept)

theorem mem_of_get? {s : Registry α} {id : Nat} {r : Registration α}
    (h : s.get? id = some r) : (id, r) ∈ s.byId := by
  obtain ⟨e, he, rfl⟩ := Option.map_eq_some_iff.mp h
  have hid : e.1 = id := by simpa using List.find?_some he
  subst hid
  exact List.mem_of_find?_eq_some he

theorem get?_insert (s : Registry α) (r : Registration α) (id : Nat) :
    (s.insert r).get? id = if id = s.nextId then some r else s.get? id := by
  rw [get?, insert, List.find?_append, find?_filter_keys s.byId (· != s.nextId)]
  by_cases h : id = s.nextId
  · simp [h]
  · have hne : ¬ s.nextId = id := fun he => h he.symm
    simp [get?, h, hne]

/-- A registration whose number is free comes behind the others. -/
theorem byId_insert {s : Registry α} (hnew : s.get? s.nextId = none) (r : Registration α) :
    (s.insert r).byId = s.byId ++ [(s.nextId, r)] := by
  rw [get?, Option.map_eq_none_iff, List.find?_eq_none] at hnew
  have hkeep : (s.byId.filter fun e => e.1 != s.nextId) = s.byId :=
    List.filter_eq_self.mpr fun e he => by simpa using hnew e he
  rw [insert, hkeep]

theorem idOf?_setKey (s : Registry α) (byKey : List (GrabKey × Nat)) (key new : GrabKey)
    (id : Nat) :
    ({ s with byKey := setKey byKey new id } : Registry α).idOf? key =
      if key = new then some id else ({ s with byKey } : Registry α).idOf? key := by
  by_cases h : key = new
  · subst h
    simp [idOf?, setKey]
  · have hne : ¬ (new == key) = true := by simpa using fun he => h he.symm
    have hkeep : (key != new) = true := by simpa using h
    rw [if_neg h, idOf?, idOf?]
    simp only [setKey]
    rw [List.find?_cons_of_neg (a := (new, id)) hne, find?_filter_keys byKey (· != new),
      if_pos hkeep]

theorem idOf?_setKeys (s : Registry α) (keys : List GrabKey) (id : Nat)
    (byKey : List (GrabKey × Nat)) (key : GrabKey) :
    ({ s with byKey := keys.foldl (fun byKey key => setKey byKey key id) byKey }
        : Registry α).idOf? key =
      if key ∈ keys then some id else ({ s with byKey } : Registry α).idOf? key := by
  induction keys generalizing byKey with
  | nil => simp
  | cons k ks ih =>
      rw [List.foldl_cons, ih, idOf?_setKey]
      by_cases hk : key = k
      · simp [hk]
      · by_cases hks : key ∈ ks
        · simp [hks]
        · simp [hk, hks]

theorem idOf?_insert (s : Registry α) (r : Registration α) (key : GrabKey) :
    (s.insert r).idOf? key = if key ∈ r.keys then some s.nextId else s.idOf? key :=
  idOf?_setKeys s r.keys s.nextId s.byKey key

/-! ## Removing -/

theorem remove_eq_none {s : Registry α} {id : Nat} : s.remove id = none ↔ s.get? id = none := by
  simp [remove]

/-- What removing a registration leaves: neither its number nor its keys. -/
theorem remove_eq_some {s s' : Registry α} {id : Nat} {r : Registration α} :
    s.remove id = some (r, s') ↔
      s.get? id = some r ∧
        s' = { s with
          byId := s.byId.filter fun e => e.1 != id
          byKey := s.byKey.filter fun e => !r.keys.contains e.1 } := by
  rw [remove, Option.map_eq_some_iff]
  constructor
  · rintro ⟨r', hr, heq⟩
    obtain ⟨rfl, rfl⟩ := Prod.mk.inj heq
    exact ⟨hr, rfl⟩
  · rintro ⟨hr, rfl⟩
    exact ⟨r, hr, rfl⟩

theorem get?_remove {s s' : Registry α} {id : Nat} {r : Registration α}
    (h : s.remove id = some (r, s')) (other : Nat) :
    s'.get? other = if other = id then none else s.get? other := by
  obtain ⟨_, rfl⟩ := remove_eq_some.mp h
  rw [get?, find?_filter_keys s.byId (· != id)]
  by_cases ho : other = id
  · simp [ho]
  · simp [ho, get?]

theorem idOf?_remove {s s' : Registry α} {id : Nat} {r : Registration α}
    (h : s.remove id = some (r, s')) (key : GrabKey) :
    s'.idOf? key = if key ∈ r.keys then none else s.idOf? key := by
  obtain ⟨_, rfl⟩ := remove_eq_some.mp h
  rw [idOf?, find?_filter_keys s.byKey (!r.keys.contains ·)]
  by_cases hk : key ∈ r.keys
  · simp [hk]
  · simp [hk, idOf?]

/-! ## The invariant -/

/-- The file by number and the file by key tell the same. -/
structure Consistent (s : Registry α) : Prop where
  ids_nodup : (s.byId.map Prod.fst).Nodup
  idOf?_iff : ∀ key id, s.idOf? key = some id ↔ ∃ r, s.get? id = some r ∧ key ∈ r.keys

theorem consistent_empty : (empty : Registry α).Consistent where
  ids_nodup := by simp [empty]
  idOf?_iff := by simp [empty, idOf?, get?]

namespace Consistent

variable {s : Registry α}

/-- A registration is filed under its number. -/
theorem get?_iff (h : s.Consistent) {id : Nat} {r : Registration α} :
    s.get? id = some r ↔ (id, r) ∈ s.byId := by
  constructor
  · exact mem_of_get?
  · intro hmem
    cases hfind : s.get? id with
    | none =>
        rw [get?, Option.map_eq_none_iff, List.find?_eq_none] at hfind
        exact absurd (hfind _ hmem) (by simp)
    | some other =>
        have heq := List.inj_on_of_nodup_map h.ids_nodup (mem_of_get? hfind) hmem rfl
        rw [(Prod.mk.inj heq).2]

/-- No key belongs to two registrations. -/
theorem id_unique (h : s.Consistent) {id id' : Nat} {r r' : Registration α} {key : GrabKey}
    (hr : s.get? id = some r) (hr' : s.get? id' = some r')
    (hkey : key ∈ r.keys) (hkey' : key ∈ r'.keys) : id = id' := by
  have hid := (h.idOf?_iff key id).mpr ⟨r, hr, hkey⟩
  have hid' := (h.idOf?_iff key id').mpr ⟨r', hr', hkey'⟩
  exact Option.some.inj (hid.symm.trans hid')

protected theorem insert (h : s.Consistent) {r : Registration α}
    (hfresh : ∀ key ∈ r.keys, s.idOf? key = none) (hnew : s.get? s.nextId = none) :
    (s.insert r).Consistent where
  ids_nodup := by
    have hfree : s.nextId ∉ s.byId.map Prod.fst := by
      intro hmem
      obtain ⟨⟨id, old⟩, he, rfl⟩ := List.mem_map.mp hmem
      rw [h.get?_iff.mpr he] at hnew
      exact Option.some_ne_none old hnew
    rw [byId_insert hnew, List.map_append]
    exact h.ids_nodup.append (List.nodup_singleton _) (List.disjoint_singleton.mpr hfree)
  idOf?_iff := by
    intro key id
    rw [idOf?_insert, get?_insert]
    by_cases hkey : key ∈ r.keys
    · rw [if_pos hkey]
      by_cases hid : id = s.nextId
      · simp [hid, hkey]
      · -- An older registration cannot list the key: its number would be in the index.
        rw [if_neg hid]
        constructor
        · intro heq
          exact absurd (Option.some.inj heq).symm hid
        · intro hex
          have hold := (h.idOf?_iff key id).mpr hex
          rw [hfresh key hkey] at hold
          exact absurd hold (by simp)
    · rw [if_neg hkey, h.idOf?_iff]
      by_cases hid : id = s.nextId
      · simp [hid, hkey, hnew]
      · rw [if_neg hid]

protected theorem remove (h : s.Consistent) {s' : Registry α} {id : Nat} {r : Registration α}
    (hrem : s.remove id = some (r, s')) : s'.Consistent := by
  obtain ⟨hr, hs'⟩ := remove_eq_some.mp hrem
  refine ⟨?_, ?_⟩
  · rw [hs']
    exact (List.Sublist.map Prod.fst List.filter_sublist).nodup h.ids_nodup
  · intro key other
    rw [idOf?_remove hrem, get?_remove hrem]
    by_cases ho : other = id
    · -- Every key that led to the removed number was one of the deleted keys.
      subst ho
      have hgone : ¬ (key ∉ r.keys ∧ s.idOf? key = some other) := by
        rintro ⟨hkey, hid⟩
        obtain ⟨r', hr', hkey'⟩ := (h.idOf?_iff key other).mp hid
        rw [hr] at hr'
        exact hkey (Option.some.inj hr' ▸ hkey')
      by_cases hkey : key ∈ r.keys
      · simp [hkey]
      · simpa [hkey] using hgone
    · rw [if_neg ho]
      by_cases hkey : key ∈ r.keys
      · -- A deleted key is no key of another registration.
        rw [if_pos hkey]
        constructor
        · intro hnone
          exact absurd hnone (by simp)
        · rintro ⟨r', hr', hkey'⟩
          exact absurd (h.id_unique hr' hr hkey' hkey) ho
      · rw [if_neg hkey, h.idOf?_iff]

end Consistent

/-! ## Counting numbers -/

/-- No number is beyond the last one. -/
def Counted (s : Registry α) : Prop :=
  ∀ e ∈ s.byId, e.1 ≤ s.lastId.toNat

theorem counted_empty : (empty : Registry α).Counted := by
  simp [Counted, empty]

/-- Before the counter has come to its end, the next number is the one behind the last. -/
theorem nextId_of_lt {s : Registry α} (hroom : s.lastId.toNat + 1 < 2 ^ 32) :
    s.nextId = s.lastId.toNat + 1 := by
  rw [nextId, UInt32.toNat_add]
  exact Nat.mod_eq_of_lt hroom

namespace Counted

variable {s : Registry α}

/-- Before the counter has come to its end, the next number is free. -/
theorem get?_nextId (h : s.Counted) (hroom : s.lastId.toNat + 1 < 2 ^ 32) :
    s.get? s.nextId = none := by
  rw [get?, Option.map_eq_none_iff, List.find?_eq_none]
  intro e he hid
  have hold := h e he
  rw [beq_iff_eq.mp hid, nextId_of_lt hroom] at hold
  omega

protected theorem insert (h : s.Counted) (hroom : s.lastId.toNat + 1 < 2 ^ 32)
    (r : Registration α) : (s.insert r).Counted := by
  have hlast : (s.insert r).lastId.toNat = s.lastId.toNat + 1 := nextId_of_lt hroom
  intro e he
  rw [byId_insert (h.get?_nextId hroom)] at he
  rw [hlast]
  rcases List.mem_append.mp he with hold | hnew
  · exact Nat.le_succ_of_le (h e hold)
  · have hnext : e.1 = s.lastId.toNat + 1 := by
      rw [List.mem_singleton.mp hnew, nextId_of_lt hroom]
    exact Nat.le_of_eq hnext

protected theorem remove (h : s.Counted) {s' : Registry α} {id : Nat} {r : Registration α}
    (hrem : s.remove id = some (r, s')) : s'.Counted := by
  obtain ⟨_, rfl⟩ := remove_eq_some.mp hrem
  exact fun e he => h e (List.mem_filter.mp he).1

end Counted

/-! ## Needed grabs -/

theorem needs_iff {s : Registry α} (hcodes : ∀ e ∈ s.byId, e.2.codes ≠ []) {g : Grab} :
    s.needs g = true ↔ ∃ e ∈ s.byId, g ∈ e.2.grabs := by
  rw [needs, List.any_eq_true]
  constructor
  · rintro ⟨e, he, hneeds⟩
    exact ⟨e, he, (Registration.needs_iff (hcodes e he)).mp hneeds⟩
  · rintro ⟨e, he, hg⟩
    exact ⟨e, he, (Registration.needs_iff (hcodes e he)).mpr hg⟩

end Registry

end Hotkeys.X11
