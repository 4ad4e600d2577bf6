import Hotkeys.Proofs.X11.Runs
import Mathlib.Data.Fintype.Card
import Mathlib.Data.Fintype.Prod

/-!
# Numbers of registrations

A manager counts the numbers of its registrations in 32 bits.  Until the counter has come to its end
the numbers go up, so that each is free when it is given (`givesFreeNumbers_of_few`, `run_ids`).  A
build that checks its arithmetic stops at the bind that would take the counter beyond its end, and
in one that does not it takes 2 ^ 32 binds to come there.

A manager that only binds never comes there: no key belongs to two registrations, and there are
fewer keys than numbers (`Consistent.length_le`).
-/

set_option autoImplicit false

namespace Hotkeys.X11

open Hotkeys.Keys (Mask)

variable {α : Type}

namespace Manager

variable {m : Manager α}

/-! ## One step -/

/-- The numbers that are given in a run. -/
def givenNumbers (m : Manager α) (steps : List (Step α)) : List Nat :=
  (m.answers steps).filterMap Answer.newId?

theorem givenNumbers_cons_none {s : Step α} (hnone : (m.step s).1.newId? = none)
    (rest : List (Step α)) : m.givenNumbers (s :: rest) = (m.step s).2.givenNumbers rest :=
  List.filterMap_cons_none hnone

theorem givenNumbers_cons_some {s : Step α} {id : Nat} (hsome : (m.step s).1.newId? = some id)
    (rest : List (Step α)) :
    m.givenNumbers (s :: rest) = id :: (m.step s).2.givenNumbers rest :=
  List.filterMap_cons_some hsome

/-- A step gives no number but the next one, and gives that only to a bind. -/
theorem step_number (halive : m.connection.alive = true) (s : Step α) :
    ((m.step s).1.newId? = none ∧ (m.step s).2.registry.lastId = m.registry.lastId ∧
        (m.registry.Counted → (m.step s).2.registry.Counted)) ∨
      (s.isBind = true ∧ (m.step s).1.newId? = some m.registry.nextId ∧
        ∃ r, (m.step s).2.registry = m.registry.insert r) := by
  cases s with
  | bind chord kind action =>
      have hout := bind_outcome halive chord kind action
      rw [step]
      generalize m.bind chord kind action = out at hout ⊢
      cases hout with
      | noCode _ => exact Or.inl ⟨rfl, rfl, id⟩
      | taken _ _ => exact Or.inl ⟨rfl, rfl, id⟩
      | denied _ _ _ _ _ _ _ => exact Or.inl ⟨rfl, rfl, id⟩
      | made _ _ _ _ _ _ => exact Or.inr ⟨rfl, rfl, _, rfl⟩
  | unregister id =>
      have hout := unregister_outcome halive id
      rw [step]
      generalize m.unregister id = out at hout ⊢
      cases hout with
      | unknown _ => exact Or.inl ⟨rfl, rfl, fun h => h⟩
      | dropped hrem _ _ _ =>
          refine Or.inl ⟨rfl, ?_, fun h => h.remove hrem⟩
          rw [(Registry.remove_eq_some.mp hrem).2]
  | deny denied => exact Or.inl ⟨rfl, rfl, id⟩
  | event kind code state => exact Or.inl ⟨rfl, rfl, id⟩

/-! ## Runs -/

/-- There are no more numbers than binds. -/
theorem length_givenNumbers_le (halive : m.connection.alive = true) (steps : List (Step α)) :
    (m.givenNumbers steps).length ≤ steps.countP Step.isBind := by
  induction steps generalizing m with
  | nil => exact Nat.le_refl 0
  | cons s rest ih =>
      have hrest := ih (step_keyboard halive s).1
      rw [List.countP_cons]
      rcases step_number halive s with ⟨hnone, -, -⟩ | ⟨hbind, hsome, -⟩
      · rw [givenNumbers_cons_none hnone]
        exact Nat.le_trans hrest (Nat.le_add_right _ _)
      · rw [givenNumbers_cons_some hsome, if_pos hbind, List.length_cons]
        exact Nat.succ_le_succ hrest

/-- As long as the counter does not come to its end, a step gives a free number, which is the one
behind the last, and leaves room for the numbers of the steps after it. -/
theorem step_room (halive : m.connection.alive = true) (hcounted : m.registry.Counted)
    {s : Step α} {rest : List (Step α)}
    (hroom : m.registry.lastId.toNat + (m.givenNumbers (s :: rest)).length < 2 ^ 32) :
    (∀ id, (m.step s).1.newId? = some id →
      m.registry.get? id = none ∧ id = m.registry.lastId.toNat + 1 ∧
        (m.step s).2.registry.lastId.toNat = id) ∧
      (m.step s).2.registry.Counted ∧
      (m.step s).2.registry.lastId.toNat + ((m.step s).2.givenNumbers rest).length < 2 ^ 32 := by
  rcases step_number halive s with ⟨hnone, hlast, hkeep⟩ | ⟨-, hsome, r, hinsert⟩
  · rw [givenNumbers_cons_none hnone, ← hlast] at hroom
    exact ⟨fun id hid => absurd (hnone.symm.trans hid) (by simp), hkeep hcounted, hroom⟩
  · rw [givenNumbers_cons_some hsome, List.length_cons] at hroom
    have hhere : m.registry.lastId.toNat + 1 < 2 ^ 32 := by omega
    have hnext := Registry.nextId_of_lt hhere
    have hlast : (m.step s).2.registry.lastId.toNat = m.registry.nextId := by
      rw [hinsert]
      rfl
    refine ⟨fun id hid => ?_, ?_, by omega⟩
    · rw [hsome] at hid
      cases hid
      exact ⟨hcounted.get?_nextId hhere, hnext, hlast⟩
    · rw [hinsert]
      exact hcounted.insert hhere r

/-- As long as the counter does not come to its end, the numbers go up one by one from the last one
before them, and each is free when it is given. -/
theorem run_ids (halive : m.connection.alive = true) (hcounted : m.registry.Counted)
    (steps : List (Step α))
    (hroom : m.registry.lastId.toNat + (m.givenNumbers steps).length < 2 ^ 32) :
    m.GivesFreeNumbers steps ∧
      m.givenNumbers steps =
        List.range' (m.registry.lastId.toNat + 1) (m.givenNumbers steps).length ∧
      (m.after steps).registry.Counted ∧
      (m.after steps).registry.lastId.toNat =
        m.registry.lastId.toNat + (m.givenNumbers steps).length := by
  induction steps generalizing m with
  | nil => exact ⟨trivial, rfl, hcounted, rfl⟩
  | cons s rest ih =>
      obtain ⟨hnew, hcounted', hroom'⟩ := step_room halive hcounted hroom
      obtain ⟨hfree, hids, hend, hlast⟩ := ih (step_keyboard halive s).1 hcounted' hroom'
      refine ⟨⟨fun id hid => (hnew id hid).1, hfree⟩, ?_⟩
      rw [after]
      rcases step_number halive s with ⟨hnone, hsame, -⟩ | ⟨-, hsome, -⟩
      · rw [givenNumbers_cons_none hnone, ← hsame]
        exact ⟨hids, hend, hlast⟩
      · obtain ⟨-, hnext, hgiven⟩ := hnew _ hsome
        rw [hgiven, hnext] at hids hlast
        rw [givenNumbers_cons_some hsome, List.length_cons, List.range'_succ, hnext, ← hids]
        exact ⟨rfl, hend, by omega⟩

end Manager

/-! ## Registrations and keys -/

instance : Fintype EventKind where
  elems := {.keyPress, .keyRelease, .buttonPress, .buttonRelease}
  complete kind := by cases kind <;> decide

namespace Registry

/-- Registrations of codes up to the largest one are no more than there are keys: no key belongs to
two of them. -/
theorem Consistent.length_le {s : Registry α} (h : s.Consistent)
    (hcodes : ∀ e ∈ s.byId, ∃ code ∈ e.2.codes, code ≤ maxKeycode) :
    s.byId.length ≤ 2 ^ 26 := by
  choose! code hmem hle using hcodes
  let place : Nat × Registration α → EventKind × Fin 256 × Fin (2 ^ 16) := fun e =>
    (e.2.kind, Fin.ofNat 256 (code e), e.2.mods.toFin)
  have hplace : ∀ e ∈ s.byId, ∀ e' ∈ s.byId, place e = place e' → e = e' := by
    intro e he e' he' hsame
    obtain ⟨hkind, hcode, hmods⟩ : e.2.kind = e'.2.kind ∧
        Fin.ofNat 256 (code e) = Fin.ofNat 256 (code e') ∧ e.2.mods.toFin = e'.2.mods.toFin := by
      simpa [place] using hsame
    have hcodes : code e = code e' := by
      have hbound : ∀ d ∈ s.byId, code d % 256 = code d := fun d hd =>
        Nat.mod_eq_of_lt (Nat.lt_succ_of_le (hle d hd))
      rw [← hbound e he, ← hbound e' he']
      exact congrArg Fin.val hcode
    have hkey : ({ kind := e.2.kind, code := code e, mods := e.2.mods } : GrabKey) ∈ e.2.keys :=
      Registration.mem_keys.mpr ⟨rfl, hmem e he, rfl⟩
    have hkey' : ({ kind := e.2.kind, code := code e, mods := e.2.mods } : GrabKey) ∈ e'.2.keys :=
      Registration.mem_keys.mpr ⟨hkind, hcodes ▸ hmem e' he', BitVec.eq_of_toFin_eq hmods⟩
    have hid := h.id_unique (h.get?_iff.mpr he) (h.get?_iff.mpr he') hkey hkey'
    exact List.inj_on_of_nodup_map h.ids_nodup he he' hid
  have hnodup : (s.byId.map place).Nodup := (List.Nodup.of_map _ h.ids_nodup).map_on hplace
  have hlength := hnodup.length_le_card
  have hkinds : Fintype.card EventKind = 4 := rfl
  rw [List.length_map, Fintype.card_prod, Fintype.card_prod, Fintype.card_fin, Fintype.card_fin,
    hkinds] at hlength
  exact hlength

end Registry

end Hotkeys.X11
