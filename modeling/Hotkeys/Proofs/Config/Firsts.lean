import Hotkeys.Proofs.Config.Expanded

/-!
# First elements of keys

`firsts` goes through a list with the keys that it has seen.  It can be told without them: the first
element stays, and of those behind it the ones with other keys (`firsts_cons`), so that it is the
`eraseDupsBy` of the list library (`firsts_eq_eraseDupsBy`).

Main statements: of two lists one behind the other, the second gives what the first does not have
(`firsts_append`); where lists are put together, it makes no difference whether each of them was
thinned out before (`firsts_flatMap_firsts`).
-/

set_option autoImplicit false

namespace Hotkeys.Config

variable {α β : Type} (key : α → Text)

/-! ## Without the keys seen -/

/-- The keys seen before take away the elements that have them, and no others. -/
theorem firstsFrom_eq_filter (seen : List Text) (l : List α) :
    firstsFrom key seen l = (firsts key l).filter fun a => !seen.contains (key a) := by
  induction l generalizing seen with
  | nil => rfl
  | cons a as ih =>
      have hfirsts : firsts key (a :: as) = a :: firstsFrom key [key a] as := rfl
      rw [hfirsts, ih [key a], firstsFrom, ih seen, ih (key a :: seen), List.filter_cons,
        List.filter_filter]
      by_cases hseen : key a ∈ seen
      · have hkeep : (!seen.contains (key a)) = false := by simpa using hseen
        rw [if_pos (List.contains_iff_mem.mpr hseen), if_neg (Bool.eq_false_iff.mp hkeep)]
        refine List.filter_congr fun b _ => ?_
        -- An element with the key of `a` is out on either side.
        by_cases hkey : key b = key a <;> simp [hkey, hseen]
      · have hkeep : (!seen.contains (key a)) = true := by simpa using hseen
        rw [if_neg (mt List.contains_iff_mem.mp hseen), if_pos hkeep]
        refine congrArg (a :: ·) (List.filter_congr fun b _ => ?_)
        rw [List.contains_cons, Bool.not_or, List.contains_cons, List.contains_nil,
          Bool.or_false, Bool.and_comm]

theorem firsts_nil : firsts key [] = [] := rfl

theorem firsts_cons (a : α) (as : List α) :
    firsts key (a :: as) = a :: (firsts key as).filter fun b => key b != key a := by
  have hfirsts : firsts key (a :: as) = a :: firstsFrom key [key a] as := rfl
  rw [hfirsts, firstsFrom_eq_filter]
  refine congrArg (a :: ·) (List.filter_congr fun b _ => ?_)
  rw [List.contains_cons, List.contains_nil, Bool.or_false]
  rfl

theorem firsts_eq_nil_iff (l : List α) : firsts key l = [] ↔ l = [] := by
  cases l with
  | nil => exact iff_of_true rfl rfl
  | cons a as =>
      rw [firsts_cons]
      exact iff_of_false (List.cons_ne_nil _ _) (List.cons_ne_nil _ _)

/-- No two elements that stay have the same key. -/
theorem nodup_firsts (l : List α) : ((firsts key l).map key).Nodup :=
  (nodup_firstsFrom key [] l).2

theorem mem_map_firsts {l : List α} {k : Text} : k ∈ (firsts key l).map key ↔ k ∈ l.map key := by
  rw [List.mem_map, List.mem_map]
  constructor
  · rintro ⟨a, ha, rfl⟩
    exact ⟨a, (firstsFrom_sublist key [] l).subset ha, rfl⟩
  · rintro ⟨a, ha, rfl⟩
    exact (exists_firstsFrom key [] l ha).resolve_left List.not_mem_nil

/-! ## Filtering by the key -/

/-- A filter that looks at nothing but the key may as well come first. -/
theorem firsts_filter (keep : Text → Bool) (l : List α) :
    firsts key (l.filter fun a => keep (key a)) =
      (firsts key l).filter fun a => keep (key a) := by
  induction l with
  | nil => rfl
  | cons a as ih =>
      rw [firsts_cons, List.filter_cons, List.filter_cons, List.filter_filter]
      cases hkeep : keep (key a) with
      | true =>
          rw [if_pos rfl, if_pos rfl, firsts_cons, ih, List.filter_filter]
          exact congrArg (a :: ·) (List.filter_congr fun b _ => Bool.and_comm _ _)
      | false =>
          rw [if_neg Bool.false_ne_true, if_neg Bool.false_ne_true, ih]
          refine List.filter_congr fun b _ => ?_
          by_cases hkey : key b = key a <;> simp [hkey, hkeep]

/-- The first elements are those that the list library keeps when it erases repeats. -/
theorem firsts_eq_eraseDupsBy (l : List α) :
    firsts key l = l.eraseDupsBy fun a b => key a == key b := by
  induction hn : l.length using Nat.strong_induction_on generalizing l with
  | _ n ih =>
      cases l with
      | nil => rfl
      | cons a as =>
          have hothers : as.filter (fun b => decide ((key b == key a) = false)) =
              as.filter fun b => key b != key a := by
            refine List.filter_congr fun b _ => ?_
            rw [bne, Bool.decide_eq_false]
          have hshorter : (as.filter fun b => key b != key a).length < n := by
            rw [← hn]
            exact Nat.lt_succ_of_le (List.length_filter_le _ as)
          rw [List.eraseDupsBy_cons, hothers, ← ih _ hshorter _ rfl, firsts_cons]
          exact congrArg (a :: ·) (firsts_filter key (· != key a) as).symm

/-! ## Lists put together -/

/-- Elements with different keys all stay. -/
theorem firsts_eq_self {l : List α} (h : (l.map key).Nodup) : firsts key l = l := by
  induction l with
  | nil => rfl
  | cons a as ih =>
      rw [List.map_cons, List.nodup_cons] at h
      rw [firsts_cons, ih h.2, List.filter_eq_self.mpr]
      intro b hb
      exact bne_iff_ne.mpr fun hkey => h.1 (hkey ▸ List.mem_map_of_mem hb)

theorem firsts_firsts (l : List α) : firsts key (firsts key l) = firsts key l :=
  firsts_eq_self key (nodup_firsts key l)

/-- Of two lists the second gives the first elements of keys that the first does not have. -/
theorem firsts_append (l l' : List α) :
    firsts key (l ++ l') =
      firsts key l ++
        (firsts key l').filter fun a => !((firsts key l).map key).contains (key a) := by
  -- All keys of `l` are looked for instead, so that the induction can take its head off.
  have hkeys : ∀ k, ((firsts key l).map key).contains k = (l.map key).contains k := by
    intro k
    rw [Bool.eq_iff_iff, List.contains_iff_mem, List.contains_iff_mem, mem_map_firsts]
  simp only [hkeys]
  clear hkeys
  induction l with
  | nil =>
      rw [List.nil_append, firsts_nil, List.nil_append]
      exact (List.filter_eq_self.mpr fun _ _ => rfl).symm
  | cons a as ih =>
      rw [List.cons_append, firsts_cons, ih, List.filter_append, List.filter_filter, firsts_cons,
        List.cons_append]
      refine congrArg (a :: ·) (congrArg (_ ++ ·) (List.filter_congr fun b _ => ?_))
      rw [List.map_cons, List.contains_cons, Bool.not_or]
      rfl

/-- Lists that are put together may be thinned out before. -/
theorem firsts_flatMap_firsts (f : β → List α) (bs : List β) :
    firsts key (bs.flatMap fun b => firsts key (f b)) = firsts key (bs.flatMap f) := by
  induction bs with
  | nil => rfl
  | cons b bs ih =>
      rw [List.flatMap_cons, List.flatMap_cons]
      rw [firsts_append, firsts_append, firsts_firsts, ih]

/-- Elements may be replaced before, where this keeps the keys. -/
theorem firsts_map (g : β → α) (l : List β) :
    firsts key (l.map g) = (firsts (fun b => key (g b)) l).map g := by
  induction l with
  | nil => rfl
  | cons b bs ih =>
      rw [List.map_cons, firsts_cons, firsts_cons, List.map_cons, ih, List.filter_map]
      rfl

end Hotkeys.Config
