import Hotkeys.Proofs.Config.Ordering
import Hotkeys.Proofs.Loops

/-!
# The odometer

The choices of one member from each group can be gone through without a list of them: an index for
each group is turned like an odometer, the last one fastest, until it is back at the start.

Main statement: the odometer stops, and on the way it was at each choice once, in their order
(`turn?_zeros`).
-/

set_option autoImplicit false

namespace Hotkeys.Config

variable {α : Type}

/-- Turns the index before position `g` on by one.  An index that was at the last member goes back
to the first, and the index before it is turned; `some none` says that there is none before it. -/
def carry? (groups : List (List Text)) :
    (g : Nat) → (indices : List Nat) → Option (Option (List Nat))
  | 0, _ => some none
  | g + 1, indices => do
    let k ← indices[g]?
    let members ← groups[g]?
    if k + 1 < members.length then return some (indices.set g (k + 1))
    else carry? groups g (indices.set g 0)

/-- What is found at some indices, and the indices after them; `none` is behind the last ones. -/
def visitNext? (groups : List (List Text)) (visit : List Nat → Option α) :
    Option (List Nat) → Option (Option (α × Option (List Nat)))
  | none => some none
  | some indices => do
    let here ← visit indices
    let next ← carry? groups indices.length indices
    return some (here, next)

/-- What is found at the indices from some on, up to where the odometer is back at the start. -/
noncomputable def turn? (groups : List (List Text)) (visit : List Nat → Option α)
    (indices : List Nat) : Option (List α) :=
  collect? (visitNext? groups visit) (some indices)

/-- What is found after the index before position `g` was turned. -/
noncomputable def turnFrom? (groups : List (List Text)) (visit : List Nat → Option α) (g : Nat)
    (indices : List Nat) : Option (List α) := do
  collect? (visitNext? groups visit) (← carry? groups g indices)

variable {groups : List (List Text)} {visit : List Nat → Option α}

theorem turn?_eq {indices : List Nat} {a : α} (h : visit indices = some a) :
    turn? groups visit indices = (turnFrom? groups visit indices.length indices).map (a :: ·) := by
  rw [turn?, collect?_eq, visitNext?, turnFrom?, h]
  cases carry? groups indices.length indices <;> rfl

/-- An index that is not at the last member is turned by itself; one that is goes back to the first
member, and the index before it is turned. -/
theorem turnFrom?_succ {front back : List (List Text)} {members : List Text} {fixed : List Nat}
    (hgroups : groups = front ++ members :: back) (hfixed : fixed.length = front.length) (k : Nat)
    (rest : List Nat) :
    turnFrom? groups visit (fixed.length + 1) (fixed ++ k :: rest) =
      if k + 1 < members.length then turn? groups visit (fixed ++ (k + 1) :: rest)
      else turnFrom? groups visit fixed.length (fixed ++ 0 :: rest) := by
  have hindex : (fixed ++ k :: rest)[fixed.length]? = some k := by simp
  have hmembers : groups[fixed.length]? = some members := by
    rw [hgroups, hfixed]
    simp
  have hset : ∀ n, (fixed ++ k :: rest).set fixed.length n = fixed ++ n :: rest := by simp
  rw [turnFrom?, carry?, hindex, hmembers]
  simp only [Option.bind_eq_bind, Option.bind_some, hset]
  by_cases hk : k + 1 < members.length
  · rw [if_pos hk, if_pos hk]
    rfl
  · rw [if_neg hk, if_neg hk]
    rfl

theorem mem_choices_concat {sizes fixed : List Nat} {k n : Nat} (hfixed : fixed ∈ choices sizes)
    (hk : k < n) : fixed ++ [k] ∈ choices (sizes ++ [n]) := by
  rw [mem_choices] at hfixed ⊢
  exact List.rel_append hfixed (.cons hk .nil)

/-- An index goes on to its last member if the later ones, behind each of its members, go through
all of theirs.  The induction is on how far it is from its last member. -/
theorem turn?_from {front back : List (List Text)} {members : List Text} {fixed zeros : List Nat}
    (hgroups : groups = front ++ members :: back) (hfixed : fixed.length = front.length)
    {found : Nat → List α}
    (hlater : ∀ k < members.length, turn? groups visit (fixed ++ k :: zeros) =
      (turnFrom? groups visit (fixed.length + 1) (fixed ++ k :: zeros)).map (found k ++ ·))
    {n k : Nat} (hk : k + n + 1 = members.length) :
    turn? groups visit (fixed ++ k :: zeros) =
      (turnFrom? groups visit fixed.length (fixed ++ 0 :: zeros)).map
        ((List.range' k (n + 1)).flatMap found ++ ·) := by
  induction n generalizing k with
  | zero =>
      rw [hlater k (by omega), turnFrom?_succ hgroups hfixed, if_neg (by omega), List.range'_one,
        List.flatMap_singleton]
  | succ n ih =>
      have hsplit : List.range' k (n + 1 + 1) = k :: List.range' (k + 1) (n + 1) :=
        List.range'_succ
      rw [hlater k (by omega), turnFrom?_succ hgroups hfixed, if_pos (by omega), ih (by omega),
        Option.map_map, hsplit, List.flatMap_cons]
      simp only [Function.comp_def, List.append_assoc]

/-- The last indices go through all of their choices before the one in front of them is turned.  The
induction is on the groups of the last indices. -/
theorem turn?_back {front back : List (List Text)} (hgroups : groups = front ++ back)
    (hne : ∀ members ∈ back, members ≠ []) {f : List Nat → α}
    (hvisit : ∀ choice ∈ choices (groups.map List.length), visit choice = some (f choice))
    {fixed : List Nat} (hfixed : fixed ∈ choices (front.map List.length)) :
    turn? groups visit (fixed ++ List.replicate back.length 0) =
      (turnFrom? groups visit fixed.length (fixed ++ List.replicate back.length 0)).map
        ((choices (back.map List.length)).map (fun rest => f (fixed ++ rest)) ++ ·) := by
  induction back generalizing front fixed with
  | nil =>
      rw [List.append_nil] at hgroups
      subst hgroups
      rw [List.length_nil, List.replicate_zero, List.append_nil, turn?_eq (hvisit fixed hfixed)]
      simp only [List.map_nil, choices, List.map_cons, List.append_nil, List.singleton_append]
  | cons members back ih =>
      obtain ⟨hmembers, hback⟩ := List.forall_mem_cons.mp hne
      have hlength : fixed.length = front.length := by
        rw [(mem_choices.mp hfixed).length_eq, List.length_map]
      have hgroups' : groups = (front ++ [members]) ++ back := by
        rw [hgroups, List.append_assoc, List.singleton_append]
      -- Behind an index of this group, the later ones go through all of their choices.
      have hlater : ∀ k < members.length,
          turn? groups visit (fixed ++ k :: List.replicate back.length 0) =
            (turnFrom? groups visit (fixed.length + 1)
              (fixed ++ k :: List.replicate back.length 0)).map
              ((choices (back.map List.length)).map (fun rest => f (fixed ++ k :: rest)) ++ ·) := by
        intro k hk
        have hchoice : fixed ++ [k] ∈ choices ((front ++ [members]).map List.length) := by
          rw [List.map_append]
          exact mem_choices_concat hfixed hk
        have hturn := ih hgroups' hback hchoice
        simpa only [List.append_assoc, List.singleton_append, List.length_append,
          List.length_singleton] using hturn
      obtain ⟨n, hn⟩ := Nat.exists_eq_succ_of_ne_zero (mt List.length_eq_zero_iff.mp hmembers)
      have hall := turn?_from hgroups hlength hlater (show 0 + n + 1 = members.length by omega)
      rw [List.length_cons, List.replicate_succ, hall, List.map_cons, choices, List.map_flatMap, hn,
        ← List.range_eq_range']
      simp only [List.map_map, Function.comp_def]

/-- The odometer stops, and on the way it was at each choice once, in their order. -/
theorem turn?_zeros (hne : ∀ members ∈ groups, members ≠ []) {f : List Nat → α}
    (hvisit : ∀ choice ∈ choices (groups.map List.length), visit choice = some (f choice)) :
    turn? groups visit (List.replicate groups.length 0) =
      some ((choices (groups.map List.length)).map f) := by
  have hfixed : [] ∈ choices (List.map List.length ([] : List (List Text))) :=
    List.mem_singleton_self _
  have hall := turn?_back (List.nil_append groups).symm hne hvisit hfixed
  rw [List.nil_append] at hall
  have hstart : turnFrom? groups visit 0 (List.replicate groups.length 0) = some [] :=
    collect?_of_none rfl
  rw [hall, List.length_nil, hstart, Option.map_some, List.append_nil]
  rfl

end Hotkeys.Config
