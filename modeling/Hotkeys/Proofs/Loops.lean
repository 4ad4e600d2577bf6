import Mathlib.Logic.Basic

/-!
# Loops that need not end

A loop is told by what a round of it does.  It has a value just when one of its rounds is the last
and none of them goes wrong (`loop?_eq_some_iff`); how many rounds it takes is not said.  What is
used of a loop is its equation (`loop?_eq`), and that of a loop that collects what it finds
(`collect?_eq`).
-/

set_option autoImplicit false

namespace Hotkeys

/-- What a round of a loop comes to. -/
inductive Round (α β : Type) where
  /-- It was the last one. -/
  | done (result : β)
  /-- Another one follows. -/
  | again (state : α)

variable {α β : Type} {step : α → Option (Round α β)}

/-! ## Bounded loops -/

/-- A loop of no more than a number of rounds. -/
def rounds? (step : α → Option (Round α β)) : Nat → α → Option β
  | 0, _ => none
  | n + 1, a => do
    match ← step a with
    | .done b => return b
    | .again a => rounds? step n a

theorem rounds?_succ (n : Nat) {a : α} {b : β} (h : rounds? step n a = some b) :
    rounds? step (n + 1) a = some b := by
  induction n generalizing a with
  | zero => exact absurd h.symm (Option.some_ne_none b)
  | succ n ih =>
      rw [rounds?] at h ⊢
      obtain ⟨round, hround, h⟩ := Option.bind_eq_some_iff.mp h
      rw [hround, Option.bind_eq_bind, Option.bind_some]
      cases round with
      | done => exact h
      | again a => exact ih h

theorem rounds?_of_le {m n : Nat} (hle : m ≤ n) {a : α} {b : β} (h : rounds? step m a = some b) :
    rounds? step n a = some b := by
  induction hle with
  | refl => exact h
  | step _ ih => exact rounds?_succ _ ih

/-! ## Loops -/

open Classical in
/-- A loop of as many rounds as it takes. -/
noncomputable def loop? (step : α → Option (Round α β)) (a : α) : Option β :=
  if h : ∃ n b, rounds? step n a = some b then rounds? step h.choose a else none

theorem loop?_eq_some_iff {a : α} {b : β} :
    loop? step a = some b ↔ ∃ n, rounds? step n a = some b := by
  unfold loop?
  constructor
  · intro h
    split at h
    case isTrue => exact ⟨_, h⟩
    case isFalse => exact absurd h.symm (Option.some_ne_none b)
  · rintro ⟨n, hn⟩
    have hends : ∃ n b, rounds? step n a = some b := ⟨n, b, hn⟩
    obtain ⟨b', hb'⟩ := hends.choose_spec
    -- The two bounds agree, since both are below a third.
    have hmax := rounds?_of_le (Nat.le_max_left n hends.choose) hn
    have hmax' := rounds?_of_le (Nat.le_max_right n hends.choose) hb'
    rw [dif_pos hends, hb', ← hmax', hmax]

/-- Goes on behind a round. -/
noncomputable def goOn? (step : α → Option (Round α β)) : Round α β → Option β
  | .done b => some b
  | .again a => loop? step a

/-- A loop is a round and what follows it. -/
theorem loop?_eq (step : α → Option (Round α β)) (a : α) :
    loop? step a = (step a).bind (goOn? step) := by
  apply Option.ext
  intro b
  rw [loop?_eq_some_iff, Option.bind_eq_some_iff]
  constructor
  · rintro ⟨n, hn⟩
    cases n with
    | zero => exact absurd hn.symm (Option.some_ne_none b)
    | succ n =>
        obtain ⟨round, hround, h⟩ := Option.bind_eq_some_iff.mp hn
        refine ⟨round, hround, ?_⟩
        cases round with
        | done => exact h
        | again a => exact loop?_eq_some_iff.mpr ⟨n, h⟩
  · rintro ⟨round, hround, h⟩
    cases round with
    | done =>
        refine ⟨1, ?_⟩
        rw [rounds?, hround]
        exact h
    | again a =>
        obtain ⟨n, hn⟩ := loop?_eq_some_iff.mp h
        refine ⟨n + 1, ?_⟩
        rw [rounds?, hround]
        exact hn

theorem loop?_of_done {a : α} {b : β} (h : step a = some (.done b)) : loop? step a = some b := by
  rw [loop?_eq, h]
  rfl

theorem loop?_of_again {a a' : α} (h : step a = some (.again a')) :
    loop? step a = loop? step a' := by
  rw [loop?_eq, h]
  rfl

/-! ## Loops that collect -/

/-- A round that finds one more thing, or is the last. -/
def findRound (next : α → Option (Option (β × α))) :
    List β × α → Option (Round (List β × α) (List β))
  | (found, a) => do
    match ← next a with
    | none => return .done found
    | some (b, a) => return .again (found ++ [b], a)

/-- Everything that is found from a state on. -/
noncomputable def collect? (next : α → Option (Option (β × α))) (a : α) : Option (List β) :=
  loop? (findRound next) ([], a)

variable {next : α → Option (Option (β × α))}

theorem rounds?_findRound (n : Nat) (found : List β) (a : α) :
    rounds? (findRound next) n (found, a) =
      (rounds? (findRound next) n ([], a)).map (found ++ ·) := by
  induction n generalizing found a with
  | zero => rfl
  | succ n ih =>
      rw [rounds?, rounds?, findRound, findRound]
      cases hnext : next a with
      | none => rfl
      | some item =>
          cases item with
          | none => exact congrArg some (List.append_nil found).symm
          | some item =>
              obtain ⟨b, a'⟩ := item
              have hthis := ih (found ++ [b]) a'
              have hempty := ih ([] ++ [b]) a'
              simp only [Option.bind_eq_bind, Option.bind_some, Option.pure_def]
              rw [hthis, hempty, Option.map_map]
              simp only [Function.comp_def, List.nil_append, List.append_assoc]

/-- What was found before stays in front. -/
theorem loop?_findRound (found : List β) (a : α) :
    loop? (findRound next) (found, a) = (collect? next a).map (found ++ ·) := by
  apply Option.ext
  intro bs
  unfold collect?
  rw [loop?_eq_some_iff, Option.map_eq_some_iff]
  constructor
  · rintro ⟨n, hn⟩
    rw [rounds?_findRound] at hn
    obtain ⟨rest, hrest, heq⟩ := Option.map_eq_some_iff.mp hn
    exact ⟨rest, loop?_eq_some_iff.mpr ⟨n, hrest⟩, heq⟩
  · rintro ⟨rest, hrest, heq⟩
    obtain ⟨n, hn⟩ := loop?_eq_some_iff.mp hrest
    refine ⟨n, ?_⟩
    rw [rounds?_findRound, hn]
    exact congrArg some heq

/-- Collecting is to find one thing and then to collect what there is from there on. -/
theorem collect?_eq (next : α → Option (Option (β × α))) (a : α) :
    collect? next a = (next a).bind fun
      | none => some []
      | some (b, a') => (collect? next a').map (b :: ·) := by
  rw [collect?, loop?_eq, findRound]
  cases next a with
  | none => rfl
  | some item =>
      cases item with
      | none => rfl
      | some item => exact loop?_findRound [item.1] item.2

/-- A state in which nothing more is found. -/
theorem collect?_of_none {a : α} (h : next a = some none) : collect? next a = some [] := by
  rw [collect?_eq, h]
  rfl

/-- A state in which something is found. -/
theorem collect?_of_some {a a' : α} {b : β} (h : next a = some (some (b, a'))) :
    collect? next a = (collect? next a').map (b :: ·) := by
  rw [collect?_eq, h]
  rfl

end Hotkeys
