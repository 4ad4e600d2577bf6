import Hotkeys.Proofs.Config.Normalizing
import Hotkeys.Proofs.Config.Unfailing
import Mathlib.Data.List.SplitBy

/-!
# Collapsed bindings

Collapsing a binding drops, time and again, a separator that stands behind the same separator.  So
what one such drop does not change is not changed by collapsing (`IgnoresRepeats.apply_collapse`).
That holds of the text with its runs of separators shortened (`ignoresRepeats_withShortRuns`), of
the event (`ignoresRepeats_eventOf`) and of the parts of the chord (`ignoresRepeats_chordParts`).

The event needs the most care, since it is read between plus signs only: a run of minus signs is a
piece of a part there, and shortening it changes the lowered part and its size, but nothing before
the run, which alone decides what the part says (`partEvent_append_minus`).

Main statement: `collapse_keeps_chord`.
-/

set_option autoImplicit false

namespace Hotkeys.Config

/-! ## Dropping repeated separators -/

/-- Whether it makes no difference to `f` that a separator behind the same separator is dropped. -/
def IgnoresRepeats {α : Type} (f : Text → α) : Prop :=
  ∀ (before : Text) (c : Char) (behind : Text), c = '+' ∨ c = '-' →
    f (before ++ c :: c :: behind) = f (before ++ c :: behind)

section

variable {α : Type} {f : Text → α}

/-- Halving the runs of a separator drops repeats only, wherever the text stands. -/
theorem IgnoresRepeats.apply_halveRuns (hf : IgnoresRepeats f) {c : Char} (hc : c = '+' ∨ c = '-')
    (before t : Text) :
    f (before ++ halveRuns c t) = f (before ++ t) := by
  fun_induction halveRuns c t generalizing before with
  | case1 a b rest hrun ih =>
      obtain ⟨rfl, rfl⟩ := hrun
      rw [List.append_cons, ih, ← List.append_cons]
      exact (hf before b rest hc).symm
  | case2 a b rest hrun ih => rw [List.append_cons, ih, ← List.append_cons]
  | case3 => rfl

/-- What ignores repeated separators does not tell a binding from the collapsed one. -/
theorem IgnoresRepeats.apply_collapse (hf : IgnoresRepeats f) (t : Text) :
    f (collapse t) = f t := by
  fun_induction collapse t with
  | case1 t halved hshorter ih =>
      calc f (collapse halved)
        _ = f (halveRuns '-' (halveRuns '+' t)) := ih
        _ = f (halveRuns '+' t) := hf.apply_halveRuns (.inr rfl) [] _
        _ = f t := hf.apply_halveRuns (.inl rfl) [] t
  | case2 => rfl

end

/-- Whether a separator stands behind the same separator. -/
def HasRepeat (t : Text) : Prop :=
  ['+', '+'] <:+: t ∨ ['-', '-'] <:+: t

theorem not_hasRepeat_collapse (t : Text) : ¬ HasRepeat (collapse t) := by
  fun_induction collapse t with
  | case1 t halved hshorter ih => exact ih
  | case2 t halved hsame => exact mt length_halveRuns_halveRuns_lt_iff.mpr hsame

theorem collapse_eq_self {t : Text} (h : ¬ HasRepeat t) : collapse t = t := by
  rw [collapse]
  exact if_neg (mt length_halveRuns_halveRuns_lt_iff.mp h)

/-! ## Runs -/

/-- The runs of a text: its longest pieces that hold one character only. -/
def runs (t : Text) : List Text :=
  t.splitBy (· == ·)

/-- A run of separators shortened to one character.  Any other run stays. -/
def shortRun : (run : Text) → Text
  | [] => []
  | c :: rest => if c = '+' ∨ c = '-' then [c] else c :: rest

/-- A text with each of its runs of plus signs and of minus signs shortened to one character. -/
def withShortRuns (t : Text) : Text :=
  (runs t).flatMap shortRun

theorem exists_runs_cons (c : Char) (t : Text) :
    ∃ run more, runs (c :: t) = (c :: run) :: more := by
  cases hruns : runs (c :: t) with
  | nil => exact absurd hruns (List.splitBy_ne_nil.mpr (List.cons_ne_nil c t))
  | cons first more =>
      cases first with
      | nil => exact absurd (hruns ▸ List.mem_cons_self) (List.nil_notMem_splitBy _ (c :: t))
      | cons d run =>
          have hflatten : (runs (c :: t)).flatten = c :: t := List.flatten_splitBy _ _
          rw [hruns] at hflatten
          obtain ⟨rfl, -⟩ := List.cons.inj hflatten
          exact ⟨run, more, rfl⟩

/-- A character behind another one begins a run. -/
theorem runs_cons_of_ne {c : Char} {t : Text} (h : c ∉ t.head?) : runs (c :: t) = [c] :: runs t := by
  refine List.splitBy_append (l := [c]) fun x hx y hy => ?_
  cases Option.mem_some.mp hx
  refine beq_eq_false_iff_ne.mpr ?_
  rintro rfl
  exact h hy

/-- A character behind itself belongs to the same run. -/
theorem runs_cons_cons_self {c : Char} {t run : Text} {more : List Text}
    (h : runs (c :: t) = (c :: run) :: more) :
    runs (c :: c :: t) = (c :: c :: run) :: more := by
  obtain ⟨hflatten, hnil, hsame, hbetween⟩ := List.splitBy_eq_iff.mp h
  refine List.splitBy_eq_iff.mpr ⟨?_, ?_, ?_, ?_⟩
  · rw [hflatten]
    rfl
  · exact List.not_mem_cons_of_ne_of_not_mem (List.cons_ne_nil c _).symm
      (List.not_mem_of_not_mem_cons hnil)
  · rw [List.forall_mem_cons] at hsame ⊢
    exact ⟨List.isChain_cons_cons.mpr ⟨beq_self_eq_true c, hsame.1⟩, hsame.2⟩
  · rw [List.isChain_cons] at hbetween ⊢
    refine ⟨fun next hnext => ?_, hbetween.2⟩
    obtain ⟨_, hne, hother⟩ := hbetween.1 next hnext
    exact ⟨List.cons_ne_nil c _, hne, hother⟩

theorem withShortRuns_cons (c : Char) (t : Text) :
    withShortRuns (c :: t) =
      if c ∈ t.head? ∧ (c = '+' ∨ c = '-') then withShortRuns t else c :: withShortRuns t := by
  by_cases hhead : c ∈ t.head?
  · obtain ⟨rest, rfl⟩ := List.head?_eq_some_iff.mp hhead
    obtain ⟨run, more, hruns⟩ := exists_runs_cons c rest
    rw [withShortRuns, withShortRuns, runs_cons_cons_self hruns, hruns, List.flatMap_cons,
      List.flatMap_cons, shortRun, shortRun]
    by_cases hc : c = '+' ∨ c = '-'
    · rw [if_pos hc, if_pos hc, if_pos ⟨hhead, hc⟩]
    · rw [if_neg hc, if_neg hc, if_neg fun h => hc h.2]
      rfl
  · rw [if_neg fun h => hhead h.1, withShortRuns, runs_cons_of_ne hhead, List.flatMap_cons,
      shortRun, ite_self]
    rfl

theorem ignoresRepeats_withShortRuns : IgnoresRepeats withShortRuns := by
  intro before c behind hc
  induction before with
  | nil => exact (withShortRuns_cons c (c :: behind)).trans (if_pos ⟨rfl, hc⟩)
  | cons d before ih =>
      have hhead : (before ++ c :: c :: behind).head? = (before ++ c :: behind).head? := by
        cases before <;> rfl
      rw [List.cons_append, List.cons_append, withShortRuns_cons, withShortRuns_cons, hhead, ih]

theorem withShortRuns_eq_self {t : Text} (h : ¬ HasRepeat t) : withShortRuns t = t := by
  induction t with
  | nil => rfl
  | cons c t ih =>
      have hrest : ¬ HasRepeat t := fun hrepeat =>
        h (hrepeat.imp (·.trans (List.suffix_cons c t).isInfix)
          (·.trans (List.suffix_cons c t).isInfix))
      have hfirst : ¬ (c ∈ t.head? ∧ (c = '+' ∨ c = '-')) := by
        rintro ⟨hhead, hc⟩
        obtain ⟨rest, rfl⟩ := List.head?_eq_some_iff.mp hhead
        have hdouble : [c, c] <:+: c :: c :: rest := (List.prefix_append [c, c] rest).isInfix
        rcases hc with rfl | rfl
        · exact h (.inl hdouble)
        · exact h (.inr hdouble)
      rw [withShortRuns_cons, if_neg hfirst, ih hrest]

/-- A collapsed binding is the binding with short runs, since collapsing changes nothing about the
latter and leaves no long run. -/
theorem collapse_eq_withShortRuns (t : Text) : collapse t = withShortRuns t :=
  calc collapse t
    _ = withShortRuns (collapse t) := (withShortRuns_eq_self (not_hasRepeat_collapse t)).symm
    _ = withShortRuns t := ignoresRepeats_withShortRuns.apply_collapse t

/-! ## The parts of the chord -/

/-- Between two separators stands an empty part, which is left out. -/
theorem ignoresRepeats_chordParts : IgnoresRepeats chordParts := by
  intro before c behind hc
  have hsep : Keys.isSeparator c = true := by rcases hc with rfl | rfl <;> rfl
  have hempty : Text.splitOn Keys.isSeparator (c :: behind) =
      [] :: Text.splitOn Keys.isSeparator behind := if_pos hsep
  rw [chordParts, chordParts, Text.splitOn_append_sep hsep, Text.splitOn_append_sep hsep, hempty]
  simp only [List.map_append, List.map_cons, List.filter_append, List.filter_nil,
    List.filter_cons, List.isEmpty_nil, Bool.not_true, Bool.false_eq_true, if_false]

/-! ## The event -/

/-- What a part between plus signs says about the event. -/
def partEvent (part : Text) : EventKind :=
  let lowered := Text.lowercase (part.filter (· != '!'))
  if 1 < Text.Utf8.size lowered then classify lowered else .keyPress

theorem merge_keyPress (event : EventKind) : event.merge .keyPress = event := by
  cases event <;> rfl

/-- The parts that have no say may as well say that a key is pressed. -/
theorem eventOf_eq_foldl (binding : Text) :
    eventOf binding =
      ((Text.splitOn (· == '+') binding).map partEvent).foldl EventKind.merge .keyPress := by
  rw [eventOf, eventParts, List.foldl_filter, List.foldl_map, List.foldl_map]
  congr
  funext event part
  rw [partEvent]
  by_cases hsize : 1 < Text.Utf8.size (Text.lowercase (part.filter (· != '!')))
  · rw [if_pos (decide_eq_true hsize), if_pos hsize]
  · rw [if_neg (by simpa using hsize), if_neg hsize, merge_keyPress]

theorem classify_append_minus (lowered rest : Text) :
    classify (lowered ++ '-' :: rest) = classify lowered := by
  rw [classify, classify, Text.beginsWith_append_cons (by decide),
    Text.beginsWith_append_cons (by decide), Text.beginsWith_append_cons (by decide)]

/-- What a part says is decided before its first minus sign.  A part that is too short to have a say
has nothing there. -/
theorem partEvent_append_minus (t rest : Text) :
    partEvent (t ++ '-' :: rest) = classify (Text.lowercase (t.filter (· != '!'))) := by
  obtain ⟨more, hlower⟩ :=
    exists_lowercase_append_minus (t.filter (· != '!')) (rest.filter (· != '!'))
  have hfilter : (t ++ '-' :: rest).filter (· != '!') =
      t.filter (· != '!') ++ '-' :: rest.filter (· != '!') := by
    rw [List.filter_append, List.filter_cons_of_pos (by decide)]
  rw [partEvent, hfilter, hlower, classify_append_minus]
  cases hbefore : Text.lowercase (t.filter (· != '!')) with
  | nil => exact ite_self _
  | cons c cs =>
      refine if_pos (Nat.lt_of_lt_of_le ?_ (Text.Utf8.length_le_size _))
      simp

theorem ignoresRepeats_eventOf : IgnoresRepeats eventOf := by
  intro before c behind hc
  rw [eventOf_eq_foldl, eventOf_eq_foldl]
  rcases hc with rfl | rfl
  · -- an empty part, which says that a key is pressed
    have hempty : Text.splitOn (· == '+') ('+' :: behind) = [] :: Text.splitOn (· == '+') behind :=
      rfl
    have hsilent : partEvent [] = .keyPress := by decide
    rw [Text.splitOn_append_sep rfl, Text.splitOn_append_sep rfl, hempty]
    simp only [List.map_append, List.map_cons, List.foldl_append, List.foldl_cons, hsilent,
      merge_keyPress]
  · -- the same parts, but for the one with the minus signs
    obtain ⟨front, first, last, back, hparts⟩ :=
      Text.exists_splitOn_around (· == '+') before behind
    have htwo := hparts ['-', '-'] (by simp)
    have hone := hparts ['-'] (by simp)
    simp only [List.cons_append, List.nil_append] at htwo hone
    rw [htwo, hone]
    simp only [List.map_append, List.map_cons, partEvent_append_minus]

/-! ## Main statement -/

theorem ignoresRepeats_normalText : IgnoresRepeats normalText := by
  intro before c behind hc
  rw [normalText, normalText, chordText, chordText, ignoresRepeats_eventOf before c behind hc,
    ignoresRepeats_chordParts before c behind hc]

/-- A collapsed binding holds no separator twice in a row.  It is the binding with each run of plus
signs and each run of minus signs shortened to one character, collapsing it again changes nothing,
and it is for the same event and the same chord text as the binding. -/
theorem collapse_keeps_chord (binding : Text) :
    (¬ ['+', '+'] <:+: collapse binding ∧ ¬ ['-', '-'] <:+: collapse binding) ∧
      collapse binding = withShortRuns binding ∧
      collapse (collapse binding) = collapse binding ∧
      eventOf (collapse binding) = eventOf binding ∧
      normalText (collapse binding) = normalText binding := by
  have hrepeat := not_hasRepeat_collapse binding
  refine ⟨not_or.mp hrepeat, collapse_eq_withShortRuns binding, collapse_eq_self hrepeat, ?_, ?_⟩
  · exact ignoresRepeats_eventOf.apply_collapse binding
  · exact ignoresRepeats_normalText.apply_collapse binding

/-- Runs of different signs stay beside each other. -/
example : collapse "super+++--+a".toList = "super+-+a".toList := by
  cbv

end Hotkeys.Config
