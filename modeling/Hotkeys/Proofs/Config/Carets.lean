import Hotkeys.Config.Outline
import Hotkeys.Proofs.Config.Tokens
import Hotkeys.Proofs.Text.Slices

/-!
# Carets

What an excerpt shows of a configuration with a brace fault: the line of the brace with its
neighbours and a caret line.  The caret is put by the byte column of the brace, so that it stands
below the brace just when everything before the brace is ASCII.

Main statement: `excerpt_marks_brace`.
-/

set_option autoImplicit false

namespace Hotkeys.Config

open Text.Utf8 (byteOf encode size)

/-! ## The brace to blame -/

/-- The brace that a fault is about. -/
def BraceFault.brace : BraceFault → Char
  | .unclosedGroup | .nestedOpening => '{'
  | .strayClosing => '}'

theorem BraceFault.brace_ascii (fault : BraceFault) : fault.brace.toNat ≤ 0x7f := by
  cases fault <;> decide

theorem BraceFault.brace_ne_newline (fault : BraceFault) : fault.brace ≠ '\n' := by
  cases fault <;> decide

theorem BraceFault.brace_ne_return (fault : BraceFault) : fault.brace ≠ '\r' := by
  cases fault <;> decide

/-- The brace of a fault stands at column `place` of bytes of which the first is at `column`. -/
def BraceStands (fault : BraceFault) (place column : Nat) (bs : List UInt8) : Prop :=
  ∃ before behind, bs = before ++ byteOf fault.brace :: behind ∧ place = column + before.length

theorem BraceStands.cons {fault : BraceFault} {place column : Nat} {bs : List UInt8}
    (h : BraceStands fault place (column + 1) bs) (b : UInt8) :
    BraceStands fault place column (b :: bs) := by
  obtain ⟨before, behind, rfl, rfl⟩ := h
  refine ⟨b :: before, behind, rfl, ?_⟩
  rw [List.length_cons]
  omega

/-- The column of a fault is that of its brace, which stands among the bytes read unless it opened
the group that they begin in.  The induction follows the reading. -/
theorem braceStands_of_firstFault {group : Option Nat} {column : Nat} {bs : List UInt8}
    {fault : BraceFault} {place : Nat} (h : firstFault group column bs = some (fault, place)) :
    (fault = .unclosedGroup ∧ group = some place) ∨ BraceStands fault place column bs := by
  fun_induction firstFault group column bs with
  | case1 column group =>
      obtain ⟨opened, rfl, heq⟩ := Option.map_eq_some_iff.mp h
      rw [Prod.mk.injEq] at heq
      exact .inl ⟨heq.1.symm, congrArg some heq.2⟩
  | case2 group column ih => exact (ih h).imp_right fun hrest => hrest.cons _
  | case3 group column b rest ih => exact (ih h).imp_right fun hrest => (hrest.cons _).cons _
  | case4 column bs hescape ih =>
      rcases ih h with ⟨rfl, heq⟩ | hrest
      · rw [Option.some.injEq] at heq
        exact .inr ⟨[], bs, rfl, heq.symm⟩
      · exact .inr (hrest.cons _)
  | case5 column bs hescape hopening =>
      rw [Option.some.injEq, Prod.mk.injEq] at h
      obtain ⟨rfl, rfl⟩ := h
      exact .inr ⟨[], bs, rfl, rfl⟩
  | case6 column b bs hescape hopening hclosing ih =>
      exact (ih h).imp_right fun hrest => hrest.cons _
  | case7 column bs opened hescape ih =>
      rcases ih h with ⟨_, hnone⟩ | hrest
      · exact absurd hnone (Option.some_ne_none place).symm
      · exact .inr (hrest.cons _)
  | case8 column bs opened hescape hclosing =>
      rw [Option.some.injEq, Prod.mk.injEq] at h
      obtain ⟨rfl, rfl⟩ := h
      exact .inr ⟨[], bs, rfl, rfl⟩
  | case9 column b bs hescape opened hclosing hopening ih =>
      exact (ih h).imp_right fun hrest => hrest.cons _

/-- A line with a fault, cut at the brace. -/
theorem exists_of_lineFault {line : Text} {fault : BraceFault} {column : Nat}
    (h : lineFault line = some (fault, column)) :
    ∃ before after, line = before ++ fault.brace :: after ∧ size before + 1 = column ∧
      '\n' ∉ before := by
  rw [lineFault_eq] at h
  rcases braceStands_of_firstFault h with ⟨_, hnone⟩ | ⟨bytes, behind, hbytes, hcolumn⟩
  · exact absurd hnone (Option.some_ne_none column).symm
  · obtain ⟨before, after, hbody, hbefore, _⟩ :=
      Text.exists_of_encode_eq_append fault.brace_ascii hbytes
    have hline := List.takeWhile_append_dropWhile (p := (· ≠ '\n')) (l := line)
    refine ⟨before, after ++ line.dropWhile (· ≠ '\n'), ?_, ?_, ?_⟩
    · rw [← List.cons_append, ← List.append_assoc, ← hbody]
      exact hline.symm
    · unfold size
      rw [hbefore, hcolumn, Nat.add_comm]
    · intro hmem
      apply Text.not_mem_body line
      rw [hbody]
      exact List.mem_append_left _ hmem

/-- The end of a line is taken off behind what stands on it. -/
theorem chomp_append {c : Char} (hnewline : c ≠ '\n') (hreturn : c ≠ '\r') (before after : Text) :
    Text.chomp (before ++ c :: after) = before ++ c :: Text.chomp after := by
  unfold Text.chomp
  rcases List.eq_nil_or_concat after with rfl | ⟨front, d, rfl⟩
  · simp [hnewline]
  · by_cases hd : d = '\n'
    · subst hd
      rcases List.eq_nil_or_concat front with rfl | ⟨front, e, rfl⟩
      · simp [hreturn]
      · by_cases he : e = '\r'
        · subst he
          simp
        · simp [he]
    · simp [hd]

/-! ## Excerpts -/

/-- Lines with their numbers, of which the first is line `n`. -/
def shownFrom (n : Nat) (lines : List Text) : Text :=
  (lines.zipIdx n).flatMap fun (line, n) => margin n ++ line ++ ['\n']

theorem shownFrom_cons (n : Nat) (line : Text) (rest : List Text) :
    shownFrom n (line :: rest) = margin n ++ line ++ ['\n'] ++ shownFrom (n + 1) rest := by
  unfold shownFrom
  rw [List.zipIdx_cons, List.flatMap_cons]

/-- A line with up to two of the lines above it and one of those below it, and a caret line below
it. -/
def caretExcerpt (above : List Text) (line : Text) (below : List Text) (spaces : Nat) : Text :=
  shownFrom (above.length - 2 + 1) (above.drop (above.length - 2)) ++
    (margin (above.length + 1) ++ line ++ ['\n']) ++
    (List.replicate spaces ' ' ++ "^\n".toList) ++
    shownFrom (above.length + 2) (below.take 1)

/-- Lines of an excerpt none of which is the line of the place. -/
theorem flatMap_excerptLine (place : Position) {lines above shown below : List Text}
    (hlines : lines = above ++ shown ++ below)
    (hplace : place.line ≤ above.length ∨ above.length + shown.length < place.line) :
    (List.range' (above.length + 1) shown.length).flatMap (excerptLine lines place) =
      shownFrom (above.length + 1) shown := by
  induction shown generalizing above with
  | nil => rfl
  | cons line rest ih =>
      have hnumber : above.length + 1 ≠ place.line := by
        rw [List.length_cons] at hplace
        omega
      have hline : lines[above.length + 1 - 1]? = some line := by
        rw [hlines]
        simp
      have hbelow : lines = (above ++ [line]) ++ rest ++ below := by
        rw [hlines]
        simp
      have hrest := ih hbelow (by
        rw [List.length_cons] at hplace
        rw [List.length_append, List.length_singleton]
        omega)
      rw [List.length_append, List.length_singleton] at hrest
      rw [List.length_cons, List.range'_succ, List.flatMap_cons, hrest, shownFrom_cons,
        excerptLine, if_neg hnumber, hline, Option.getD_some]

/-- The numbers in an excerpt around a line with `a` lines above it and `b` below. -/
theorem range'_around (a b : Nat) :
    List.range' (max 1 (a + 1 - 2))
        (min (a + (b + 1)) (a + 1 + 1) + 1 - max 1 (a + 1 - 2)) =
      List.range' (a - 2 + 1) (min a 2) ++ (a + 1) :: List.range' (a + 1 + 1) (min b 1) := by
  have hfirst : max 1 (a + 1 - 2) = a - 2 + 1 := by omega
  have hcount : min (a + (b + 1)) (a + 1 + 1) + 1 - max 1 (a + 1 - 2) =
      min a 2 + (min b 1 + 1) := by omega
  have hnext : a - 2 + 1 + 1 * min a 2 = a + 1 := by omega
  rw [hcount, hfirst, ← List.range'_append, hnext, List.range'_succ]

/-- An excerpt around a place on an existing line. -/
theorem excerpt_eq {source : Text} {place : Position} {above below : List Text} {line : Text}
    (hlines : Text.lines source = above ++ line :: below)
    (hplace : place.line = above.length + 1) :
    excerpt source place =
      caretExcerpt above line below ((margin place.line).length + (place.column - 1)) := by
  have hlinesAbove : Text.lines source =
      above.take (above.length - 2) ++ above.drop (above.length - 2) ++ line :: below := by
    rw [List.take_append_drop, hlines]
  have hlinesBelow : Text.lines source = (above ++ [line]) ++ below.take 1 ++ below.drop 1 := by
    rw [List.append_assoc, List.take_append_drop, hlines, List.append_assoc, List.singleton_append]
  have hskipped : (above.take (above.length - 2)).length = above.length - 2 := by
    rw [List.length_take, Nat.min_eq_left (Nat.sub_le _ 2)]
  have hnear : (above.drop (above.length - 2)).length = min above.length 2 := by
    rw [List.length_drop]
    omega
  have hnext : (below.take 1).length = min below.length 1 := by
    rw [List.length_take, Nat.min_comm]
  -- The lines above and the line below are shown without a caret.
  have hshownAbove := flatMap_excerptLine place hlinesAbove (by omega)
  have hshownBelow := flatMap_excerptLine place hlinesBelow (by
    rw [List.length_append, List.length_singleton]
    omega)
  rw [hskipped, hnear] at hshownAbove
  rw [List.length_append, List.length_singleton, hnext] at hshownBelow
  have hline : (Text.lines source)[above.length + 1 - 1]? = some line := by
    rw [hlines]
    simp
  have hlength : (Text.lines source).length = above.length + (below.length + 1) := by
    rw [hlines, List.length_append, List.length_cons]
  unfold excerpt caretExcerpt
  simp only [hplace, hlength, range'_around, List.flatMap_append, List.flatMap_cons, hshownAbove,
    hshownBelow, excerptLine, hline, Option.getD_some, if_true, List.append_assoc]

/-! ## Main statement -/

/-- A numbered line has as many lines above it as its number tells. -/
theorem exists_of_mem_zipIdx {lines : List Text} {line : Text} {n : Nat}
    (h : (line, n) ∈ lines.zipIdx 1) :
    ∃ above below, lines = above ++ line :: below ∧ n = above.length + 1 := by
  rw [List.mem_zipIdx_iff_le_and_getElem?_sub] at h
  dsimp only at h
  obtain ⟨hone, hget⟩ := h
  obtain ⟨hlt, rfl⟩ := List.getElem?_eq_some_iff.mp hget
  refine ⟨lines.take (n - 1), lines.drop (n - 1 + 1), ?_, ?_⟩
  · rw [List.getElem_cons_drop, List.take_append_drop]
  · rw [List.length_take]
    omega

/-- The fault of a configuration is that of one of its lines. -/
theorem exists_of_firstFault? {source : Text} {e : BraceError} (h : firstFault? source = some e) :
    ∃ above line below, Text.terminatedLines source = above ++ line :: below ∧
      lineFault line = some (e.fault, e.place.column) ∧ e.place.line = above.length + 1 := by
  obtain ⟨⟨line, n⟩, hmem, hfault⟩ := List.exists_of_findSome?_eq_some h
  obtain ⟨fault, hline, rfl⟩ := Option.map_eq_some_iff.mp hfault
  have hnumbered : (line, n) ∈ (Text.terminatedLines source).zipIdx 1 := by
    have hkept := (List.dropWhile_suffix _).mem hmem
    split at hkept
    case isTrue => exact List.mem_of_mem_drop hkept
    case isFalse => exact hkept
  obtain ⟨above, below, hlines, hn⟩ := exists_of_mem_zipIdx hnumbered
  exact ⟨above, line, below, hlines, hline, hn⟩

/-- The fault and the excerpt of a configuration that is rejected for its braces. -/
theorem excerpt_of_outline {source : Text} {e : BraceError} {shown : Text}
    (h : (outline source).1 = .error (Error.ofFault (.braces e shown))) :
    firstFault? source = some e ∧ shown = excerpt source e.place := by
  rw [← error_tokens]
  unfold outline at h
  dsimp only at h
  split at h
  case h_1 error herror =>
    simp only [Except.error.injEq, Error.ofFault, Error.mk.injEq, Fault.braces.injEq,
      true_and] at h
    rw [herror, ← h.1, ← h.2]
    exact ⟨rfl, rfl⟩
  case h_2 =>
    unfold Draft.finish at h
    dsimp only at h
    split at h
    · simp [Error.ofFault] at h
    · split at h <;> simp at h

/-- A brace fault is shown by the line of the brace with up to two of the lines above it, the line
below it, and a caret line.  The caret is behind as many blanks as the margin and the bytes before
the brace make, so it stands below the brace just when all of these bytes are ASCII characters. -/
theorem excerpt_marks_brace {source : Text} {e : BraceError} {shown : Text}
    (h : (outline source).1 = .error (Error.ofFault (.braces e shown))) :
    firstFault? source = some e ∧
      ∃ above before after below blanks,
        Text.lines source = above ++ (before ++ e.fault.brace :: after) :: below ∧
          e.place = ⟨above.length + 1, size before + 1⟩ ∧
          shown = caretExcerpt above (before ++ e.fault.brace :: after) below blanks ∧
          blanks = (margin e.place.line).length + size before ∧
          (blanks = (margin e.place.line ++ before).length ↔ ∀ c ∈ before, c.toNat ≤ 0x7f) := by
  obtain ⟨hfirst, rfl⟩ := excerpt_of_outline h
  refine ⟨hfirst, ?_⟩
  obtain ⟨above, line, below, hlines, hfault, hplace⟩ := exists_of_firstFault? hfirst
  obtain ⟨before, after, rfl, hcolumn, _⟩ := exists_of_lineFault hfault
  have hshown : Text.lines source = above.map Text.chomp ++
      (before ++ e.fault.brace :: Text.chomp after) :: below.map Text.chomp := by
    unfold Text.lines
    rw [hlines, List.map_append, List.map_cons,
      chomp_append e.fault.brace_ne_newline e.fault.brace_ne_return]
  have hnumber : e.place.line = (above.map Text.chomp).length + 1 := by
    rw [List.length_map, hplace]
  refine ⟨above.map Text.chomp, before, Text.chomp after, below.map Text.chomp, _, hshown, ?_, ?_,
    rfl, ?_⟩
  · rw [← hnumber, hcolumn]
  · rw [excerpt_eq hshown hnumber, ← hcolumn, Nat.add_sub_cancel]
  · rw [List.length_append, Nat.add_left_cancel_iff]
    exact Text.Utf8.size_eq_length_iff before

/-- A group that is still open at the end of the last line, which has no end and a character behind
the brace that is not ASCII. -/
theorem excerpt_marks_brace_on_last_line :
    let source := "#!sh\nA=é\r\n# a\n b\n# c \x7bd,é".toList
    let e : BraceError := ⟨.unclosedGroup, ⟨5, 5⟩⟩
    let shown := "    3 | # a\n    4 |  b\n    5 | # c \x7bd,é\n            ^\n".toList
    (outline source).1 = .error (Error.ofFault (.braces e shown)) ∧
      firstFault? source = some e ∧
      ∃ above before after below blanks,
        Text.lines source = above ++ (before ++ '{' :: after) :: below ∧
          e.place = ⟨above.length + 1, size before + 1⟩ ∧
          shown = caretExcerpt above (before ++ '{' :: after) below blanks ∧
          blanks = (margin 5).length + size before ∧
          (blanks = (margin 5 ++ before).length ↔ ∀ c ∈ before, c.toNat ≤ 0x7f) := by
  intro source e shown
  have h : (outline source).1 = .error (Error.ofFault (.braces e shown)) := by decide +kernel
  exact ⟨h, excerpt_marks_brace h⟩

/-- Behind a character of two bytes the caret stands one place too far to the right. -/
theorem not_marked_behind_wide_character :
    let source := "# é\x7ba\necho\n".toList
    let e : BraceError := ⟨.unclosedGroup, ⟨1, 5⟩⟩
    let shown := "    1 | # é\x7ba\n            ^\n    2 | echo\n".toList
    (outline source).1 = .error (Error.ofFault (.braces e shown)) ∧
      shown = caretExcerpt [] ("# é".toList ++ '{' :: "a".toList) ["echo".toList] 12 ∧
      (margin e.place.line ++ "# é".toList).length = 11 := by
  decide +kernel

end Hotkeys.Config
