import Hotkeys.Proofs.Config.Cutting

/-!
# Tokens and the first fault

Main statements: a configuration without a brace fault is cut into its parts, and nothing is lost
(`tokens_eq_parts`); otherwise the first fault in reading order is emitted behind the tokens, in
words and with the place of its brace, and those before the part that holds it are all there
(`tokens_until_first_fault`).
-/

set_option autoImplicit false

namespace Hotkeys.Config

open Text (Lines)
open Text.Utf8 (encode decodeLossy)

/-! ## Lines up to an opener -/

/-- Cutting lines before the first opener loses nothing. -/
theorem flatten_cut (lines : List Text) :
    (lines.takeWhile (!isOpener ·)).flatten ++ (lines.dropWhile (!isOpener ·)).flatten =
      lines.flatten := by
  rw [← List.flatten_append, List.takeWhile_append_dropWhile]

theorem lines_cut {lines : List Text} (hlines : Lines lines) :
    Lines (lines.takeWhile (!isOpener ·) ++ lines.dropWhile (!isOpener ·)) := by
  rwa [List.takeWhile_append_dropWhile]

/-! ## Lines that are checked -/

/-- The lines in which braces are checked, with their numbers: those from the first keybinding line
on, the interpreter line apart. -/
def checkedLines (source : Text) : List (Text × Nat) :=
  let numbered := (Text.terminatedLines source).zipIdx 1
  (if hasShebang source then numbered.drop 1 else numbered).dropWhile fun line => !isOpener line.1

/-- The first brace fault of a configuration in reading order. -/
def firstFault? (source : Text) : Option BraceError :=
  (checkedLines source).findSome? fun (line, n) => (lineFault line).map (faultOn n)

theorem dropWhile_zipIdx (p : Text → Bool) (lines : List Text) (n : Nat) :
    (lines.zipIdx n).dropWhile (fun line => p line.1) =
      (lines.dropWhile p).zipIdx (n + (lines.takeWhile p).length) := by
  induction lines generalizing n with
  | nil => rfl
  | cons line rest ih =>
      rw [List.zipIdx_cons, List.dropWhile_cons, List.dropWhile_cons, List.takeWhile_cons]
      cases hp : p line with
      | false => rfl
      | true =>
          simp only [if_true, ih, List.length_cons]
          congr 1
          omega

/-- The first fault of lines and those below them.  Where there are any below, those above are as
many as their newlines. -/
theorem linesFault_append (n : Nat) (above : List Text) {below : List Text}
    (hlines : Lines (above ++ below)) :
    linesFault n (above ++ below) =
      (linesFault n above).or (linesFault (n + above.flatten.count '\n') below) := by
  rw [linesFault, List.zipIdx_append, List.findSome?_append]
  by_cases hbelow : below = []
  · rw [hbelow]
    rfl
  · rw [hlines.count_flatten hbelow]
    rfl

/-- A fault in lines is that of a line. -/
theorem exists_of_linesFault {n : Nat} {lines : List Text} {e : BraceError}
    (h : linesFault n lines = some e) :
    ∃ above line below, lines = above ++ line :: below ∧
      lineFault line = some (e.fault, e.place.column) ∧ e.place.line = n + above.length := by
  induction lines generalizing n with
  | nil => exact absurd h (Option.some_ne_none e).symm
  | cons line rest ih =>
      rw [linesFault_cons] at h
      cases hline : lineFault line with
      | some fault =>
          rw [hline, Option.map_some, Option.some_or, Option.some.injEq] at h
          subst h
          exact ⟨[], line, rest, rfl, hline, rfl⟩
      | none =>
          rw [hline, Option.map_none, Option.none_or] at h
          obtain ⟨above, faulty, below, rfl, hfault, hplace⟩ := ih h
          refine ⟨line :: above, faulty, below, rfl, hfault, ?_⟩
          rw [hplace, List.length_cons, Nat.add_assoc, Nat.add_comm 1]

/-! ## The fault of parts -/

theorem checkedPieces_fault_cons (n : Nat) (p : Part) (ps : List Part) :
    (checkedPieces n (p :: ps)).2 = (p.fault? n).or (checkedPieces (n + p.newlines) ps).2 := by
  cases hfault : p.fault? n with
  | some e => rw [checkedPieces_of_some hfault, Option.some_or]
  | none => rw [checkedPieces_of_none hfault, Option.none_or]

/-- The fault of the parts is that of their lines.  The induction follows the cutting into openers
and what is below them. -/
theorem checkedPieces_fault_keybindingParts (n : Nat) {lines : List Text} (hlines : Lines lines) :
    (checkedPieces n (keybindingParts lines)).2 = linesFault n lines := by
  fun_induction keybindingParts lines generalizing n with
  | case1 => rfl
  | case2 opener rest ih =>
      -- First the opener is cut off, then what is below it up to the next one.
      have hwhole := linesFault_append n [opener] hlines
      have hrest : Lines rest := Lines.of_append (show Lines ([opener] ++ rest) from hlines)
      have hbelow := linesFault_append (n + [opener].flatten.count '\n') _ (lines_cut hrest)
      rw [List.takeWhile_append_dropWhile] at hbelow
      rw [hbelow] at hwhole
      rw [checkedPieces_fault_cons, checkedPieces_fault_cons, ih _ (lines_cut hrest).of_append]
      exact hwhole.symm

theorem checkedPieces_fault_partsBelow (n : Nat) {lines : List Text} (hlines : Lines lines) :
    (checkedPieces n (partsBelow lines)).2 =
      linesFault (n + (lines.takeWhile (!isOpener ·)).length) (lines.dropWhile (!isOpener ·)) := by
  have hcut := lines_cut hlines
  have hrest := fun m => checkedPieces_fault_keybindingParts m hcut.of_append
  rw [partsBelow]
  by_cases hglobals : lines.takeWhile (!isOpener ·) = []
  · rw [if_pos hglobals, List.nil_append, hrest, hglobals]
    rfl
  · rw [if_neg hglobals, List.singleton_append, checkedPieces_of_none rfl, hrest]
    by_cases hbelow : lines.dropWhile (!isOpener ·) = []
    · rw [hbelow]
      rfl
    · exact congrArg (fun k => linesFault (n + k) _) (hcut.count_flatten hbelow)

/-- The fault that a configuration is rejected for is the first one of its checked lines. -/
theorem error_tokens (source : Text) : (tokens source).error = firstFault? source := by
  have hlines := Text.lines_terminatedLines source
  have herror : (tokens source).error = (checkedPieces 1 (parts source)).2 :=
    congrArg Prod.snd (pieces_encode source)
  rw [herror, parts, firstFault?, checkedLines]
  generalize Text.terminatedLines source = lines at hlines
  cases hasShebang source with
  | false =>
      simp only [Bool.false_eq_true, if_false, dropWhile_zipIdx (!isOpener ·)]
      exact checkedPieces_fault_partsBelow 1 hlines
  | true =>
      simp only [if_true]
      rw [checkedPieces_of_none rfl]
      rcases lines with _ | ⟨line, _ | ⟨next, more⟩⟩
      · rw [List.drop_nil, partsBelow_nil]
        rfl
      · have hbelow : partsBelow (List.drop 1 [line]) = [] := partsBelow_nil
        rw [hbelow]
        rfl
      · have hcut : Lines ([line] ++ next :: more) := hlines
        have hnewlines : Part.newlines { kind := .shebang, lines := [line] } = 1 :=
          hcut.count_flatten (List.cons_ne_nil next more)
        have hbelow : ((line :: next :: more).zipIdx 1).drop 1 = (next :: more).zipIdx 2 := rfl
        rw [hbelow, dropWhile_zipIdx (!isOpener ·), List.take_one, List.head?_cons,
          Option.toList_some, hnewlines]
        exact checkedPieces_fault_partsBelow 2 (hcut.of_append)

/-! ## The tokens of parts -/

theorem token_piece (n : Nat) (p : Part) :
    (p.piece n).token = { kind := p.kind, text := p.text, line := n } := by
  rw [Piece.token, Part.piece, Text.Utf8.decodeLossy_encode]

theorem checkedPieces_cons_token {newlines : Nat} {p : Part}
    (hfault : p.fault? (newlines + 1) = none) (ps : List Part) :
    (checkedPieces (newlines + 1) (p :: ps)).1.map Piece.token =
      { kind := p.kind, text := p.text, line := newlines + 1 } ::
        (checkedPieces (newlines + p.newlines + 1) ps).1.map Piece.token := by
  rw [checkedPieces_of_none hfault, List.map_cons, token_piece, Nat.add_right_comm]

/-- Parts without a fault are all cut off. -/
theorem tokens_of_fault_none (newlines : Nat) {ps : List Part}
    (h : (checkedPieces (newlines + 1) ps).2 = none) :
    (checkedPieces (newlines + 1) ps).1.map Piece.token = tokensBelow newlines ps := by
  induction ps generalizing newlines with
  | nil => rfl
  | cons p ps ih =>
      rw [checkedPieces_fault_cons, Option.or_eq_none_iff, Nat.add_right_comm] at h
      rw [checkedPieces_cons_token h.1, ih _ h.2, tokensBelow]

/-- Of parts with a fault, those before the first one that has a fault are cut off. -/
theorem tokens_of_fault_some (newlines : Nat) {ps : List Part} {e : BraceError}
    (h : (checkedPieces (newlines + 1) ps).2 = some e) :
    ∃ before p after, ps = before ++ p :: after ∧
      (checkedPieces (newlines + 1) ps).1.map Piece.token = tokensBelow newlines before ∧
      p.fault? (newlines + (before.flatMap Part.text).count '\n' + 1) = some e := by
  induction ps generalizing newlines with
  | nil => exact absurd h (Option.some_ne_none e).symm
  | cons p ps ih =>
      cases hfault : p.fault? (newlines + 1) with
      | some first =>
          rw [checkedPieces_of_some hfault] at h ⊢
          rw [← h]
          exact ⟨[], p, ps, rfl, rfl, hfault⟩
      | none =>
          rw [checkedPieces_fault_cons, hfault, Option.none_or, Nat.add_right_comm] at h
          obtain ⟨before, faulty, after, rfl, htokens, hplace⟩ := ih _ h
          refine ⟨p :: before, faulty, after, rfl, ?_, ?_⟩
          · rw [checkedPieces_cons_token hfault, htokens, tokensBelow]
          · rw [List.flatMap_cons, List.count_append, ← Nat.add_assoc]
            exact hplace

/-- Only the lines of keybindings and command bodies have faults. -/
theorem Part.linesFault_of_fault? {n : Nat} {p : Part} {e : BraceError}
    (h : p.fault? n = some e) : linesFault n p.lines = some e := by
  rw [fault?] at h
  split at h
  case isTrue => exact h
  case isFalse => exact absurd h (Option.some_ne_none e).symm

/-- The line of a token is the one its text begins on. -/
theorem line_of_tokensBelow {newlines : Nat} {ps : List Part} {before after : List Token}
    {t : Token} (h : tokensBelow newlines ps = before ++ t :: after) :
    t.line = newlines + (before.flatMap Token.text).count '\n' + 1 := by
  induction before generalizing newlines ps with
  | nil =>
      cases ps with
      | nil => exact absurd h (List.cons_ne_nil t after).symm
      | cons p ps =>
          rw [tokensBelow, List.nil_append, List.cons.injEq] at h
          rw [← h.1]
          rfl
  | cons first before ih =>
      cases ps with
      | nil => exact absurd h (List.cons_ne_nil first _).symm
      | cons p ps =>
          rw [tokensBelow, List.cons_append, List.cons.injEq] at h
          rw [ih h.2, ← h.1, List.flatMap_cons, List.count_append, ← Nat.add_assoc]
          rfl

theorem text_tokensBelow (newlines : Nat) (ps : List Part) :
    (tokensBelow newlines ps).flatMap Token.text = ps.flatMap Part.text := by
  induction ps generalizing newlines with
  | nil => rfl
  | cons p ps ih => rw [tokensBelow, List.flatMap_cons, List.flatMap_cons, ih]

/-! ## Nothing is lost -/

theorem text_keybindingParts (lines : List Text) :
    (keybindingParts lines).flatMap Part.text = lines.flatten := by
  fun_induction keybindingParts lines with
  | case1 => rfl
  | case2 opener rest ih =>
      rw [List.flatMap_cons, List.flatMap_cons, ih, Part.text_keybinding, List.flatten_cons,
        ← flatten_cut rest]
      rfl

theorem text_partsBelow (lines : List Text) :
    (partsBelow lines).flatMap Part.text = lines.flatten := by
  rw [partsBelow, List.flatMap_append, text_keybindingParts, ← flatten_cut lines]
  split
  case isTrue hglobals => rw [hglobals]; rfl
  case isFalse => rw [List.flatMap_singleton]; rfl

/-- The parts are the whole configuration. -/
theorem text_parts (source : Text) : (parts source).flatMap Part.text = source := by
  have hflatten := Text.flatten_terminatedLines source
  rw [parts]
  split
  case isFalse => rw [text_partsBelow, hflatten]
  case isTrue =>
    have hcut := congrArg List.flatten (List.take_append_drop 1 (Text.terminatedLines source))
    rw [List.flatten_append, hflatten] at hcut
    rw [List.flatMap_cons, text_partsBelow]
    exact hcut

/-! ## Main statements -/

/-- A configuration without a brace fault is cut into its parts, line by line.  Nothing of it is
lost, and every token knows the line that it begins on. -/
theorem tokens_eq_parts (source : Text) (h : (tokens source).error = none) :
    (tokens source).tokens = tokensBelow 0 (parts source) ∧
      (tokens source).tokens.flatMap Token.text = source ∧
      ∀ before t after, (tokens source).tokens = before ++ t :: after →
        t.line = (before.flatMap Token.text).count '\n' + 1 := by
  have hfault : (checkedPieces 1 (parts source)).2 = none :=
    (congrArg Prod.snd (pieces_encode source)).symm.trans h
  have htokens : (tokens source).tokens = tokensBelow 0 (parts source) :=
    (congrArg (fun cut => cut.1.map Piece.token) (pieces_encode source)).trans
      (tokens_of_fault_none 0 hfault)
  refine ⟨htokens, ?_, fun before t after hcut => ?_⟩
  · rw [htokens, text_tokensBelow, text_parts]
  · have hline := line_of_tokensBelow (htokens.symm.trans hcut)
    rwa [Nat.zero_add] at hline

/-- An interpreter line, a preamble with a brace and a `##` in it, an escaped brace, an escaped line
end before a keybinding line, and a last line without an end. -/
theorem tokens_of_escapes :
    let source := "#!sh\n## \x7d\n#é \x7ba,\\\x7d\x7d\n go \\\n# b\n#\nrun".toList
    (tokens source).error = none ∧
      (tokens source).tokens = tokensBelow 0
        [⟨.shebang, ["#!sh\n".toList]⟩, ⟨.globals, ["## \x7d\n".toList]⟩,
          .keybinding "#é \x7ba,\\\x7d\x7d\n".toList, .action [" go \\\n".toList],
          .keybinding "# b\n".toList, .action ["#\n".toList, "run".toList]] ∧
      (tokens source).tokens.flatMap Token.text = source ∧
      ∀ before t after, (tokens source).tokens = before ++ t :: after →
        t.line = (before.flatMap Token.text).count '\n' + 1 :=
  ⟨by decide +kernel, by decide +kernel, (tokens_eq_parts _ (by decide +kernel)).2⟩

/-- An emitted fault comes behind the tokens, and nothing comes behind it. -/
theorem Lexed.emitted_of_error {l : Lexed} {done later : List Item} {item : Item}
    (hemitted : l.emitted = done ++ item :: later) (herror : item.kind = .error) :
    ∃ e, l.error = some e ∧ item = e.item ∧ done = l.tokens.map Token.item ∧ later = [] := by
  have hnot : item ∉ l.tokens.map Token.item := by
    intro hmem
    obtain ⟨t, -, rfl⟩ := List.mem_map.mp hmem
    cases herror
  rw [emitted] at hemitted
  cases hfault : l.error with
  | none =>
      rw [hfault, Option.toList_none, List.map_nil, List.append_nil] at hemitted
      exact absurd (hemitted ▸ List.mem_append_right _ List.mem_cons_self) hnot
  | some e =>
      rw [hfault, Option.toList_some, List.map_singleton] at hemitted
      rcases List.eq_nil_or_concat later with rfl | ⟨more, last, rfl⟩
      · obtain ⟨hdone, hitem⟩ := List.append_inj' hemitted rfl
        exact ⟨e, rfl, (List.cons.inj hitem).1.symm, hdone.symm, rfl⟩
      · rw [List.concat_eq_append, ← List.cons_append, ← List.append_assoc] at hemitted
        have htokens := (List.append_inj' hemitted rfl).1
        exact absurd (htokens ▸ List.mem_append_right _ List.mem_cons_self) hnot

theorem Lexed.exists_error_iff {l : Lexed} :
    (∃ item ∈ l.emitted, item.kind = .error) ↔ l.error ≠ none := by
  constructor
  · rintro ⟨item, hitem, herror⟩
    obtain ⟨done, later, hemitted⟩ := List.append_of_mem hitem
    obtain ⟨e, he, -⟩ := emitted_of_error hemitted herror
    rw [he]
    exact Option.some_ne_none e
  · intro hfault
    obtain ⟨e, he⟩ := Option.ne_none_iff_exists'.mp hfault
    refine ⟨e.item, List.mem_append_right _ ?_, rfl⟩
    rw [he]
    exact List.mem_singleton_self _

/-- The part that holds the fault, the line of it that does, and the tokens before it. -/
theorem parts_of_error {source : Text} {e : BraceError} (he : (tokens source).error = some e) :
    ∃ before p after above line below,
      parts source = before ++ p :: after ∧ p.lines = above ++ line :: below ∧
        (tokens source).tokens = tokensBelow 0 before ∧
        lineFault line = some (e.fault, e.place.column) ∧
        e.place.line = (before.flatMap Part.text).count '\n' + above.length + 1 := by
  have hfault : (checkedPieces 1 (parts source)).2 = some e :=
    (congrArg Prod.snd (pieces_encode source)).symm.trans he
  obtain ⟨before, p, after, hparts, htokens, hplace⟩ := tokens_of_fault_some 0 hfault
  obtain ⟨above, line, below, hlines, hline, hnumber⟩ :=
    exists_of_linesFault (Part.linesFault_of_fault? hplace)
  refine ⟨before, p, after, above, line, below, hparts, hlines, ?_, hline, ?_⟩
  · exact (congrArg (fun cut => cut.1.map Piece.token) (pieces_encode source)).trans htokens
  · rw [hnumber, Nat.zero_add, Nat.add_right_comm]

/-- Brace checking reports the first fault in reading order: a fault is emitted just when a line
that is checked has one.  It is then the only one and comes last, behind the tokens of the parts
before the one that holds the first fault.  It says in words what is wrong, and it has the number of
the line of the brace and the byte column of the brace in this line. -/
theorem tokens_until_first_fault (source : Text) :
    let emitted := (tokens source).emitted
    (tokens source).error = firstFault? source ∧
      ((∃ item ∈ emitted, item.kind = .error) ↔
        ∃ line ∈ checkedLines source, lineFault line.1 ≠ none) ∧
      ∀ done item later, emitted = done ++ item :: later → item.kind = .error →
        later = [] ∧ (∀ other ∈ done, other.kind ≠ .error) ∧
        ∃ fault before p after above line below,
          firstFault? source = some { fault, place := ⟨item.line, item.column⟩ } ∧
          parts source = before ++ p :: after ∧ p.lines = above ++ line :: below ∧
          done = (tokensBelow 0 before).map
            (fun t => { kind := .piece t.kind, text := t.text, line := t.line, column := 1 }) ∧
          lineFault line = some (fault, item.column) ∧
          item.line = (before.flatMap Part.text).count '\n' + above.length + 1 ∧
          item.text =
            match fault with
            | .unclosedGroup => "unclosed variant group".toList
            | .nestedOpening => "extra opening meta".toList
            | .strayClosing => "extra closing meta found".toList := by
  intro emitted
  refine ⟨error_tokens source, ?_, fun done item later hemitted herror => ?_⟩
  · rw [Lexed.exists_error_iff, error_tokens, firstFault?, Ne, List.findSome?_eq_none_iff]
    simp only [Option.map_eq_none_iff, not_forall, exists_prop]
  · obtain ⟨e, he, rfl, rfl, rfl⟩ := Lexed.emitted_of_error hemitted herror
    obtain ⟨before, p, after, above, line, below, hparts, hlines, htokens, hline, hnumber⟩ :=
      parts_of_error he
    refine ⟨rfl, ?_, e.fault, before, p, after, above, line, below,
      (error_tokens source).symm.trans he, hparts, hlines, congrArg _ htokens, hline, hnumber, ?_⟩
    · rw [List.forall_mem_map]
      exact fun _ _ => nofun
    · obtain ⟨fault, place⟩ := e
      cases fault <;> rfl

/-- A preamble with a brace that is not checked, a keybinding line whose second group opens inside
the first one, and a command body with a fault that comes too late. -/
theorem tokens_until_first_fault_of_nested :
    let source := "## \x7d\n#a\necho \\\x7d\n# é\x7ba,\x7bb\x7d\necho \x7d\n".toList
    let fault : Item :=
      { kind := .error, text := "extra opening meta".toList, line := 4, column := 8 }
    ∃ before p after above line below,
      parts source = before ++ p :: after ∧ p.lines = above ++ line :: below ∧
        (tokens source).emitted = (tokensBelow 0 before).map Token.item ++ [fault] ∧
        lineFault line = some (.nestedOpening, 8) ∧
        4 = (before.flatMap Part.text).count '\n' + above.length + 1 := by
  intro source fault
  have hlast : (tokens source).emitted = (tokens source).emitted.take 3 ++ [fault] := by
    decide +kernel
  have hfirst : firstFault? source = some { fault := .nestedOpening, place := ⟨4, 8⟩ } := by
    decide +kernel
  obtain ⟨-, -, kind, before, p, after, above, line, below, hkind, hparts, hlines, hdone, hline,
    hnumber, -⟩ := (tokens_until_first_fault source).2.2 _ fault [] hlast rfl
  obtain rfl : .nestedOpening = kind :=
    congrArg BraceError.fault (Option.some.inj (hfirst.symm.trans hkind))
  exact ⟨before, p, after, above, line, below, hparts, hlines,
    hlast.trans (congrArg (· ++ _) hdone), hline, hnumber⟩

end Hotkeys.Config
