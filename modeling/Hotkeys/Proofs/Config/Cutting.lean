import Hotkeys.Proofs.Config.Scanning

/-!
# Cutting a configuration into tokens

What the scanner cuts off are the parts of the configuration, each after its braces were checked
(`pieces_encode`).
-/

set_option autoImplicit false

namespace Hotkeys.Config

open Text (Lines body)
open Text.Utf8 (byteOf encode decodeLossy)

/-! ## Parts and their faults -/

namespace Part

/-- The first brace fault of a part that begins on line `n`.  Braces mean nothing before the first
keybinding. -/
def fault? (n : Nat) (p : Part) : Option BraceError :=
  if p.kind = .keybinding ∨ p.kind = .action then linesFault n p.lines else none

/-- A part that begins on line `n`, as it is cut from the input. -/
def piece (n : Nat) (p : Part) : Piece :=
  { kind := p.kind, bytes := encode p.text, line := n }

end Part

/-- The pieces of parts of which the first begins on line `n`, up to the first fault. -/
def checkedPieces (n : Nat) : List Part → List Piece × Option BraceError
  | [] => ([], none)
  | p :: ps =>
    match p.fault? n with
    | some e => ([], some e)
    | none =>
      let rest := checkedPieces (n + p.newlines) ps
      (p.piece n :: rest.1, rest.2)

theorem checkedPieces_of_none {n : Nat} {p : Part} (h : p.fault? n = none) (ps : List Part) :
    checkedPieces n (p :: ps) =
      (p.piece n :: (checkedPieces (n + p.newlines) ps).1,
        (checkedPieces (n + p.newlines) ps).2) := by
  rw [checkedPieces, h]

theorem checkedPieces_of_some {n : Nat} {p : Part} {e : BraceError} (h : p.fault? n = some e)
    (ps : List Part) : checkedPieces n (p :: ps) = ([], some e) := by
  rw [checkedPieces, h]

/-- The parts of lines below a keybinding line. -/
def actionParts (lines : List Text) : List Part :=
  .action (lines.takeWhile (!isOpener ·)) :: keybindingParts (lines.dropWhile (!isOpener ·))

theorem keybindingParts_nil : keybindingParts [] = [] := by
  rw [keybindingParts]

theorem keybindingParts_cons (opener : Text) (rest : List Text) :
    keybindingParts (opener :: rest) = .keybinding opener :: actionParts rest := by
  rw [keybindingParts, actionParts]

/-! ## Keybinding lines -/

namespace Scanner

theorem fault?_keybinding (n : Nat) (line : Text) :
    (Part.keybinding line).fault? n = (startAt .keybinding n).fault? line := by
  have hlines : linesFault n [line] = (lineFault line).map (faultOn n) := by
    rw [linesFault_cons, linesFault_nil, Option.or_none]
  exact hlines

theorem piece_holding (kind : TokenKind) (n : Nat) (t : Text) :
    ((startAt kind n).holding t).piece = { kind, bytes := encode t, line := n } := by
  have hbytes : ((encode t).reverse ++ []).reverse = encode t := by
    rw [List.append_nil, List.reverse_reverse]
  rw [← hbytes]
  rfl

theorem piece_keybinding (n : Nat) (line : Text) :
    ((startAt .keybinding n).holding line).piece = (Part.keybinding line).piece n := by
  rw [piece_holding, Part.piece, Part.text_keybinding]
  rfl

theorem run_keybindingLine {n : Nat} {t : Text} (ht : '\n' ∉ t) {rest : List Text}
    (hrest : (startAt .action (n + 1)).run (encode rest.flatten) =
      checkedPieces (n + 1) (actionParts rest)) :
    (startAt .keybinding n).run (encode ((t ++ ['\n']) :: rest).flatten) =
      checkedPieces n (keybindingParts ((t ++ ['\n']) :: rest)) := by
  rw [List.flatten_cons, Text.Utf8.encode_append, run_line (atLineStart_startAt _ _) ht rfl,
    ← fault?_keybinding, piece_keybinding, keybindingParts_cons]
  cases hfault : (Part.keybinding (t ++ ['\n'])).fault? n with
  | some e => rw [checkedPieces_of_some hfault]
  | none =>
      have hnewlines : (Part.keybinding (t ++ ['\n'])).newlines = 1 := by
        rw [Part.newlines, Part.text_keybinding, Text.count_newline ht]
      rw [checkedPieces_of_none hfault, hnewlines, ← hrest]
      rfl

theorem run_lastKeybindingLine (n : Nat) {t : Text} (ht : '\n' ∉ t) :
    (startAt .keybinding n).run (encode t) = checkedPieces n (keybindingParts [t]) := by
  rw [run_lastLine (atLineStart_startAt _ _) ht rfl, ← fault?_keybinding, piece_keybinding,
    keybindingParts_cons]
  cases hfault : (Part.keybinding t).fault? n with
  | some e => rw [checkedPieces_of_some hfault]
  | none =>
      have hnewlines : (Part.keybinding t).newlines = 0 := by
        rw [Part.newlines, Part.text_keybinding, List.count_eq_zero.mpr ht]
      rw [checkedPieces_of_none hfault, hnewlines, actionParts, List.takeWhile_nil,
        List.dropWhile_nil, keybindingParts_nil]
      rfl

/-! ## Lines of a token that goes on -/

/-- The fault that the current token has on the lines from the current one on. -/
def linesFault? (s : Scanner) (lines : List Text) : Option BraceError :=
  if s.checksBraces then linesFault s.here.line lines else none

theorem linesFault?_nil (s : Scanner) : s.linesFault? [] = none := by
  rw [linesFault?, linesFault_nil, ite_self]

theorem linesFault?_cons (s : Scanner) (line : Text) (rest : List Text) :
    s.linesFault? (line :: rest) = (s.fault? line).or ((s.past line).linesFault? rest) := by
  have hchecks : (s.past line).checksBraces = s.checksBraces := rfl
  rw [linesFault?, linesFault?, fault?, hchecks, linesFault_cons]
  split <;> rfl

theorem kind_of_collects {s : Scanner} (hcollects : s.collects = true) :
    s.kind = .globals ∨ s.kind = .action := by
  simpa [collects] using hcollects

theorem kindAfterLine_of_collects {s : Scanner} (hcollects : s.collects = true) :
    kindAfterLine s.kind = none := by
  rcases kind_of_collects hcollects with h | h <;> simp only [h, kindAfterLine]

/-- What becomes of the lines from a line start on, inside of a token that goes on until the next
keybinding line. -/
def outcome (s : Scanner) (lines : List Text) : List Piece × Option BraceError :=
  let own := lines.takeWhile (!isOpener ·)
  match s.linesFault? own with
  | some e => ([], some e)
  | none =>
    let more := checkedPieces (s.here.line + own.flatten.count '\n')
      (keybindingParts (lines.dropWhile (!isOpener ·)))
    ((s.holding own.flatten).closed ++ more.1, more.2)

theorem outcome_nil (s : Scanner) : s.outcome [] = (s.closed, none) := by
  rw [outcome, List.takeWhile_nil, List.dropWhile_nil, linesFault?_nil, keybindingParts_nil]
  simp only [checkedPieces, List.append_nil]
  rfl

theorem outcome_opener (s : Scanner) {line : Text} (hopener : isOpener line = true)
    (rest : List Text) :
    s.outcome (line :: rest) =
      (s.closed ++ (checkedPieces s.here.line (keybindingParts (line :: rest))).1,
        (checkedPieces s.here.line (keybindingParts (line :: rest))).2) := by
  simp only [outcome, List.takeWhile_cons, List.dropWhile_cons, hopener, Bool.not_true,
    Bool.false_eq_true, if_false, linesFault?_nil]
  rfl

/-- A line of the current token with its newline. -/
theorem outcome_line (s : Scanner) {t : Text} (ht : '\n' ∉ t)
    (hopener : isOpener (t ++ ['\n']) = false) (rest : List Text) :
    s.outcome ((t ++ ['\n']) :: rest) =
      match s.fault? (t ++ ['\n']) with
      | some e => ([], some e)
      | none => (s.past (t ++ ['\n'])).outcome rest := by
  have hheld : ∀ own : List Text,
      s.holding (t ++ ['\n'] ++ own.flatten) = (s.holding (t ++ ['\n'])).holding own.flatten :=
    fun own => (holding_holding s _ _).symm
  have hline : ∀ own : List Text, s.here.line + (t ++ ['\n'] ++ own.flatten).count '\n' =
      (s.past (t ++ ['\n'])).here.line + own.flatten.count '\n' := by
    intro own
    rw [List.count_append, Text.count_newline ht, ← Nat.add_assoc]
    rfl
  simp only [outcome, List.takeWhile_cons, List.dropWhile_cons, hopener, Bool.not_false, if_true,
    linesFault?_cons, List.flatten_cons, hline, hheld]
  cases s.fault? (t ++ ['\n']) with
  | some e => rfl
  | none =>
      simp only [Option.none_or]
      rfl

/-- A last line of the current token, without a newline. -/
theorem outcome_lastLine (s : Scanner) {t : Text} (hopener : isOpener t = false) :
    s.outcome [t] =
      match s.fault? t with
      | some e => ([], some e)
      | none => ((s.holding t).closed, none) := by
  simp only [outcome, List.takeWhile_cons, List.dropWhile_cons, hopener, Bool.not_false, if_true,
    linesFault?_cons, List.takeWhile_nil, List.dropWhile_nil, linesFault?_nil, Option.or_none,
    keybindingParts_nil, checkedPieces, List.append_nil, List.flatten_singleton]

theorem outcome_action (n : Nat) (lines : List Text) :
    (startAt .action n).outcome lines = checkedPieces n (actionParts lines) := by
  let p := Part.action (lines.takeWhile (!isOpener ·))
  have hclosed : ((startAt .action n).holding p.text).closed = [p.piece n] := by
    rw [closed, if_neg fun h => TokenKind.noConfusion h.1, piece_holding]
    rfl
  have hfault : (startAt .action n).linesFault? (lines.takeWhile (!isOpener ·)) = p.fault? n := rfl
  rw [outcome, actionParts, hfault, checkedPieces]
  cases p.fault? n with
  | some e => rfl
  | none =>
      exact Prod.ext (congrArg (· ++ _) hclosed) rfl

theorem outcome_globals (n : Nat) {lines : List Text} (hlines : Lines lines) :
    (startAt .globals n).outcome lines = checkedPieces n (partsBelow lines) := by
  have hfault : ∀ own, (startAt .globals n).linesFault? own = none := fun _ => rfl
  simp only [outcome, partsBelow, hfault]
  by_cases hown : lines.takeWhile (!isOpener ·) = []
  · rw [hown]
    rfl
  · let p : Part := { kind := .globals, lines := lines.takeWhile (!isOpener ·) }
    have htext : p.text ≠ [] := by
      obtain ⟨line, hline⟩ := List.exists_mem_of_ne_nil _ hown
      have hne := hlines.ne_nil_of_mem (List.takeWhile_sublist _ |>.mem hline)
      exact fun h => hne (List.flatten_eq_nil_iff.mp h line hline)
    have hclosed : ((startAt .globals n).holding p.text).closed = [p.piece n] := by
      have htaken : ((encode p.text).reverse ++ []) ≠ [] := by
        rw [List.append_nil]
        exact fun h => htext (Text.Utf8.encode_eq_nil (List.reverse_eq_nil_iff.mp h))
      rw [closed, if_neg fun h => htaken h.2, piece_holding]
      rfl
    rw [if_neg hown, List.singleton_append, checkedPieces_of_none (p := p) rfl]
    exact Prod.ext (congrArg (· ++ _) hclosed) rfl

/-- The run from a line start on inside of a token that goes on until a keybinding line.  The
induction is on the lines; the scanner holds those before. -/
theorem run_lines {lines : List Text} (hlines : Lines lines) {s : Scanner} (hs : s.AtLineStart)
    (hcollects : s.collects = true) : s.run (encode lines.flatten) = s.outcome lines := by
  induction hlines generalizing s with
  | nil =>
      rw [outcome_nil, List.flatten_nil, Text.Utf8.encode_nil, run, finish, hs.outside]
      rcases kind_of_collects hcollects with h | h <;> rw [h] <;> rfl
  | @last t hne ht =>
      rw [List.flatten_singleton]
      cases hopener : isOpener t with
      | true =>
          have hrun := run_opener hs hcollects hopener []
          rw [List.append_nil, run_lastKeybindingLine _ ht] at hrun
          rw [hrun, outcome_opener s hopener]
      | false =>
          rw [run_lastLine hs ht (by rw [hopener, Bool.and_false]), outcome_lastLine s hopener]
          cases s.fault? t with
          | some e => rfl
          | none => rcases kind_of_collects hcollects with h | h <;> simp only [h]
  | @cons t rest ht hrest ih =>
      rw [List.flatten_cons, Text.Utf8.encode_append]
      cases hopener : isOpener (t ++ ['\n']) with
      | true =>
          have haction := ih (atLineStart_startAt .action (s.here.line + 1)) rfl
          rw [outcome_action] at haction
          have hkeybinding := run_keybindingLine ht haction
          rw [List.flatten_cons, Text.Utf8.encode_append] at hkeybinding
          rw [run_opener hs hcollects hopener, hkeybinding, outcome_opener s hopener]
      | false =>
          have hkind := kindAfterLine_of_collects hcollects
          rw [run_line hs ht (by rw [hopener, Bool.and_false]), outcome_line s ht hopener]
          cases s.fault? (t ++ ['\n']) with
          | some e => rfl
          | none => simp only [hkind, ih (atLineStart_past hs _) hcollects]

end Scanner

/-! ## The whole input -/

theorem isShebang_encode (source : Text) :
    [Byte.hash, Byte.bang].isPrefixOf (encode source) = hasShebang source := by
  have hlead : ∀ a ∈ ['#', '!'], a.toNat ≤ 0x7f := by
    intro a ha
    simp only [List.mem_cons, List.not_mem_nil, or_false] at ha
    rcases ha with rfl | rfl <;> decide
  exact Text.Utf8.isPrefixOf_encode hlead source

theorem partsBelow_nil : partsBelow [] = [] := by
  rw [partsBelow, List.takeWhile_nil, List.dropWhile_nil, keybindingParts_nil]
  rfl

/-- An interpreter line is a part of its own. -/
theorem piece_shebang (line : Text) :
    ((Scanner.startAt .shebang 1).holding line).piece =
      Part.piece 1 { kind := .shebang, lines := [line] } := by
  rw [Scanner.piece_holding, Part.piece, Part.text, List.flatten_singleton]

/-- What is cut off are the parts. -/
theorem pieces_encode (source : Text) :
    pieces (encode source) = checkedPieces 1 (parts source) := by
  have hlines := Text.lines_terminatedLines source
  have hsource := Text.flatten_terminatedLines source
  have hstart : ∀ kind, Scanner.start kind = Scanner.startAt kind 1 := fun _ => rfl
  rw [pieces, isShebang_encode, parts, hstart, hstart]
  generalize Text.terminatedLines source = lines at hlines hsource
  subst hsource
  cases hshebang : hasShebang lines.flatten with
  | false =>
      rw [if_neg Bool.false_ne_true, if_neg Bool.false_ne_true,
        Scanner.run_lines hlines (Scanner.atLineStart_startAt _ _) rfl,
        Scanner.outcome_globals 1 hlines]
  | true =>
      rw [if_pos rfl, if_pos rfl]
      cases hlines with
      | nil => exact absurd hshebang Bool.false_ne_true
      | @last t hne ht =>
          have hparts : partsBelow (List.drop 1 [t]) = [] := partsBelow_nil
          rw [hparts, List.flatten_singleton,
            Scanner.run_lastLine (Scanner.atLineStart_startAt _ _) ht rfl]
          exact Prod.ext (congrArg ([·]) (piece_shebang t)) rfl
      | @cons t rest ht hrest =>
          have hnewlines : Part.newlines { kind := .shebang, lines := [t ++ ['\n']] } = 1 := by
            rw [Part.newlines, Part.text, List.flatten_singleton, Text.count_newline ht]
          have hrun := Scanner.run_lines hrest (Scanner.atLineStart_startAt .globals 2) rfl
          rw [Scanner.outcome_globals 2 hrest] at hrun
          rw [List.flatten_cons, Text.Utf8.encode_append,
            Scanner.run_line (Scanner.atLineStart_startAt _ _) ht rfl]
          have hpieces := checkedPieces_of_none (n := 1)
            (p := { kind := .shebang, lines := [t ++ ['\n']] }) rfl (partsBelow rest)
          rw [hnewlines, ← hrun, ← piece_shebang] at hpieces
          exact hpieces.symm

end Hotkeys.Config
