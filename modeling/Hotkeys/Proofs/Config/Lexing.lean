import Hotkeys.Proofs.Config.CursorLines
import Hotkeys.Proofs.Config.Tokens

/-!
# Lexing never goes wrong

The cursor goes through every text: all of its slices are in range and between characters, it stays
between the start of the token and the end of the text, all of its loops end, and what it cuts off
are the tokens (`cursor_lexes_tokens`).

Inside of a token the cursor may stand in the midst of a character.  A slice is taken only where a
line begins, where the input ends or where a brace stands; the proof follows the cursor from line
start to line start.
-/

set_option autoImplicit false

namespace Hotkeys.Config

open Text (Lines)
open Text.Utf8 (encode size)

namespace Cursor

variable {source : Text}

/-! ## Between tokens -/

/-- The cursor between two tokens, below some lines. -/
def below (above : List Text) (stage : Option Stage) : Cursor :=
  { start := size above.flatten
    pos := size above.flatten
    line := above.flatten.count '\n' + 1
    stage }

theorem source_eq {above lines : List Text} (hcut : Text.terminatedLines source = above ++ lines) :
    source = above.flatten ++ lines.flatten := by
  rw [← List.flatten_append, ← hcut, Text.flatten_terminatedLines]

theorem lines_of_cut {above lines : List Text}
    (hcut : Text.terminatedLines source = above ++ lines) : Lines (above ++ lines) := by
  rw [← hcut]
  exact Text.lines_terminatedLines source

/-- Bytes of whole lines end with a line. -/
theorem startsLine_encode {above lines : List Text}
    (hcut : Text.terminatedLines source = above ++ lines) (hne : lines ≠ []) :
    StartsLine (encode above.flatten) := by
  rcases List.eq_nil_or_concat above.flatten with hnil | ⟨front, c, hfront⟩
  · rw [hnil]
    exact .inl rfl
  · have hlast := (lines_of_cut hcut).getLast?_flatten hne c
    rw [List.concat_eq_append] at hfront
    rw [hfront, List.getLast?_concat] at hlast
    rw [hfront, hlast rfl, Text.Utf8.encode_append]
    exact .inr ⟨encode front, rfl⟩

/-- Whole lines have a size, if there are any. -/
theorem size_flatten_pos {above own rest : List Text}
    (hcut : Text.terminatedLines source = above ++ (own ++ rest)) :
    0 < size own.flatten ↔ own ≠ [] := by
  cases own with
  | nil => simp
  | cons line own =>
      have hne := (lines_of_cut hcut).of_append.ne_nil_of_mem List.mem_cons_self
      have hline : 0 < size line := List.length_pos_iff.mpr fun h =>
        hne (Text.Utf8.encode_eq_nil h)
      rw [List.flatten_cons, Text.Utf8.size_append]
      exact iff_of_true (Nat.add_pos_left hline _) (List.cons_ne_nil _ _)

theorem size_flatten_pos_of_cut {above lines : List Text}
    (hcut : Text.terminatedLines source = above ++ lines) :
    0 < size lines.flatten ↔ lines ≠ [] := by
  rw [← List.append_nil lines] at hcut
  exact size_flatten_pos hcut

theorem between_of_cut {above lines : List Text}
    (hcut : Text.terminatedLines source = above ++ lines) {c : Cursor}
    (hpos : c.pos = size above.flatten) (hstart : c.start ≤ c.pos) :
    c.Between source (encode above.flatten) (encode lines.flatten) := by
  refine ⟨?_, hpos, hstart⟩
  rw [← Text.Utf8.encode_append, ← source_eq hcut]

/-- Whole lines are cut off as a token. -/
theorem emit?_eq {above own lines : List Text}
    (hcut : Text.terminatedLines source = above ++ (own ++ lines)) {c : Cursor}
    {stage : Option Stage} (hc : c = { (below above stage).on (size own.flatten) with stage })
    (kind : TokenKind) :
    c.emit? source kind =
      some ({ kind, text := own.flatten, line := above.flatten.count '\n' + 1 },
        below (above ++ own) stage) := by
  have hsource := source_eq hcut
  rw [List.flatten_append, ← List.append_assoc] at hsource
  have hslice : Text.slice? source c.start c.pos = some own.flatten := by
    rw [hsource, hc]
    exact Text.slice?_append _ _ _
  unfold emit?
  rw [hslice, hc]
  simp only [Option.bind_eq_bind, Option.bind_some]
  unfold below on
  rw [List.flatten_append, List.count_append, Text.Utf8.size_append, Nat.add_right_comm]
  rfl

/-! ## Faults -/

/-- The place of a fault is turned into its line and column. -/
theorem fail?_eq {above lines : List Text} {line before after : Text} {fault : BraceFault}
    (hcut : Text.terminatedLines source = above ++ line :: lines)
    (hline : line = before ++ fault.brace :: after) (hbefore : '\n' ∉ before) (c : Cursor) :
    c.fail? source (fault, size above.flatten + size before) =
      some (faultOn (above.length + 1) (fault, size before + 1), { c with stage := none }) := by
  have hsource := source_eq hcut
  rw [List.flatten_cons, hline, List.append_assoc, ← List.append_assoc] at hsource
  have hslice : Text.slice? source 0 (size above.flatten + size before) =
      some (above.flatten ++ before) := by
    have happend := Text.slice?_append [] (above.flatten ++ before)
      (fault.brace :: after ++ lines.flatten)
    rwa [List.nil_append, ← hsource, Text.Utf8.size_nil, Nat.zero_add, Text.Utf8.size_append]
      at happend
  have hcount : (above.flatten ++ before).count '\n' = above.length := by
    rw [List.count_append, (lines_of_cut hcut).count_flatten (List.cons_ne_nil _ _),
      List.count_eq_zero.mpr hbefore]
    rfl
  -- The line begins behind the last newline, or with the text.
  have hstart : ((Text.lastPlaceOf? '\n' (above.flatten ++ before)).map (· + 1)).getD 0 =
      size above.flatten := by
    rcases List.eq_nil_or_concat above.flatten with hnil | ⟨front, d, hfront⟩
    · rw [hnil, List.nil_append, Text.lastPlaceOf?_of_not_mem hbefore]
      rfl
    · have hlast := (lines_of_cut hcut).getLast?_flatten (List.cons_ne_nil _ _) d
      rw [List.concat_eq_append] at hfront
      rw [hfront, List.getLast?_concat] at hlast
      rw [hfront, hlast rfl, List.append_assoc, List.singleton_append,
        Text.lastPlaceOf?_append front hbefore, Text.Utf8.size_append]
      rfl
  have hcolumn : minus? (size above.flatten + size before) (size above.flatten) =
      some (size before) := by
    rw [minus?_of_le (Nat.le_add_right _ _), Nat.add_sub_cancel_left]
  unfold fail?
  simp only [hslice, hstart, hcolumn, hcount, Option.bind_eq_bind, Option.bind_some]
  rfl

/-- The faults of lines by their places and by their lines and columns. -/
theorem faultAt?_spec {above own lines : List Text}
    (hcut : Text.terminatedLines source = above ++ (own ++ lines)) :
    match faultAt? (size above.flatten) own with
    | some fault => ∃ e, linesFault (above.length + 1) own = some e ∧
        ∀ c : Cursor, c.fail? source fault = some (e, { c with stage := none })
    | none => linesFault (above.length + 1) own = none := by
  induction own generalizing above with
  | nil => rfl
  | cons line own ih =>
      unfold faultAt?
      rw [linesFault_cons]
      cases hfault : lineFault line with
      | some fault =>
          obtain ⟨before, after, hline, hcolumn, hbefore⟩ := exists_of_lineFault hfault
          refine ⟨_, rfl, fun c => ?_⟩
          have hplace : size above.flatten + fault.2 - 1 = size above.flatten + size before := by
            omega
          simp only [hplace]
          rw [fail?_eq hcut hline hbefore, hcolumn]
      | none =>
          have hbelow : Text.terminatedLines source = (above ++ [line]) ++ (own ++ lines) := by
            rw [hcut, List.append_assoc, List.singleton_append, List.cons_append]
          have hrest := ih hbelow
          rw [List.flatten_append, List.flatten_singleton, Text.Utf8.size_append,
            List.length_append, List.length_singleton] at hrest
          exact hrest

/-! ## The preamble -/

theorem slice?_ahead {above lines : List Text}
    (hcut : Text.terminatedLines source = above ++ lines) :
    Text.slice? source (size above.flatten) (size source) = some lines.flatten := by
  have hslice := Text.slice?_append above.flatten lines.flatten []
  rwa [List.append_nil, ← source_eq hcut, ← Text.Utf8.size_append, ← source_eq hcut] at hslice

theorem skipGlobals?_end {c : Cursor} (hpos : c.pos = size source) :
    c.skipGlobals? source = some c := by
  rw [skipGlobals?, loop?_eq, globalsRound, hpos]
  simp only [Nat.lt_irrefl, false_and, if_false]
  rfl

/-- The cursor goes behind a line. -/
theorem skipLine?_line {above lines : List Text} {line : Text}
    (hcut : Text.terminatedLines source = above ++ line :: lines) {c : Cursor}
    (hpos : c.pos = size above.flatten) (hstart : c.start ≤ c.pos) :
    c.skipLine? source = some (c.on (size line)) := by
  have hbetween := between_of_cut hcut hpos hstart
  rw [List.flatten_cons, Text.Utf8.encode_append] at hbetween
  have hmove := moveTo?_on (encode line) hbetween
  unfold skipLine?
  rw [hpos, slice?_ahead hcut]
  have hlines := (lines_of_cut hcut).of_append
  generalize hall : line :: lines = all at hlines
  cases hlines with
  | nil => exact absurd hall (List.cons_ne_nil _ _)
  | @last t hne ht =>
      obtain ⟨rfl, rfl⟩ := List.cons.inj hall
      have hend : size source = c.pos + (encode line).length := by
        rw [source_eq hcut, Text.Utf8.size_append, hpos, List.flatten_singleton]
        rfl
      rw [List.flatten_singleton]
      simp only [Option.bind_eq_bind, Option.bind_some, Text.placeOf?_of_not_mem ht]
      rw [hend]
      exact hmove
  | @cons t rest ht hrest =>
      obtain ⟨rfl, rfl⟩ := List.cons.inj hall
      have hsize : (encode (t ++ ['\n'])).length = size t + 1 := Text.Utf8.size_append t ['\n']
      have hplace : Text.placeOf? '\n' ((t ++ ['\n']) :: lines).flatten = some (size t) := by
        rw [List.flatten_cons, List.append_assoc, List.singleton_append]
        exact Text.placeOf?_append ht _
      rw [hsize] at hmove
      simp only [Option.bind_eq_bind, Option.bind_some, hplace]
      rw [← hpos, hmove, Text.Utf8.size_append]
      rfl

/-- Whether a line below others opens a keybinding. -/
theorem atKeybinding_below {above lines : List Text} {line : Text}
    (hcut : Text.terminatedLines source = above ++ line :: lines) {c : Cursor}
    (hpos : c.pos = size above.flatten) (hstart : c.start ≤ c.pos) :
    c.atKeybinding source = isOpener line := by
  have hbetween := between_of_cut hcut hpos hstart
  rw [List.flatten_cons, Text.Utf8.encode_append] at hbetween
  have hlines := (lines_of_cut hcut).of_append
  refine atKeybinding_eq hbetween (startsLine_encode hcut (List.cons_ne_nil _ _)) ?_
    (hlines.ne_nil_of_mem List.mem_cons_self)
  rintro rfl
  -- Only a last line has no newline.
  generalize hall : ['#'] :: lines = all at hlines
  cases hlines with
  | nil => exact absurd hall (List.cons_ne_nil _ _)
  | last _ _ =>
      obtain ⟨-, rfl⟩ := List.cons.inj hall
      rfl
  | cons _ _ =>
      have hlone := congrArg List.getLast? (List.cons.inj hall).1
      simp at hlone

/-- The preamble goes up to the first opener.  The induction is on the lines; the cursor is behind
those that it went over. -/
theorem skipGlobals?_lines {above lines : List Text}
    (hcut : Text.terminatedLines source = above ++ lines) {c : Cursor}
    (hpos : c.pos = size above.flatten) (hstart : c.start ≤ c.pos) :
    c.skipGlobals? source = some (c.on (size (lines.takeWhile (!isOpener ·)).flatten)) := by
  induction lines generalizing above c with
  | nil =>
      refine skipGlobals?_end ?_
      rw [hpos, source_eq hcut, Text.Utf8.size_append]
      rfl
  | cons line lines ih =>
      have hat := atKeybinding_below hcut hpos hstart
      have hlt : c.pos < size source := by
        rw [source_eq hcut, Text.Utf8.size_append, hpos, Nat.lt_add_right_iff_pos]
        exact (size_flatten_pos_of_cut hcut).mpr (List.cons_ne_nil _ _)
      rw [List.takeWhile_cons]
      cases hopener : isOpener line with
      | true =>
          rw [skipGlobals?, loop?_eq, globalsRound, hat, hopener]
          simp only [Bool.true_eq_false, and_false, if_false, Bool.not_true, Bool.false_eq_true]
          rfl
      | false =>
          have hbelow : Text.terminatedLines source = (above ++ [line]) ++ lines := by
            rw [hcut, List.append_assoc, List.singleton_append]
          have hnext : (c.on (size line)).pos = size (above ++ [line]).flatten := by
            rw [List.flatten_append, List.flatten_singleton, Text.Utf8.size_append, ← hpos]
            rfl
          have hrest := ih hbelow hnext (Nat.le_trans hstart (Nat.le_add_right _ _))
          rw [skipGlobals?, loop?_eq, globalsRound, hat, hopener, if_pos ⟨hlt, rfl⟩,
            skipLine?_line hcut hpos hstart]
          simp only [Option.bind_eq_bind, Option.bind_some, Bool.not_false, if_true,
            List.flatten_cons, Text.Utf8.size_append, ← on_on]
          exact hrest

/-! ## Items -/

theorem items?_none {c : Cursor} (hstage : c.stage = none) : c.items? source = some [] := by
  have hnext : c.nextItem? source = some none := by
    rw [nextItem?, loop?_eq, stageRound, hstage]
    rfl
  exact collect?_of_none hnext

/-- A stage that tells of something. -/
theorem items?_some {c next : Cursor} {stage : Stage} (hstage : c.stage = some stage)
    {item : Item} (hstep : c.step? source stage = some (some item, next)) :
    c.items? source = (next.items? source).map (item :: ·) := by
  have hnext : c.nextItem? source = some (some (item, next)) := by
    rw [nextItem?, loop?_eq, stageRound, hstage]
    simp only [hstep, Option.bind_eq_bind, Option.bind_some]
    rfl
  exact collect?_of_some hnext

/-- A stage that tells of nothing. -/
theorem items?_skip {c next : Cursor} {stage : Stage} (hstage : c.stage = some stage)
    (hstep : c.step? source stage = some (none, next)) :
    c.items? source = next.items? source := by
  have hnext : c.nextItem? source = next.nextItem? source := by
    rw [nextItem?, loop?_eq, stageRound, hstage]
    simp only [hstep, Option.bind_eq_bind, Option.bind_some]
    rfl
  rw [items?, items?, collect?_eq, hnext, ← collect?_eq]

/-- A stage that comes to a fault. -/
theorem items?_fault {c next last : Cursor} {stage : Stage} {kind : TokenKind} {fault : FaultAt}
    {e : BraceError} (hstage : c.stage = some stage)
    (hstep : c.step? source stage = next.settle? source (some fault) kind)
    (hfail : next.fail? source fault = some (e, last)) (hlast : last.stage = none) :
    c.items? source = some [.error e] := by
  have hsettle : next.settle? source (some fault) kind = some (some (.error e), last) := by
    unfold settle?
    simp only [hfail, Option.bind_eq_bind, Option.bind_some]
    rfl
  rw [items?_some hstage (hstep.trans hsettle), items?_none hlast]
  rfl

/-- A stage that cuts off whole lines as a token. -/
theorem items?_token {above own lines : List Text}
    (hcut : Text.terminatedLines source = above ++ (own ++ lines)) {c next : Cursor}
    {stage : Stage} {after : Option Stage} {kind : TokenKind} (hstage : c.stage = some stage)
    (hstep : c.step? source stage = next.settle? source none kind)
    (hnext : next = { (below above after).on (size own.flatten) with stage := after }) :
    c.items? source =
      ((below (above ++ own) after).items? source).map
        (.ok { kind, text := own.flatten, line := above.flatten.count '\n' + 1 } :: ·) := by
  have hsettle : next.settle? source none kind =
      some (some (.ok { kind, text := own.flatten, line := above.flatten.count '\n' + 1 }),
        below (above ++ own) after) := by
    unfold settle?
    simp only [emit?_eq hcut hnext, Option.bind_eq_bind, Option.bind_some]
    rfl
  exact items?_some hstage (hstep.trans hsettle)

/-! ## Stages -/

theorem linesFault_below {above own lines : List Text}
    (hcut : Text.terminatedLines source = above ++ (own ++ lines)) :
    linesFault (above.flatten.count '\n' + 1) own = linesFault (above.length + 1) own := by
  by_cases hown : own = []
  · rw [hown]
    rfl
  · rw [(lines_of_cut hcut).count_flatten (List.append_ne_nil_of_left_ne_nil hown lines)]

/-- A command body. -/
theorem items?_action {above lines : List Text}
    (hcut : Text.terminatedLines source = above ++ lines) :
    (below above (some .action)).items? source =
      match linesFault (above.flatten.count '\n' + 1) (lines.takeWhile (!isOpener ·)) with
      | some e => some [.error e]
      | none =>
        ((below (above ++ lines.takeWhile (!isOpener ·))
            (stageBehind (lines.dropWhile (!isOpener ·)))).items? source).map
          (.ok { kind := .action, text := (lines.takeWhile (!isOpener ·)).flatten,
                 line := above.flatten.count '\n' + 1 } :: ·) := by
  have hcut' := hcut
  rw [← List.takeWhile_append_dropWhile (p := (!isOpener ·)) (l := lines)] at hcut'
  have hscan := restOfAction?_lines (lines_of_cut hcut).of_append
    (between_of_cut hcut (c := below above (some .action)) rfl (Nat.le_refl _))
    (startsLine_encode hcut)
  have hfaults := faultAt?_spec hcut'
  rw [linesFault_below hcut']
  have hpos : (below above (some .action)).pos = size above.flatten := rfl
  rw [hpos] at hscan
  cases hfault : faultAt? (size above.flatten) (lines.takeWhile (!isOpener ·)) with
  | some fault =>
      rw [hfault] at hscan hfaults
      obtain ⟨c', hscan⟩ := hscan
      obtain ⟨e, he, hfail⟩ := hfaults
      rw [he]
      have hstep : (below above (some .action)).step? source .action =
          c'.settle? source (some fault) .action := by
        simp only [step?, hscan, Option.bind_eq_bind, Option.bind_some]
      exact items?_fault rfl hstep (hfail c') rfl
  | none =>
      rw [hfault] at hscan hfaults
      rw [hfaults]
      have hstage : (below above (some .action)).stage = some .action := rfl
      refine items?_token hcut' hstage ?_ rfl
      simp only [step?, hscan, Option.bind_eq_bind, Option.bind_some]
      rfl

/-- The `#` of a keybinding line is scanned like any other byte. -/
theorem step?_keybinding {above rest : List Text} {opener : Text}
    (hcut : Text.terminatedLines source = above ++ opener :: rest)
    (hopener : isOpener opener = true) :
    (below above (some .keybinding)).step? source .keybinding =
      ((below above (some .keybinding)).rest? source false).bind fun scanned =>
        { scanned.1 with stage := some .action }.settle? source scanned.2 .keybinding := by
  obtain ⟨d, ds, rfl⟩ := exists_of_isOpener hopener
  have hbetween := between_of_cut hcut (c := below above (some .keybinding)) rfl (Nat.le_refl _)
  rw [List.flatten_cons, List.cons_append, Text.Utf8.encode_cons] at hbetween
  have hrest : (below above (some .keybinding)).rest? source false =
      ((below above (some .keybinding)).on 1).restOfKeybinding? source := by
    rw [rest?_cons (b := Byte.hash) hbetween (by decide) (fun h => absurd h (by decide)),
      scan?_of_ne _ (by decide) (by decide) (by decide)]
    rfl
  rw [hrest]
  simp only [step?, next?_cons (b := Byte.hash) hbetween, Option.bind_eq_bind, Option.bind_some]

/-- A keybinding line is scanned to its first fault or to its end. -/
theorem rest?_keybinding {above rest : List Text} {opener : Text}
    (hcut : Text.terminatedLines source = above ++ opener :: rest) :
    match lineFault opener with
    | some (fault, column) =>
      ∃ c', (below above (some .keybinding)).rest? source false =
        some (c', some (fault, size above.flatten + column - 1))
    | none =>
      (below above (some .keybinding)).rest? source false =
        some ((below above (some .keybinding)).on (size opener), none) := by
  have hbetween := between_of_cut hcut (c := below above (some .keybinding)) rfl (Nat.le_refl _)
  have hlines := (lines_of_cut hcut).of_append
  generalize hall : opener :: rest = all at hlines
  cases hlines with
  | nil => exact absurd hall (List.cons_ne_nil _ _)
  | @last t hne ht =>
      obtain ⟨rfl, rfl⟩ := List.cons.inj hall
      rw [List.flatten_singleton] at hbetween
      exact rest?_lastLine false ht hbetween fun h => absurd h (by decide)
  | @cons t rest' ht hrest =>
      obtain ⟨rfl, rfl⟩ := List.cons.inj hall
      rw [List.flatten_cons, Text.Utf8.encode_append] at hbetween
      exact rest?_line false ht hbetween fun h => absurd h (by decide)

/-- A keybinding line. -/
theorem items?_keybinding {above rest : List Text} {opener : Text}
    (hcut : Text.terminatedLines source = above ++ opener :: rest)
    (hopener : isOpener opener = true) :
    (below above (some .keybinding)).items? source =
      match linesFault (above.flatten.count '\n' + 1) [opener] with
      | some e => some [.error e]
      | none =>
        ((below (above ++ [opener]) (some .action)).items? source).map
          (.ok { kind := .keybinding, text := opener,
                 line := above.flatten.count '\n' + 1 } :: ·) := by
  have hcut' : Text.terminatedLines source = above ++ ([opener] ++ rest) := hcut
  have hfaults := faultAt?_spec hcut'
  have hstep := step?_keybinding hcut hopener
  have hscan := rest?_keybinding hcut
  rw [linesFault_below hcut']
  unfold faultAt? at hfaults
  cases hfault : lineFault opener with
  | some fault =>
      rw [hfault] at hscan hfaults
      obtain ⟨c', hscan⟩ := hscan
      obtain ⟨e, he, hfail⟩ := hfaults
      rw [hscan] at hstep
      rw [he]
      dsimp only [Option.bind_some] at hstep
      exact items?_fault rfl hstep (hfail _) rfl
  | none =>
      rw [hfault] at hscan hfaults
      rw [hscan] at hstep
      have hnone : linesFault (above.length + 1) [opener] = none := hfaults
      rw [hnone]
      have hmoved : { (below above (some .keybinding)).on (size opener) with
            stage := some .action } =
          { (below above (some .action)).on (size [opener].flatten) with
            stage := some Stage.action } := by
        rw [List.flatten_singleton]
        rfl
      have htoken := items?_token hcut' rfl hstep hmoved
      rwa [List.flatten_singleton] at htoken

/-- The stage behind whole lines. -/
theorem stage_eq {above lines : List Text} (hcut : Text.terminatedLines source = above ++ lines) :
    (if size above.flatten < size source then some Stage.keybinding else none) =
      stageBehind lines := by
  have hlt : size above.flatten < size source ↔ lines ≠ [] := by
    rw [source_eq hcut, Text.Utf8.size_append, Nat.lt_add_right_iff_pos,
      size_flatten_pos_of_cut hcut]
  unfold stageBehind
  simp only [hlt, ite_not]

/-- The lines before the first keybinding are skipped and then cut off, if there are any. -/
theorem step?_globals {above own rest : List Text}
    (hcut : Text.terminatedLines source = above ++ (own ++ rest))
    (hskip : (below above (some .globals)).skipGlobals? source =
      some ((below above (some .globals)).on (size own.flatten))) :
    (below above (some .globals)).step? source .globals =
      if own = [] then some (none, below above (stageBehind rest))
      else
        ((below above (stageBehind rest)).on (size own.flatten)).settle? source none .globals := by
  have hbelow : Text.terminatedLines source = (above ++ own) ++ rest := by
    rw [hcut, List.append_assoc]
  have hstage := stage_eq hbelow
  rw [List.flatten_append, Text.Utf8.size_append] at hstage
  have hpos : ((below above (some .globals)).on (size own.flatten)).pos =
      size above.flatten + size own.flatten := rfl
  have hmoved : { (below above (some .globals)).on (size own.flatten) with
        stage := if ((below above (some .globals)).on (size own.flatten)).pos < size source
          then some Stage.keybinding else none } =
      (below above (stageBehind rest)).on (size own.flatten) := by
    rw [← hstage]
    rfl
  have hlt : ((below above (some .globals)).on (size own.flatten)).start <
      ((below above (some .globals)).on (size own.flatten)).pos ↔ own ≠ [] := by
    have hstart : ((below above (some .globals)).on (size own.flatten)).start =
        size above.flatten := rfl
    rw [hstart, hpos, Nat.lt_add_right_iff_pos]
    exact size_flatten_pos hcut
  simp only [step?, hskip, Option.bind_eq_bind, Option.bind_some, hlt]
  by_cases hown : own = []
  · rw [if_neg (not_not.mpr hown), if_pos hown]
    subst hown
    exact congrArg (fun c => some (none, c)) hmoved
  · rw [if_pos hown, if_neg hown, hmoved]

/-- The preamble; an empty one is no token. -/
theorem items?_globals {above lines : List Text}
    (hcut : Text.terminatedLines source = above ++ lines) :
    (below above (some .globals)).items? source =
      if lines.takeWhile (!isOpener ·) = [] then
        (below above (stageBehind (lines.dropWhile (!isOpener ·)))).items? source
      else
        ((below (above ++ lines.takeWhile (!isOpener ·))
            (stageBehind (lines.dropWhile (!isOpener ·)))).items? source).map
          (.ok { kind := .globals, text := (lines.takeWhile (!isOpener ·)).flatten,
                 line := above.flatten.count '\n' + 1 } :: ·) := by
  have hcut' := hcut
  rw [← List.takeWhile_append_dropWhile (p := (!isOpener ·)) (l := lines)] at hcut'
  have hskip := skipGlobals?_lines hcut (c := below above (some .globals)) rfl (Nat.le_refl _)
  have hstep := step?_globals hcut' hskip
  split
  case isTrue hown =>
    rw [if_pos hown] at hstep
    exact items?_skip rfl hstep
  case isFalse hown =>
    rw [if_neg hown] at hstep
    exact items?_token hcut' rfl hstep rfl

/-- An interpreter line, if there is one. -/
theorem step?_shebang {line : Text} {rest : List Text}
    (hcut : Text.terminatedLines source = line :: rest) (hshebang : hasShebang source = true) :
    initial.step? source .shebang =
      ((below [] (some .globals)).on (size line)).settle? source none .shebang := by
  have hcut' : Text.terminatedLines source = [] ++ line :: rest := hcut
  have hskip := skipLine?_line hcut' (c := below [] (some .globals)) rfl (Nat.le_refl _)
  have hstart : { initial with stage := some .globals } = below [] (some .globals) := rfl
  have hlead : Text.beginsWith source "#!".toList = true := hshebang
  simp only [step?, hlead, if_true]
  rw [hstart, hskip]
  rfl

theorem items?_shebang {line : Text} {rest : List Text}
    (hcut : Text.terminatedLines source = line :: rest) (hshebang : hasShebang source = true) :
    initial.items? source =
      ((below [line] (some .globals)).items? source).map
        (.ok { kind := .shebang, text := line, line := 1 } :: ·) := by
  have hcut' : Text.terminatedLines source = [] ++ ([line] ++ rest) := hcut
  have hmoved : (below [] (some .globals)).on (size line) =
      { (below [] (some .globals)).on (size [line].flatten) with stage := some .globals } := by
    rw [List.flatten_singleton]
    rfl
  have htoken := items?_token hcut' rfl (step?_shebang hcut hshebang) hmoved
  rwa [List.flatten_singleton] at htoken

theorem items?_noShebang (hshebang : hasShebang source = false) :
    initial.items? source = (below [] (some .globals)).items? source := by
  have hlead : Text.beginsWith source "#!".toList = false := hshebang
  have hstep : initial.step? source .shebang = some (none, below [] (some .globals)) := by
    simp only [step?, hlead, Bool.false_eq_true, if_false]
    rfl
  exact items?_skip rfl hstep

end Cursor

/-! ## Main statement -/

/-- What there is to tell of pieces and of the fault behind them. -/
def itemsOf (cut : List Piece × Option BraceError) : List Cursor.Item :=
  cut.1.map (fun p => .ok p.token) ++ cut.2.toList.map .error

theorem itemsOf_checkedPieces (n : Nat) (p : Part) (ps : List Part) :
    itemsOf (checkedPieces n (p :: ps)) =
      match p.fault? n with
      | some e => [.error e]
      | none =>
        .ok { kind := p.kind, text := p.text, line := n } ::
          itemsOf (checkedPieces (n + p.newlines) ps) := by
  cases hfault : p.fault? n with
  | some e =>
      rw [checkedPieces_of_some hfault]
      rfl
  | none =>
      rw [checkedPieces_of_none hfault, ← token_piece]
      rfl

namespace Cursor

variable {source : Text}

/-- From a keybinding line on, the cursor tells of the parts. -/
theorem items?_keybindingParts {above lines : List Text}
    (hcut : Text.terminatedLines source = above ++ lines)
    (hopener : ∀ line ∈ lines.head?, isOpener line = true) :
    (below above (stageBehind lines)).items? source =
      some (itemsOf (checkedPieces (above.flatten.count '\n' + 1) (keybindingParts lines))) := by
  fun_induction keybindingParts lines generalizing above with
  | case1 => exact items?_none rfl
  | case2 opener rest ih =>
      have hbelow : Text.terminatedLines source = (above ++ [opener]) ++ rest := by
        rw [hcut, List.append_assoc, List.singleton_append]
      have hrest : Text.terminatedLines source =
          (above ++ [opener]) ++ rest.takeWhile (!isOpener ·) ++ rest.dropWhile (!isOpener ·) := by
        rw [hbelow, List.append_assoc _ (rest.takeWhile _), List.takeWhile_append_dropWhile]
      have hmore := ih hrest (isOpener_dropWhile rest)
      have hstage : stageBehind (opener :: rest) = some .keybinding := rfl
      rw [hstage, items?_keybinding hcut (hopener opener rfl), items?_action hbelow, hmore,
        itemsOf_checkedPieces, itemsOf_checkedPieces]
      have hopened : (Part.keybinding opener).fault? (above.flatten.count '\n' + 1) =
          linesFault (above.flatten.count '\n' + 1) [opener] := rfl
      have hbody : ∀ n, (Part.action (rest.takeWhile (!isOpener ·))).fault? n =
          linesFault n (rest.takeWhile (!isOpener ·)) := fun _ => rfl
      have hline : above.flatten.count '\n' + 1 + (Part.keybinding opener).newlines =
          (above ++ [opener]).flatten.count '\n' + 1 := by
        rw [Part.newlines, Part.text_keybinding, List.flatten_append, List.count_append,
          List.flatten_singleton]
        omega
      have hnext : (above ++ [opener]).flatten.count '\n' + 1 +
            (Part.action (rest.takeWhile (!isOpener ·))).newlines =
          (above ++ [opener] ++ rest.takeWhile (!isOpener ·)).flatten.count '\n' + 1 := by
        have hcount : (above ++ [opener] ++ rest.takeWhile (!isOpener ·)).flatten.count '\n' =
            (above ++ [opener]).flatten.count '\n' +
              (rest.takeWhile (!isOpener ·)).flatten.count '\n' := by
          rw [List.flatten_append, List.count_append]
        rw [hcount]
        exact Nat.add_right_comm _ 1 _
      rw [hopened, hline, hbody, hnext, Part.text_keybinding]
      cases linesFault (above.flatten.count '\n' + 1) [opener] with
      | some e => rfl
      | none =>
          cases linesFault ((above ++ [opener]).flatten.count '\n' + 1)
            (rest.takeWhile (!isOpener ·)) with
          | some e => rfl
          | none => rfl

/-- Behind an interpreter line the cursor tells of the parts. -/
theorem items?_partsBelow {above lines : List Text}
    (hcut : Text.terminatedLines source = above ++ lines) :
    (below above (some .globals)).items? source =
      some (itemsOf (checkedPieces (above.flatten.count '\n' + 1) (partsBelow lines))) := by
  have hcut' : Text.terminatedLines source =
      (above ++ lines.takeWhile (!isOpener ·)) ++ lines.dropWhile (!isOpener ·) := by
    rw [List.append_assoc, List.takeWhile_append_dropWhile, hcut]
  have hmore := items?_keybindingParts hcut' (isOpener_dropWhile lines)
  rw [items?_globals hcut, partsBelow]
  split
  case isTrue hown =>
    rw [hown, List.append_nil] at hmore
    rw [hmore, List.nil_append]
  case isFalse hown =>
    have hfault : ∀ n, Part.fault? n ⟨.globals, lines.takeWhile (!isOpener ·)⟩ = none :=
      fun _ => rfl
    rw [hmore, List.singleton_append, itemsOf_checkedPieces, hfault, List.flatten_append,
      List.count_append, Nat.add_right_comm]
    rfl

end Cursor

/-- The cursor cuts every configuration into its tokens and comes to its fault, if there is one.
That there is a value at all says that nothing goes wrong on the way: no slice is out of range or
cuts a character, the cursor is never before the start of the token or behind the end of the text,
no subtraction goes below zero, and every loop ends. -/
theorem cursor_lexes_tokens (source : Text) :
    lex? source =
      some ((tokens source).tokens.map .ok ++ (tokens source).error.toList.map .error) := by
  have hitems : itemsOf (checkedPieces 1 (parts source)) =
      (tokens source).tokens.map .ok ++ (tokens source).error.toList.map .error := by
    rw [← pieces_encode, itemsOf, tokens, List.map_map]
    rfl
  rw [← hitems, parts]
  cases hshebang : hasShebang source with
  | false =>
      simp only [Bool.false_eq_true, if_false]
      rw [lex?, Cursor.items?_noShebang hshebang]
      exact Cursor.items?_partsBelow (List.nil_append _).symm
  | true =>
      obtain ⟨line, rest, hcut⟩ : ∃ line rest, Text.terminatedLines source = line :: rest := by
        apply List.exists_cons_of_ne_nil
        intro hnil
        rw [← Text.flatten_terminatedLines source, hnil] at hshebang
        exact absurd hshebang (by decide)
      have hfault : ∀ n, Part.fault? n ⟨.shebang, [line]⟩ = none := fun _ => rfl
      have hbelow : Text.terminatedLines source = [line] ++ rest := hcut
      have hmore := Cursor.items?_partsBelow hbelow
      simp only [hcut, if_true, List.take_succ_cons, List.take_zero, List.drop_succ_cons,
        List.drop_zero]
      rw [lex?, Cursor.items?_shebang hcut hshebang, hmore, itemsOf_checkedPieces, hfault,
        Nat.add_comm]
      simp only [Part.text, Part.newlines, List.flatten_singleton]
      rfl

end Hotkeys.Config
