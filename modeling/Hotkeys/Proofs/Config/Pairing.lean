import Hotkeys.Proofs.Config.Sections
import Hotkeys.Proofs.Config.Tokens
import Mathlib.Data.List.Forall2

/-!
# Pairs and sections

The outline of a configuration is collected token by token.  It comes to one pair for each section
that carries something, and to a preamble of the lines above the sections (`settled_foldl_none`).
Read back from the outline, the lines that carry something are those of the configuration
(`carriedTokens_tokens`); the main statement is `outline_eq_sections`.
-/

set_option autoImplicit false

namespace Hotkeys.Config

/-! ## Commands -/

theorem join_ne_nil {s first : Text} (hfirst : first ≠ []) (rest : List Text) :
    Text.join s (first :: rest) ≠ [] := by
  cases rest with
  | nil => rwa [Text.join_singleton]
  | cons next more =>
      rw [Text.join_cons_cons, List.append_assoc]
      exact List.append_ne_nil_of_left_ne_nil hfirst _

/-- Lines that carry something have a span, and its text is not empty. -/
theorem join_trimLines_ne_nil {lines : List Text} (h : lines.all isFiller = false) :
    trimLines lines ≠ [] ∧ Text.join ['\n'] (trimLines lines) ≠ [] := by
  have hspan := isSpan_trimLines lines
  cases htrim : trimLines lines with
  | nil =>
      rw [htrim] at hspan
      have hcarrying := hspan.carrying_eq
      obtain ⟨line, hline, hfiller⟩ := List.all_eq_false.mp h
      have hmem : line ∈ carrying lines := List.mem_filter.mpr ⟨hline, by simpa using hfiller⟩
      rw [← hcarrying] at hmem
      exact absurd hmem List.not_mem_nil
  | cons first rest =>
      refine ⟨List.cons_ne_nil first rest, join_ne_nil ?_ rest⟩
      have hfirst := hspan.first first (by rw [htrim]; rfl)
      rintro rfl
      exact absurd hfirst (by decide)

/-- An open keybinding makes a pair if its body carries something. -/
theorem OpenPair.pair?_eq (p : OpenPair) :
    p.pair? =
      if (Text.lines p.body).all isFiller then none
      else some ⟨p.binding, Text.join ['\n'] (trimLines (Text.lines p.body)), p.line⟩ := by
  rw [pair?, commandOf]
  cases hfiller : (Text.lines p.body).all isFiller with
  | true => rfl
  | false =>
      have hne := (join_trimLines_ne_nil hfiller).2
      simp only [Bool.false_eq_true, if_false, if_neg hne]

namespace Section

/-- The pair of a section, unless it carries nothing. -/
def pair? (s : Section) : Option Pair :=
  OpenPair.pair? ⟨bindingOf s.opener.text, s.opener.line, actionText s.body⟩

/-- The pair of a section that carries something. -/
def pair (s : Section) : Pair :=
  ⟨bindingOf s.opener.text, Text.join ['\n'] (trimLines s.lines), s.opener.line⟩

theorem pair?_eq (s : Section) : s.pair? = if s.carries then some s.pair else none := by
  rw [pair?, OpenPair.pair?_eq, carries, ← List.not_all_eq_any_not]
  cases hfiller : s.lines.all isFiller with
  | true =>
      rw [lines] at hfiller
      rw [hfiller]
      rfl
  | false =>
      rw [lines] at hfiller
      rw [hfiller]
      rfl

theorem filterMap_pair? (ss : List Section) :
    ss.filterMap pair? = (ss.filter carries).map pair := by
  induction ss with
  | nil => rfl
  | cons s ss ih =>
      rw [List.filterMap_cons, pair?_eq]
      cases hcarries : s.carries with
      | true => rw [List.filter_cons_of_pos hcarries, List.map_cons, ← ih]; rfl
      | false => rw [List.filter_cons_of_neg (Bool.eq_false_iff.mp hcarries), ← ih]; rfl

theorem makes_pair (s : Section) : s.Makes s.pair where
  binding := rfl
  line := rfl
  command := ⟨trimLines s.lines, isSpan_trimLines s.lines, rfl⟩

end Section

/-! ## Drafts -/

namespace Draft

/-- The pairs of a draft, that of the open keybinding included. -/
def settled (d : Draft) : List Pair :=
  d.outline.pairs ++ (d.pending.bind OpenPair.pair?).toList

theorem finish_eq (d : Draft) :
    d.finish.1 =
      if d.settled = [] then .error (Error.ofFault .empty)
      else .ok { d.outline with pairs := d.settled } := by
  rw [finish]
  change (if d.settled = [] then _ else _ : Except Error Outline × Log).1 = _
  by_cases hnone : d.settled = []
  · rw [if_pos hnone, if_pos hnone]
  · rw [if_neg hnone, if_neg hnone]
    split <;> rfl

/-- Opening a keybinding settles the one before it. -/
theorem openPair_spec (d : Draft) (binding : Text) (line : Nat) :
    (d.openPair binding line).outline.pairs = d.settled ∧
      (d.openPair binding line).outline.globals = d.outline.globals ∧
      (d.openPair binding line).pending = some ⟨binding, line, []⟩ := by
  cases hpending : d.pending with
  | none => simp [openPair, settled, hpending]
  | some last => cases hpair : last.pair? <;> simp [openPair, settled, hpending, hpair]

theorem add_of_opensSection {t : Token} (h : t.opensSection = true) (d : Draft) :
    d.add t = d.openPair (bindingOf t.text) t.line := by
  rw [Token.opensSection, Bool.and_eq_true, beq_iff_eq] at h
  simp only [add, h.1, h.2, if_true]

/-- A token that opens no section and holds no preamble goes to the open keybinding. -/
theorem add_of_pending {d : Draft} {p : OpenPair} (hpending : d.pending = some p) {t : Token}
    (h : t.opensSection = false) (hkind : t.kind ≠ .globals) :
    (d.add t).outline.pairs = d.outline.pairs ∧ (d.add t).outline.globals = d.outline.globals ∧
      (d.add t).pending = some { p with body := p.body ++ actionText [t] } := by
  rw [Token.opensSection] at h
  cases htoken : t.kind with
  | globals => exact absurd htoken hkind
  | shebang => simp [add, actionText, htoken, hpending]
  | action => simp [add, actionText, htoken, hpending]
  | keybinding =>
      rw [htoken, beq_self_eq_true, Bool.true_and] at h
      simp [add, actionText, htoken, hpending, h]

/-- Before the first section such a token goes to the preamble, if it holds preamble or command
text. -/
theorem add_of_no_pending {d : Draft} (hpending : d.pending = none) {t : Token}
    (h : t.opensSection = false) :
    (d.add t).outline.pairs = d.outline.pairs ∧ (d.add t).pending = none ∧
      (d.add t).outline.globals =
        d.outline.globals ++
          (if t.kind == .globals || t.kind == .action then preamble t.text else []) := by
  rw [Token.opensSection] at h
  cases htoken : t.kind with
  | globals => simp [add, addGlobals, htoken, hpending]
  | shebang => simp [add, htoken, hpending]
  | action => simp [add, addGlobals, htoken, hpending]
  | keybinding =>
      rw [htoken, beq_self_eq_true, Bool.true_and] at h
      simp [add, htoken, hpending, h]

end Draft

/-! ## Tokens below the first keybinding line -/

/-- Tokens as they stand below the preamble: none of them holds preamble, and command text ends with
its line unless it is the last. -/
def AreBelow : List Token → Prop
  | [] => True
  | t :: ts =>
    t.kind ≠ .globals ∧
      (t.kind = .action → ts ≠ [] → ∀ c ∈ t.text.getLast?, c = '\n') ∧ AreBelow ts

theorem actionText_cons (t : Token) (ts : List Token) :
    actionText (t :: ts) = actionText [t] ++ actionText ts := by
  rw [actionText, ← List.singleton_append, List.filter_append, List.flatMap_append]
  rfl

theorem takeWhile_cons_of_not {t : Token} (h : t.opensSection = false) (ts : List Token) :
    (t :: ts).takeWhile (!·.opensSection) = t :: ts.takeWhile (!·.opensSection) :=
  List.takeWhile_cons_of_pos (by rw [h]; rfl)

theorem takeWhile_cons_of_opens {t : Token} (h : t.opensSection = true) (ts : List Token) :
    (t :: ts).takeWhile (!·.opensSection) = [] :=
  List.takeWhile_cons_of_neg (by rw [h]; exact Bool.false_ne_true)

theorem sections_cons_of_opens {t : Token} (h : t.opensSection = true) (ts : List Token) :
    sections (t :: ts) = ⟨t, ts.takeWhile (!·.opensSection)⟩ :: sections ts := by
  rw [sections, if_pos h]

theorem sections_cons_of_not {t : Token} (h : t.opensSection = false) (ts : List Token) :
    sections (t :: ts) = sections ts := by
  rw [sections, if_neg (Bool.eq_false_iff.mp h)]

theorem actionText_nil : actionText [] = [] := rfl

theorem filterMap_cons {α β : Type} (f : α → Option β) (a : α) (as : List α) :
    (a :: as).filterMap f = (f a).toList ++ as.filterMap f := by
  rw [List.filterMap_cons]
  cases f a <;> rfl

/-! ## From tokens to an outline -/

/-- With a keybinding open, the tokens make its pair and those of their sections.  The induction
takes the tokens one by one; the body of the open keybinding grows with them. -/
theorem settled_foldl_some {d : Draft} {p : OpenPair} (hpending : d.pending = some p)
    {ts : List Token} (hts : AreBelow ts) :
    (ts.foldl Draft.add d).settled =
        d.outline.pairs ++
          (OpenPair.pair?
            { p with body := p.body ++ actionText (ts.takeWhile (!·.opensSection)) }).toList ++
          (sections ts).filterMap Section.pair? ∧
      (ts.foldl Draft.add d).outline.globals = d.outline.globals := by
  induction ts generalizing d p with
  | nil =>
      refine ⟨?_, rfl⟩
      rw [List.foldl_nil, Draft.settled, hpending]
      simp [actionText, sections]
  | cons t ts ih =>
      obtain ⟨hkind, -, hrest⟩ := hts
      rw [List.foldl_cons]
      cases hopens : t.opensSection with
      | true =>
          obtain ⟨hpairs, hglobals, hnext⟩ := d.openPair_spec (bindingOf t.text) t.line
          rw [← Draft.add_of_opensSection hopens] at hpairs hglobals hnext
          obtain ⟨hsettled, hpreamble⟩ := ih hnext hrest
          refine ⟨?_, hpreamble.trans hglobals⟩
          rw [hsettled, hpairs, takeWhile_cons_of_opens hopens, sections_cons_of_opens hopens,
            filterMap_cons, Draft.settled, hpending, actionText_nil, List.append_nil,
            List.append_assoc, List.append_assoc, List.append_assoc]
          rfl
      | false =>
          obtain ⟨hpairs, hglobals, hnext⟩ := Draft.add_of_pending hpending hopens hkind
          obtain ⟨hsettled, hpreamble⟩ := ih hnext hrest
          refine ⟨?_, hpreamble.trans hglobals⟩
          rw [hsettled, hpairs, takeWhile_cons_of_not hopens, sections_cons_of_not hopens,
            actionText_cons t (ts.takeWhile _), List.append_assoc p.body]

/-- The lines of a token that count for the preamble. -/
def preambleLines (t : Token) : List Text :=
  if t.kind == .globals || t.kind == .action then Text.lines t.text else []

theorem linesAbove_cons_of_opens {t : Token} (h : t.opensSection = true) (ts : List Token) :
    linesAbove (t :: ts) = [] := by
  rw [linesAbove, takeWhile_cons_of_opens h]
  rfl

theorem linesAbove_cons_of_not {t : Token} (h : t.opensSection = false) (ts : List Token) :
    linesAbove (t :: ts) = carrying (preambleLines t) ++ linesAbove ts := by
  rw [linesAbove, takeWhile_cons_of_not h, List.filter_cons, preambleLines]
  split
  case isTrue => rw [List.flatMap_cons, carrying_append, linesAbove]
  case isFalse => rfl

theorem dropWhile_cons_of_not {t : Token} (h : t.opensSection = false) (ts : List Token) :
    (t :: ts).dropWhile (!·.opensSection) = ts.dropWhile (!·.opensSection) :=
  List.dropWhile_cons_of_pos (by rw [h]; rfl)

theorem dropWhile_cons_of_opens {t : Token} (h : t.opensSection = true) (ts : List Token) :
    (t :: ts).dropWhile (!·.opensSection) = t :: ts :=
  List.dropWhile_cons_of_neg (by rw [h]; exact Bool.false_ne_true)

/-- With no keybinding open yet, the tokens make the preamble up to the first section, and the pairs
of the sections. -/
theorem settled_foldl_none {d : Draft} (hpending : d.pending = none) {ts : List Token}
    (hts : AreBelow (ts.dropWhile (!·.opensSection))) :
    (ts.foldl Draft.add d).settled =
        d.outline.pairs ++ (sections ts).filterMap Section.pair? ∧
      (ts.foldl Draft.add d).outline.globals =
        d.outline.globals ++ (linesAbove ts).flatMap fun line => line ++ ['\n'] := by
  induction ts generalizing d with
  | nil =>
      rw [List.foldl_nil, Draft.settled, hpending]
      exact ⟨rfl, (List.append_nil _).symm⟩
  | cons t ts ih =>
      rw [List.foldl_cons]
      cases hopens : t.opensSection with
      | true =>
          rw [dropWhile_cons_of_opens hopens] at hts
          obtain ⟨hpairs, hglobals, hnext⟩ := d.openPair_spec (bindingOf t.text) t.line
          rw [← Draft.add_of_opensSection hopens] at hpairs hglobals hnext
          obtain ⟨hsettled, hpreamble⟩ := settled_foldl_some hnext hts.2.2
          rw [hsettled, hpreamble, hpairs, hglobals, sections_cons_of_opens hopens, filterMap_cons,
            linesAbove_cons_of_opens hopens, Draft.settled, hpending]
          exact ⟨by simp [Section.pair?], (List.append_nil _).symm⟩
      | false =>
          rw [dropWhile_cons_of_not hopens] at hts
          obtain ⟨hpairs, hnext, hglobals⟩ := Draft.add_of_no_pending hpending hopens
          obtain ⟨hsettled, hpreamble⟩ := ih hnext hts
          rw [hsettled, hpreamble, hpairs, hglobals, sections_cons_of_not hopens,
            linesAbove_cons_of_not hopens, List.flatMap_append, List.append_assoc]
          refine ⟨rfl, congrArg (d.outline.globals ++ ·) (congrArg (· ++ _) ?_)⟩
          rw [preambleLines]
          split
          case isTrue => rfl
          case isFalse => rfl

/-! ## Lines of tokens -/

/-- The lines of tokens that carry something, each with the line of the nearest section opener above
it. -/
def carriedTokens (nearest : Option Nat) : List Token → List (Option Nat × Text)
  | [] => []
  | t :: ts =>
    if t.opensSection then carriedTokens (some t.line) ts
    else (carrying (preambleLines t)).map (nearest, ·) ++ carriedTokens nearest ts

theorem carriedTokens_cons_of_opens {t : Token} (h : t.opensSection = true) (nearest : Option Nat)
    (ts : List Token) : carriedTokens nearest (t :: ts) = carriedTokens (some t.line) ts := by
  rw [carriedTokens, if_pos h]

theorem carriedTokens_cons_of_not {t : Token} (h : t.opensSection = false) (nearest : Option Nat)
    (ts : List Token) : carriedTokens nearest (t :: ts) =
      (carrying (preambleLines t)).map (nearest, ·) ++ carriedTokens nearest ts := by
  rw [carriedTokens, if_neg (Bool.eq_false_iff.mp h)]

/-- The lines of a section that carry something, with the line of its opener. -/
def Section.carriedLines (s : Section) : List (Option Nat × Text) :=
  (carrying s.lines).map (some s.opener.line, ·)

/-- Command text that ends with its line is cut into lines by itself. -/
theorem lines_actionText_cons {t : Token} {ts : List Token} (hts : AreBelow (t :: ts)) :
    Text.lines (actionText (t :: ts.takeWhile (!·.opensSection))) =
      preambleLines t ++ Text.lines (actionText (ts.takeWhile (!·.opensSection))) := by
  obtain ⟨hkind, hend, -⟩ := hts
  rw [actionText_cons, preambleLines]
  cases htoken : t.kind with
  | globals => exact absurd htoken hkind
  | shebang => simp [actionText, htoken]
  | keybinding => simp [actionText, htoken]
  | action =>
      have htext : actionText [t] = t.text := by simp [actionText, htoken]
      rw [htext]
      by_cases hlast : ts = []
      · rw [hlast]
        exact (congrArg Text.lines (List.append_nil _)).trans (List.append_nil _).symm
      · exact Text.lines_append (hend htoken hlast) _

theorem carriedTokens_below (nearest : Option Nat) {ts : List Token} (hts : AreBelow ts) :
    carriedTokens nearest ts =
      (carrying (Text.lines (actionText (ts.takeWhile (!·.opensSection))))).map (nearest, ·) ++
        (sections ts).flatMap Section.carriedLines := by
  induction ts generalizing nearest with
  | nil => rfl
  | cons t ts ih =>
      cases hopens : t.opensSection with
      | true =>
          rw [carriedTokens_cons_of_opens hopens, takeWhile_cons_of_opens hopens,
            sections_cons_of_opens hopens, List.flatMap_cons, ih _ hts.2.2]
          rfl
      | false =>
          rw [carriedTokens_cons_of_not hopens, takeWhile_cons_of_not hopens,
            sections_cons_of_not hopens, lines_actionText_cons hts, carrying_append,
            List.map_append, List.append_assoc, ih _ hts.2.2]

/-- The lines of tokens that carry something are those above the first section and those of the
sections. -/
theorem carriedTokens_eq_sections {ts : List Token}
    (hts : AreBelow (ts.dropWhile (!·.opensSection))) :
    carriedTokens none ts =
      (linesAbove ts).map (none, ·) ++ (sections ts).flatMap Section.carriedLines := by
  induction ts with
  | nil => rfl
  | cons t ts ih =>
      cases hopens : t.opensSection with
      | true =>
          rw [dropWhile_cons_of_opens hopens] at hts
          rw [carriedTokens_cons_of_opens hopens, carriedTokens_below _ hts.2.2,
            linesAbove_cons_of_opens hopens, sections_cons_of_opens hopens, List.flatMap_cons]
          rfl
      | false =>
          rw [dropWhile_cons_of_not hopens] at hts
          rw [carriedTokens_cons_of_not hopens, linesAbove_cons_of_not hopens,
            sections_cons_of_not hopens, List.map_append, List.append_assoc, ih hts]

/-! ## Tokens of parts -/

theorem areBelow_dropWhile {ts : List Token} (h : AreBelow ts) :
    AreBelow (ts.dropWhile (!·.opensSection)) := by
  induction ts with
  | nil => exact h
  | cons t ts ih =>
      cases hopens : t.opensSection with
      | true => rwa [dropWhile_cons_of_opens hopens]
      | false =>
          rw [dropWhile_cons_of_not hopens]
          exact ih h.2.2

theorem areBelow_keybindingParts (newlines : Nat) {lines : List Text} (hlines : Text.Lines lines) :
    AreBelow (tokensBelow newlines (keybindingParts lines)) := by
  fun_induction keybindingParts lines generalizing newlines with
  | case1 => exact trivial
  | case2 opener rest ih =>
      have hrest : Text.Lines rest := .of_append (show Text.Lines ([opener] ++ rest) from hlines)
      have hcut := lines_cut hrest
      refine ⟨TokenKind.noConfusion, fun h => TokenKind.noConfusion h, TokenKind.noConfusion,
        fun _ hmore => ?_, ih _ hcut.of_append⟩
      refine hcut.getLast?_flatten fun hbelow => hmore ?_
      rw [hbelow, keybindingParts, tokensBelow]

/-- A part that is no keybinding line opens no section. -/
theorem not_opensSection {t : Token} (h : t.kind ≠ .keybinding) : t.opensSection = false := by
  rw [Token.opensSection, beq_eq_false_iff_ne.mpr h, Bool.false_and]

theorem areBelow_partsBelow (newlines : Nat) {lines : List Text} (hlines : Text.Lines lines) :
    AreBelow ((tokensBelow newlines (partsBelow lines)).dropWhile (!·.opensSection)) := by
  have hrest := (lines_cut hlines).of_append
  rw [partsBelow]
  split
  case isTrue => exact areBelow_dropWhile (areBelow_keybindingParts newlines hrest)
  case isFalse =>
    rw [List.singleton_append, tokensBelow,
      dropWhile_cons_of_not (not_opensSection (show TokenKind.globals ≠ .keybinding by decide))]
    exact areBelow_dropWhile (areBelow_keybindingParts _ hrest)

theorem areBelow_parts (source : Text) :
    AreBelow ((tokensBelow 0 (parts source)).dropWhile (!·.opensSection)) := by
  have hlines := Text.lines_terminatedLines source
  rw [parts]
  split
  case isTrue =>
    rw [← List.take_append_drop 1 (Text.terminatedLines source)] at hlines
    rw [tokensBelow,
      dropWhile_cons_of_not (not_opensSection (show TokenKind.shebang ≠ .keybinding by decide))]
    exact areBelow_partsBelow _ hlines.of_append
  case isFalse => exact areBelow_partsBelow 0 hlines

/-! ## Lines of parts -/

/-- Lines none of which opens a keybinding belong to the opener above them. -/
theorem carriedBelow_append {above : List Text} (h : ∀ line ∈ above, isOpener line = false)
    (nearest : Option Nat) (n : Nat) (rest : List (Text × Nat)) :
    carriedBelow nearest (above.zipIdx n ++ rest) =
      (carrying (above.map Text.chomp)).map (nearest, ·) ++ carriedBelow nearest rest := by
  induction above generalizing n with
  | nil => rfl
  | cons line more ih =>
      have hline := h line List.mem_cons_self
      have hmore := ih (fun l hl => h l (List.mem_cons_of_mem line hl)) (n + 1)
      rw [List.zipIdx_cons, List.cons_append, carriedBelow, hline, if_neg Bool.false_ne_true,
        List.map_cons, carrying, List.filter_cons]
      cases isFiller (Text.chomp line) with
      | true => exact hmore
      | false => exact congrArg ((nearest, Text.chomp line) :: ·) hmore

theorem carriedTokens_cons_keybinding (nearest : Option Nat) (text : Text) (line : Nat)
    (ts : List Token) :
    carriedTokens nearest (⟨.keybinding, text, line⟩ :: ts) =
      carriedTokens (if isChord (bindingOf text) then some line else nearest) ts := by
  rw [carriedTokens, Token.opensSection, beq_self_eq_true, Bool.true_and]
  cases isChord (bindingOf text) <;> rfl

/-- A token of whole lines has these lines. -/
theorem carriedTokens_cons_lines (nearest : Option Nat) {kind : TokenKind}
    (hkind : kind = .globals ∨ kind = .action) {lines : List Text} (hlines : Text.Lines lines)
    (line : Nat) (ts : List Token) :
    carriedTokens nearest (⟨kind, lines.flatten, line⟩ :: ts) =
      (carrying (lines.map Text.chomp)).map (nearest, ·) ++ carriedTokens nearest ts := by
  have htext : preambleLines ⟨kind, lines.flatten, line⟩ = lines.map Text.chomp := by
    rw [preambleLines, if_pos (by rcases hkind with rfl | rfl <;> rfl), Text.lines,
      hlines.terminatedLines_flatten]
  have hnot : kind ≠ .keybinding := by rcases hkind with rfl | rfl <;> decide
  rw [carriedTokens_cons_of_not (not_opensSection hnot), htext]

theorem not_isOpener_takeWhile (lines : List Text) :
    ∀ line ∈ lines.takeWhile (!isOpener ·), isOpener line = false := by
  intro line hline
  have hnot := List.mem_takeWhile_imp hline
  rwa [Bool.not_eq_true'] at hnot

/-- Below the preamble the tokens have the lines that they were cut from.  The induction follows the
cutting into openers and what is below them. -/
theorem carriedTokens_keybindingParts (nearest : Option Nat) (newlines : Nat) {lines : List Text}
    (hlines : Text.Lines lines) (hopener : ∀ line ∈ lines.head?, isOpener line = true) :
    carriedTokens nearest (tokensBelow newlines (keybindingParts lines)) =
      carriedBelow nearest (lines.zipIdx (newlines + 1)) := by
  fun_induction keybindingParts lines generalizing nearest newlines with
  | case1 => rfl
  | case2 opener rest ih =>
      have hrest : Text.Lines rest := .of_append (show Text.Lines ([opener] ++ rest) from hlines)
      have hcut := lines_cut hrest
      have hnumbered := List.takeWhile_append_dropWhile (p := (!isOpener ·)) (l := rest)
      have hopens : isOpener opener = true := hopener opener rfl
      have hnot := not_isOpener_takeWhile rest
      have hnext := fun nearest newlines =>
        ih nearest newlines hcut.of_append (isOpener_dropWhile rest)
      generalize rest.takeWhile (!isOpener ·) = above at *
      generalize rest.dropWhile (!isOpener ·) = below at *
      subst hnumbered
      rw [List.zipIdx_cons, List.zipIdx_append, carriedBelow, if_pos hopens,
        carriedBelow_append hnot]
      refine (carriedTokens_cons_keybinding nearest (Part.keybinding opener).text _ _).trans ?_
      refine (carriedTokens_cons_lines _ (Or.inr rfl) hcut.of_append_left _ _).trans ?_
      rw [Part.text_keybinding, hnext]
      by_cases hbelow : below = []
      · rw [hbelow]
        rfl
      · have hcount : (opener :: above).flatten.count '\n' = above.length + 1 :=
          Text.Lines.count_flatten (show Text.Lines ((opener :: above) ++ below) from hlines) hbelow
        rw [List.flatten_cons, List.count_append] at hcount
        have hnewlines : newlines + (Part.keybinding opener).newlines +
            (Part.action above).newlines + 1 = newlines + 1 + 1 + above.length := by
          change newlines + (Part.keybinding opener).text.count '\n' +
            above.flatten.count '\n' + 1 = _
          rw [Part.text_keybinding]
          omega
        rw [hnewlines]

theorem carriedTokens_partsBelow (newlines : Nat) {lines : List Text} (hlines : Text.Lines lines) :
    carriedTokens none (tokensBelow newlines (partsBelow lines)) =
      carriedBelow none (lines.zipIdx (newlines + 1)) := by
  have hcut := lines_cut hlines
  have hnumbered := List.takeWhile_append_dropWhile (p := (!isOpener ·)) (l := lines)
  have hnot := not_isOpener_takeWhile lines
  have hrest := fun nearest newlines =>
    carriedTokens_keybindingParts nearest newlines hcut.of_append (isOpener_dropWhile lines)
  rw [partsBelow]
  generalize lines.takeWhile (!isOpener ·) = above at *
  generalize lines.dropWhile (!isOpener ·) = below at *
  subst hnumbered
  rw [List.zipIdx_append, carriedBelow_append hnot]
  by_cases habove : above = []
  · rw [if_pos habove, List.nil_append, hrest, habove]
    rfl
  · rw [if_neg habove, List.singleton_append]
    refine (carriedTokens_cons_lines none (Or.inl rfl) hcut.of_append_left _ _).trans ?_
    rw [hrest]
    by_cases hbelow : below = []
    · rw [hbelow]
      rfl
    · have hnewlines : newlines + Part.newlines ⟨.globals, above⟩ + 1 =
          newlines + 1 + above.length := by
        rw [Nat.add_right_comm]
        exact congrArg (newlines + 1 + ·) (hcut.count_flatten hbelow)
      rw [hnewlines]

/-- The tokens of a configuration have the lines of the configuration. -/
theorem carriedTokens_parts (source : Text) :
    carriedTokens none (tokensBelow 0 (parts source)) = carriedLines source := by
  have hlines := Text.lines_terminatedLines source
  rw [parts, carriedLines]
  generalize Text.terminatedLines source = lines at hlines
  cases hasShebang source with
  | false => exact carriedTokens_partsBelow 0 hlines
  | true =>
      simp only [if_true]
      rw [tokensBelow, carriedTokens_cons_of_not
        (not_opensSection (show TokenKind.shebang ≠ .keybinding by decide))]
      have hbelow := fun newlines (hdrop : Text.Lines (lines.drop 1)) =>
        carriedTokens_partsBelow newlines hdrop
      rcases lines with _ | ⟨line, _ | ⟨next, more⟩⟩
      · exact hbelow _ .nil
      · exact hbelow _ .nil
      · have hcut : Text.Lines ([line] ++ next :: more) := hlines
        have hnewlines : Part.newlines ⟨.shebang, [line]⟩ = 1 :=
          hcut.count_flatten (List.cons_ne_nil next more)
        rw [List.take_one, List.head?_cons, Option.toList_some, hnewlines]
        exact hbelow 1 hcut.of_append

/-! ## Lines of an outline -/

theorem splitOn_terminated {lines : List Text} (h : ∀ line ∈ lines, '\n' ∉ line) :
    Text.splitOn (· == '\n') (lines.flatMap fun line => line ++ ['\n']) = lines ++ [[]] := by
  induction lines with
  | nil => rfl
  | cons line rest ih =>
      have hline : ∀ c ∈ line, (· == '\n') c = false := fun c hc =>
        beq_eq_false_iff_ne.mpr (ne_of_mem_of_not_mem hc (h line List.mem_cons_self))
      rw [List.flatMap_cons, List.append_assoc, List.singleton_append,
        @Text.splitOn_append_cons (· == '\n') line hline '\n' rfl,
        ih fun l hl => h l (List.mem_cons_of_mem line hl), List.cons_append]

/-- The preamble of an outline holds the lines above the sections. -/
theorem carrying_globals (ts : List Token) :
    carrying (Text.splitOn (· == '\n') ((linesAbove ts).flatMap fun line => line ++ ['\n'])) =
      linesAbove ts := by
  have hnewline : ∀ line ∈ linesAbove ts, '\n' ∉ line := by
    intro line hline
    obtain ⟨t, -, hmem⟩ := List.mem_flatMap.mp (List.mem_filter.mp hline).1
    exact Text.not_newline_of_mem_lines hmem
  have hagain : carrying (linesAbove ts) = linesAbove ts := by
    rw [linesAbove, carrying, carrying, List.filter_filter]
    simp only [Bool.and_self]
  rw [splitOn_terminated hnewline, carrying_append, hagain]
  exact List.append_nil _

/-- The pair of a section holds the lines of the section. -/
theorem Section.carriedLines_pair {s : Section} (h : s.carries = true) :
    s.pair.carriedLines = s.carriedLines := by
  have hfiller : s.lines.all isFiller = false := by
    rw [carries, ← List.not_all_eq_any_not, Bool.not_eq_true'] at h
    exact h
  have hspan := isSpan_trimLines s.lines
  have hcut : Text.splitOn (· == '\n') (Text.join ['\n'] (trimLines s.lines)) =
      trimLines s.lines := by
    refine Text.splitOn_join (s := '\n') rfl (join_trimLines_ne_nil hfiller).1 ?_
    intro line hline c hc
    exact beq_eq_false_iff_ne.mpr
      (ne_of_mem_of_not_mem hc (Text.not_newline_of_mem_lines (hspan.mem hline)))
  rw [Pair.carriedLines, pair, hcut, hspan.carrying_eq]
  rfl

theorem Section.carriedLines_of_not {s : Section} (h : s.carries = false) :
    s.carriedLines = [] := by
  have hfiller : carrying s.lines = [] := by
    refine List.filter_eq_nil_iff.mpr fun line hline => ?_
    exact List.any_eq_false.mp h line hline
  rw [carriedLines, hfiller]
  rfl

/-- The pairs of the sections hold the lines of the sections. -/
theorem carriedLines_pairs (ss : List Section) :
    ((ss.filter Section.carries).map Section.pair).flatMap Pair.carriedLines =
      ss.flatMap Section.carriedLines := by
  induction ss with
  | nil => rfl
  | cons s ss ih =>
      rw [List.flatMap_cons]
      cases hcarries : s.carries with
      | true =>
          rw [List.filter_cons_of_pos hcarries, List.map_cons, List.flatMap_cons, ih,
            Section.carriedLines_pair hcarries]
      | false =>
          rw [List.filter_cons_of_neg (Bool.eq_false_iff.mp hcarries), ih,
            Section.carriedLines_of_not hcarries, List.nil_append]

/-! ## Main statement -/

theorem tokens_of_error_none {source : Text} (h : (tokens source).error = none) :
    (tokens source).tokens = tokensBelow 0 (parts source) := by
  have hfault : (checkedPieces 1 (parts source)).2 = none :=
    (congrArg Prod.snd (pieces_encode source)).symm.trans h
  exact (congrArg (fun cut => cut.1.map Piece.token) (pieces_encode source)).trans
    (tokens_of_fault_none 0 hfault)

/-- A configuration without a brace fault has no bindings if none of its sections carries anything.
Otherwise its outline has one pair for each section that does, in order, and a preamble of the lines
above the sections; and it holds every line of the configuration that carries something once, in
order, in the preamble or in the pair of the nearest section opener above the line. -/
theorem outline_eq_sections (source : Text) (h : (tokens source).error = none) :
    let ts := (tokens source).tokens
    ((outline source).1 = .error (Error.ofFault .empty) ↔
        ∀ s ∈ sections ts, s.carries = false) ∧
      ((∃ s ∈ sections ts, s.carries = true) →
        ∃ o, (outline source).1 = .ok o ∧
          o.globals = ((linesAbove ts).flatMap fun line => line ++ ['\n']) ∧
          List.Forall₂ Section.Makes ((sections ts).filter Section.carries) o.pairs ∧
          o.carriedLines = carriedLines source) := by
  intro ts
  have htokens : ts = tokensBelow 0 (parts source) := tokens_of_error_none h
  have hbelow : AreBelow (ts.dropWhile (!·.opensSection)) := htokens ▸ areBelow_parts source
  obtain ⟨hsettled, hglobals⟩ := settled_foldl_none (d := Draft.empty) rfl hbelow
  have hpairs : (ts.foldl Draft.add Draft.empty).settled =
      ((sections ts).filter Section.carries).map Section.pair := by
    rw [hsettled, Section.filterMap_pair?]
    rfl
  have hfinish : (outline source).1 = (ts.foldl Draft.add Draft.empty).finish.1 := by
    rw [outline, h]
  have hnone : ((sections ts).filter Section.carries).map Section.pair = [] ↔
      ∀ s ∈ sections ts, s.carries = false := by
    rw [List.map_eq_nil_iff, List.filter_eq_nil_iff]
    exact forall₂_congr fun s _ => iff_of_eq (Bool.not_eq_true s.carries)
  rw [hfinish, Draft.finish_eq, hpairs]
  refine ⟨?_, fun hsome => ?_⟩
  · rw [← hnone]
    split
    case isTrue hempty => exact iff_of_true rfl hempty
    case isFalse hempty => exact iff_of_false nofun hempty
  · have hne : ¬((sections ts).filter Section.carries).map Section.pair = [] := by
      rw [hnone]
      intro hall
      obtain ⟨s, hs, hcarries⟩ := hsome
      exact Bool.false_ne_true ((hall s hs).symm.trans hcarries)
    rw [if_neg hne]
    refine ⟨_, rfl, hglobals, ?_, ?_⟩
    · rw [List.forall₂_map_right_iff, List.forall₂_same]
      exact fun s _ => s.makes_pair
    · rw [Outline.carriedLines, hglobals]
      refine (congrArg₂ (· ++ ·) (congrArg _ (carrying_globals ts))
        (carriedLines_pairs (sections ts))).trans ?_
      rw [← carriedTokens_eq_sections hbelow, htokens, carriedTokens_parts]

/-- A line that is no chord above the sections and one within a section, a keybinding that gives way
to the next, and one without a command at the end. -/
theorem outline_eq_sections_of_comments :
    let source := "#!sh\nA=1\n# -x\nB=2\n#a\n## none\n#@b\n\ngo\n# -\n \n##x\nrun\n\n#c".toList
    let ts := (tokens source).tokens
    (tokens source).error = none ∧
      (outline source).1 = .ok
        { interpreter := ⟨"sh".toList, []⟩
          globals := "A=1\nB=2\n".toList
          pairs := [⟨"@b".toList, "go\n \n##x\nrun".toList, 7⟩] } ∧
      ((outline source).1 = .error (Error.ofFault .empty) ↔
        ∀ s ∈ sections ts, s.carries = false) ∧
      ((∃ s ∈ sections ts, s.carries = true) →
        ∃ o, (outline source).1 = .ok o ∧
          o.globals = ((linesAbove ts).flatMap fun line => line ++ ['\n']) ∧
          List.Forall₂ Section.Makes ((sections ts).filter Section.carries) o.pairs ∧
          o.carriedLines = carriedLines source) :=
  ⟨by decide, by decide, outline_eq_sections _ (by decide)⟩

end Hotkeys.Config
