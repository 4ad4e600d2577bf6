import Hotkeys.Proofs.Config.Appending
import Hotkeys.Proofs.Config.Groups

/-!
# Groups of commands

Between the scanner and the template of a command stand the cut into tokens, the keybinding lines
that open no section, the carriage returns at line ends, and the blank lines around the command.
Each line has groups by itself, and neither these nor the order of the lines change on the way
(`hasGroups_flatten`, `hasGroups_join`, `Section.lines_eq`, `IsSpan.flatMap_groupTexts`).

Main statement: `groupTexts_command`.
-/

set_option autoImplicit false

namespace Hotkeys.Config

open Text (join Lines body chomp)
open Text.Utf8 (encode)

/-! ## Lines -/

/-- Whether the braces of a text match. -/
def Balanced (t : Text) : Prop :=
  HasGroups none t (groupTexts t)

theorem HasGroups.balanced {t : Text} {groups : List Text} (h : HasGroups none t groups) :
    Balanced t := by
  rwa [Balanced, h.groupTexts_eq]

/-- A line end is a newline, or a carriage return and a newline. -/
theorem chomp_newline (t : Text) :
    chomp (t ++ ['\n']) = t ∨ t = chomp (t ++ ['\n']) ++ ['\r'] := by
  rw [chomp, List.reverse_append, List.reverse_singleton, List.singleton_append]
  split
  case h_1 rest heq =>
    refine .inr ?_
    rw [← List.reverse_reverse t, (List.cons.inj heq).2, List.reverse_cons]
  case h_2 rest _ heq =>
    refine .inl ?_
    rw [← (List.cons.inj heq).2, List.reverse_reverse]
  case h_3 _ hnot => exact absurd rfl (hnot t.reverse)

/-- The end of a line holds no brace. -/
theorem HasGroups.chomp {t : Text} {groups : List Text} (h : HasGroups none t groups) :
    HasGroups none (chomp (t ++ ['\n'])) groups := by
  rcases chomp_newline t with heq | heq
  · rwa [heq]
  · rw [heq] at h
    exact h.of_concat (by decide)

/-- A line in which the brace check finds no fault has groups. -/
theorem balanced_body {line : Text} (h : lineFault line = none) : Balanced (body line) := by
  have hnewline : '\n' ∉ body line := fun hmem => by
    simpa using List.mem_takeWhile_imp hmem
  rw [lineFault_eq] at h
  obtain ⟨groups, hgroups⟩ := exists_hasGroups hnewline none none rfl h
  exact hgroups.balanced

/-- Lines that have groups make up a text that has these groups. -/
theorem hasGroups_flatten {lines : List Text} (hlines : Lines lines)
    (h : ∀ line ∈ lines, lineFault line = none) :
    HasGroups none lines.flatten ((lines.map chomp).flatMap groupTexts) ∧
      ∀ line ∈ lines.map chomp, Balanced line := by
  induction hlines with
  | nil => exact ⟨.nil, List.forall_mem_nil _⟩
  | @last t hne ht =>
      have hbody := balanced_body (h t List.mem_cons_self)
      rw [Text.body_eq_self ht] at hbody
      rw [List.map_singleton, Text.chomp_of_not_mem ht, List.flatMap_singleton,
        List.flatten_singleton]
      exact ⟨hbody, List.forall_mem_singleton.mpr hbody⟩
  | @cons t rest ht _ ih =>
      obtain ⟨hline, hrest⟩ := List.forall_mem_cons.mp h
      obtain ⟨hmore, hbalanced⟩ := ih hrest
      have hbody := balanced_body hline
      rw [Text.body_newline ht] at hbody
      have hchomp := hbody.chomp
      rw [List.map_cons, List.flatMap_cons, hchomp.groupTexts_eq, List.flatten_cons,
        List.append_assoc]
      exact ⟨hbody.append_newline hmore, List.forall_mem_cons.mpr ⟨hchomp.balanced, hbalanced⟩⟩

/-- Joined lines have the groups of the lines. -/
theorem hasGroups_join {lines : List Text} (h : ∀ line ∈ lines, Balanced line) :
    HasGroups none (join ['\n'] lines) (lines.flatMap groupTexts) := by
  induction lines with
  | nil => exact .nil
  | cons line rest ih =>
      obtain ⟨hline, hrest⟩ := List.forall_mem_cons.mp h
      cases rest with
      | nil =>
          rw [Text.join_singleton, List.flatMap_singleton]
          exact hline
      | cons next more =>
          rw [Text.join_cons_cons, List.append_assoc, List.flatMap_cons]
          exact hline.append_newline (ih hrest)

/-- Blank lines have no groups. -/
theorem groupTexts_of_isBlankLine {line : Text} (h : isBlankLine line = true) :
    groupTexts line = [] := by
  by_cases hgroups : (Template.ofText line).groups = []
  · rw [groupTexts, hgroups, List.map_nil]
  · obtain ⟨before, rest, rfl, -⟩ := exists_braces_of_groups hgroups
    have hblanks := Text.trim_eq_nil_iff.mp (List.isEmpty_iff.mp h)
    exact absurd (hblanks '{' (by simp)) (by decide)

theorem IsSpan.flatMap_groupTexts {lines span : List Text} (h : IsSpan lines span) :
    span.flatMap groupTexts = lines.flatMap groupTexts := by
  have hblank : ∀ {ls : List Text}, (∀ line ∈ ls, isBlankLine line = true) →
      ls.flatMap groupTexts = [] := fun hls =>
    List.flatMap_eq_nil_iff.mpr fun line hline => groupTexts_of_isBlankLine (hls line hline)
  obtain ⟨above, below, habove, hbelow, rfl⟩ := h.around
  rw [List.flatMap_append, List.flatMap_append, hblank habove, hblank hbelow, List.nil_append,
    List.append_nil]

/-! ## Tokens -/

/-- The groups that the scanner closes in a token; it begins every token in the same state. -/
def Token.groups (t : Token) : List (List UInt8) :=
  (Scanner.startAt t.kind t.line).groups (encode t.text)

theorem exists_part_of_mem {n : Nat} {ps : List Part} {t : Token} (h : t ∈ tokensBelow n ps) :
    ∃ p ∈ ps, t.kind = p.kind ∧ t.text = p.text := by
  induction ps generalizing n with
  | nil => exact absurd h List.not_mem_nil
  | cons p ps ih =>
      rcases List.mem_cons.mp h with rfl | hrest
      · exact ⟨p, List.mem_cons_self, rfl, rfl⟩
      · obtain ⟨q, hq, hsame⟩ := ih hrest
        exact ⟨q, List.mem_cons_of_mem p hq, hsame⟩

theorem lines_of_mem_keybindingParts {lines : List Text} (hlines : Lines lines) :
    ∀ p ∈ keybindingParts lines, Lines p.lines := by
  fun_induction keybindingParts lines with
  | case1 => exact List.forall_mem_nil _
  | case2 opener rest ih =>
      have hrest : Lines rest := .of_append (show Lines ([opener] ++ rest) from hlines)
      have hcut := lines_cut hrest
      have hopener : Lines [opener] := .of_append_left (show Lines ([opener] ++ rest) from hlines)
      exact List.forall_mem_cons.mpr ⟨hopener,
        List.forall_mem_cons.mpr ⟨hcut.of_append_left, ih hcut.of_append⟩⟩

theorem lines_of_mem_partsBelow {lines : List Text} (hlines : Lines lines) :
    ∀ p ∈ partsBelow lines, Lines p.lines := by
  have hcut := lines_cut hlines
  have hbelow := lines_of_mem_keybindingParts hcut.of_append
  rw [partsBelow]
  split
  case isTrue => exact hbelow
  case isFalse => exact List.forall_mem_cons.mpr ⟨hcut.of_append_left, hbelow⟩

theorem lines_of_mem_parts (source : Text) : ∀ p ∈ parts source, Lines p.lines := by
  have hlines := Text.lines_terminatedLines source
  rw [parts]
  split
  case isTrue =>
    rw [← List.take_append_drop 1 (Text.terminatedLines source)] at hlines
    exact List.forall_mem_cons.mpr
      ⟨hlines.of_append_left, lines_of_mem_partsBelow hlines.of_append⟩
  case isFalse => exact lines_of_mem_partsBelow hlines

/-- In text without a fault whose braces are checked, the scanner closes the groups of the lines,
and each line has its groups by itself. -/
theorem groups_of_checked {source : Text} (herror : (tokens source).error = none) {t : Token}
    (ht : t ∈ tokensBelow 0 (parts source)) (hkind : t.kind = .keybinding ∨ t.kind = .action) :
    HasGroups none t.text ((Text.lines t.text).flatMap groupTexts) ∧
      t.groups = ((Text.lines t.text).flatMap groupTexts).map encode ∧
      ∀ line ∈ Text.lines t.text, Balanced line := by
  obtain ⟨p, hp, hsame, htext⟩ := exists_part_of_mem ht
  have hlines := lines_of_mem_parts source p hp
  have hfault := error_eq_none_iff.mp herror p hp
  rw [Part.fault?, if_pos (hsame ▸ hkind), linesFault_eq_none_iff] at hfault
  obtain ⟨hgroups, hbalanced⟩ := hasGroups_flatten hlines hfault
  have hcut : Text.lines t.text = p.lines.map chomp := by
    rw [htext, Part.text, Text.lines, hlines.terminatedLines_flatten]
  rw [hcut, Token.groups, htext]
  exact ⟨hgroups, hgroups.groups_eq (Scanner.holds_startAt hkind t.line), hbalanced⟩

/-! ## Sections -/

theorem mem_of_mem_sections {ts : List Token} {s : Section} (hs : s ∈ sections ts) {t : Token}
    (ht : t ∈ s.body) : t ∈ ts := by
  induction ts with
  | nil => exact absurd hs List.not_mem_nil
  | cons u ts ih =>
      refine List.mem_cons_of_mem u ?_
      cases hopens : u.opensSection with
      | true =>
          rw [sections_cons_of_opens hopens] at hs
          rcases List.mem_cons.mp hs with rfl | hrest
          · exact List.takeWhile_subset _ ht
          · exact ih hrest
      | false =>
          rw [sections_cons_of_not hopens] at hs
          exact ih hs

/-- Below an opener the command text is cut into lines token by token. -/
theorem lines_actionText_takeWhile {ts : List Token} (hts : AreBelow ts) :
    Text.lines (actionText (ts.takeWhile (!·.opensSection))) =
      ((ts.takeWhile (!·.opensSection)).filter (·.kind == .action)).flatMap
        fun t => Text.lines t.text := by
  induction ts with
  | nil => rfl
  | cons t ts ih =>
      cases hopens : t.opensSection with
      | true =>
          rw [takeWhile_cons_of_opens hopens]
          rfl
      | false =>
          rw [takeWhile_cons_of_not hopens, lines_actionText_cons hts, ih hts.2.2, preambleLines]
          have hglobals : (t.kind == .globals) = false := beq_false_of_ne hts.1
          rw [hglobals, Bool.false_or]
          cases haction : t.kind == .action with
          | true =>
              rw [List.filter_cons_of_pos (by exact haction)]
              rfl
          | false =>
              rw [List.filter_cons_of_neg (by rw [haction]; exact Bool.false_ne_true)]
              rfl

theorem Section.lines_eq {ts : List Token} (hts : AreBelow (ts.dropWhile (!·.opensSection)))
    {s : Section} (hs : s ∈ sections ts) :
    s.lines = (s.body.filter (·.kind == .action)).flatMap fun t => Text.lines t.text := by
  induction ts with
  | nil => exact absurd hs List.not_mem_nil
  | cons t ts ih =>
      cases hopens : t.opensSection with
      | true =>
          rw [dropWhile_cons_of_opens hopens] at hts
          rw [sections_cons_of_opens hopens] at hs
          rcases List.mem_cons.mp hs with rfl | hrest
          · exact lines_actionText_takeWhile hts.2.2
          · exact ih (areBelow_dropWhile hts.2.2) hrest
      | false =>
          rw [dropWhile_cons_of_not hopens] at hts
          rw [sections_cons_of_not hopens] at hs
          exact ih hts hs

/-- The command of a section has the groups that the scanner closes in the command text of the
section. -/
theorem Section.hasGroups_command {source : Text} (herror : (tokens source).error = none)
    {s : Section} (hs : s ∈ sections (tokensBelow 0 (parts source))) :
    ∃ groups, HasGroups none s.pair.command groups ∧
      groups.map encode = (s.body.filter (·.kind == .action)).flatMap Token.groups := by
  have hlines := s.lines_eq (areBelow_parts source) hs
  have htokens : ∀ t ∈ s.body.filter (·.kind == .action),
      t.groups = ((Text.lines t.text).flatMap groupTexts).map encode ∧
        ∀ line ∈ Text.lines t.text, Balanced line := by
    intro t ht
    obtain ⟨hbody, hkind⟩ := List.mem_filter.mp ht
    have hmem := mem_of_mem_sections hs hbody
    exact (groups_of_checked herror hmem (.inr (beq_iff_eq.mp hkind))).2
  have hspan := isSpan_trimLines s.lines
  have hbalanced : ∀ line ∈ trimLines s.lines, Balanced line := by
    intro line hline
    have hmem := hspan.mem hline
    rw [hlines] at hmem
    obtain ⟨t, ht, hline'⟩ := List.mem_flatMap.mp hmem
    exact (htokens t ht).2 line hline'
  refine ⟨_, hasGroups_join hbalanced, ?_⟩
  rw [hspan.flatMap_groupTexts, hlines, List.flatMap_assoc, List.map_flatMap]
  exact List.flatMap_congr fun t ht => ((htokens t ht).1).symm

/-! ## Main statement -/

/-- In every pair of an outline, the template of the command has just the groups that the scanner
closed in the command text of the section, in the same order.  No other brace is left in it that is
not escaped, and its reading never comes to a brace that it would keep because no group begins
there. -/
theorem groupTexts_command (source : Text) (o : Outline) (h : (outline source).1 = .ok o) :
    List.Forall₂
      (fun s p => s.Makes p ∧
        (groupTexts p.command).map encode =
          (s.body.filter (·.kind == .action)).flatMap Token.groups ∧
        (Template.ofText p.command).IsPlain ∧
        ∀ rest, Reaches p.command ('{' :: rest) → readGroup rest ≠ none)
      ((sections (tokens source).tokens).filter Section.carries) o.pairs := by
  obtain ⟨herror, rfl, -⟩ := outline_eq_ok_iff.mp h
  rw [tokens_of_error_none herror, outlineOf, Section.filterMap_pair?, List.forall₂_map_right_iff,
    List.forall₂_same]
  intro s hs
  obtain ⟨groups, hgroups, hscanned⟩ := Section.hasGroups_command herror (List.mem_filter.mp hs).1
  refine ⟨s.makes_pair, ?_, hgroups.isPlain, fun rest => hgroups.readGroup_ne_none⟩
  rw [hgroups.groupTexts_eq, hscanned]

/-- Escaped braces inside and outside of a group, an escaped carriage return before the line end, a
keybinding line without a chord inside of the command, an escape of two bytes, and blank lines. -/
theorem groupTexts_command_of_escapes :
    let source := "#a\n\n go \\\x7b \x7b1,\\\x7dé\x7d \\\r\n# !\n\x7bb,c\x7d \\é\n \n".toList
    let o : Outline := ⟨.standard, [],
      [⟨"a".toList, " go \\\x7b \x7b1,\\\x7dé\x7d \\\n\x7bb,c\x7d \\é".toList, 1⟩]⟩
    (outline source).1 = .ok o ∧
      o.pairs.map (fun p => groupTexts p.command) = [["1,\\\x7dé".toList, "b,c".toList]] ∧
      List.Forall₂
        (fun s p => s.Makes p ∧
          (groupTexts p.command).map encode =
            (s.body.filter (·.kind == .action)).flatMap Token.groups ∧
          (Template.ofText p.command).IsPlain ∧
          ∀ rest, Reaches p.command ('{' :: rest) → readGroup rest ≠ none)
        ((sections (tokens source).tokens).filter Section.carries) o.pairs :=
  ⟨by decide +kernel, by decide +kernel, groupTexts_command _ _ (by decide +kernel)⟩

end Hotkeys.Config
