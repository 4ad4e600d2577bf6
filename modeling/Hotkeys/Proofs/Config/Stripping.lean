import Hotkeys.Proofs.Config.Commands
import Hotkeys.Proofs.Config.Markings
import Hotkeys.Proofs.Config.Templates

/-!
# Groups of keybinding lines

The scanner reads a keybinding line as it stands, its template is read after every blank is gone.
Both are readings of marked characters: the scanner goes by the escapes of the line
(`HasGroups.groupsOf_eq`), the template by those of the binding (`groupsOf_marked_iff_template`).
To remove the blanks from marked characters removes them from the groups and changes nothing else
(`groupsOf_solid`).  So what is left to compare is two markings of the same characters, and the
groups are kept just if these agree on the braces that decide.

Main statement: `binding_keeps_groups_iff`.
-/

set_option autoImplicit false

namespace Hotkeys.Config

open Text (join isBlank strip marked)
open Text.Utf8 (encode decodeLossy)

/-! ## What the scanner reads -/

/-- An escape is an ordinary part of a text, inside of a group and outside. -/
theorem groupsOf_escape (inside : Option Text) (d : Char) (t : Text) :
    groupsOf inside (marked false ('\\' :: d :: t)) =
      groupsOf (inside.map (· ++ ['\\', d])) (marked false t) := by
  rw [Text.marked_escape]
  cases inside with
  | none => rw [groupsOf_outside _ (by simp) (by simp), groupsOf_outside _ (by simp) (by simp)]; rfl
  | some group =>
      rw [groupsOf_inside _ _ (by simp), groupsOf_inside _ _ (by simp), List.append_assoc]
      rfl

/-- So is a character other than a brace. -/
theorem groupsOf_plain (inside : Option Text) {c : Char} (hc : c ∉ ['\\', '{', '}']) (t : Text) :
    groupsOf inside (marked false (c :: t)) =
      groupsOf (inside.map (· ++ [c])) (marked false t) := by
  simp only [List.mem_cons, List.not_mem_nil, or_false, not_or] at hc
  obtain ⟨hescape, hopening, hclosing⟩ := hc
  rw [Text.marked_cons hescape, groupsOf_of_ne _ hclosing fun heq => absurd heq hopening]

/-- Where the braces of a text match, its groups are those that its escapes leave. -/
theorem HasGroups.groupsOf_eq {inside : Option Text} {t : Text} {groups : List Text}
    (h : HasGroups inside t groups) : groupsOf inside (marked false t) = some groups := by
  induction h with
  | nil => rfl
  | lone => rfl
  | escape d _ ih => rw [groupsOf_escape, Option.map_none, ih]
  | opening _ ih => exact ih
  | plain hc _ ih => rw [groupsOf_plain _ hc, Option.map_none, ih]
  | @closing group t groups _ ih =>
      have hrest : groupsOf (some group) (marked false ('}' :: t)) =
          (groupsOf none (marked false t)).map (group :: ·) := rfl
      rw [hrest, ih, Option.map_some]
  | escapeInside _ _ ih => rw [groupsOf_escape, Option.map_some, ih]
  | plainInside hc _ ih =>
      rw [groupsOf_plain _ (List.not_mem_of_not_mem_cons hc), Option.map_some, ih]

/-! ## What a template reads -/

/-- Behind an opening brace a template reads the group that the escapes leave, and goes on behind
it. -/
theorem groupsOf_marked_inside {t : Text} (ht : '\n' ∉ t) (group : Text) :
    groupsOf (some group) (marked false t) = (readGroup t).bind fun g =>
      (groupsOf none (marked false g.2)).map ((group ++ join [','] g.1) :: ·) := by
  fun_induction readGroup t generalizing group with
  | case1 => rfl
  | case2 => rfl
  | case3 d ds ih =>
      have hds : '\n' ∉ ds := fun hmem => ht (by simp [hmem])
      rw [groupsOf_escape, Option.map_some, ih hds, Option.bind_map]
      simp only [Function.comp_def, join_extendFirst, List.append_assoc]
  | case4 cs _ ih =>
      rw [List.mem_cons, not_or] at ht
      rw [groupsOf_plain _ (by decide), Option.map_some, ih ht.2]
      cases hread : readGroup cs with
      | none => rfl
      | some g =>
          simp only [Option.map_some, Option.bind_some, join_nil_cons (ne_nil_of_readGroup hread),
            List.append_assoc, List.singleton_append]
  | case5 cs _ _ =>
      rw [Option.bind_some, Text.join_singleton, List.append_nil]
      rfl
  | case6 => exact absurd List.mem_cons_self ht
  | case7 c cs hescape hcomma hclosing hnewline ih =>
      rw [List.mem_cons, not_or] at ht
      rw [Text.marked_cons hescape, groupsOf_inside _ _ (by simp [hclosing]), ih ht.2,
        Option.bind_map]
      simp only [Function.comp_def, join_extendFirst, List.append_assoc]

theorem hasBareBrace_brace {c : Char} (hc : c ∈ ['{', '}']) (t : Text) :
    hasBareBrace (c :: t) = true := by
  rw [List.mem_pair] at hc
  rw [hasBareBrace.eq_def]
  rcases hc with rfl | rfl <;> rfl

theorem Template.not_isPlain_extend {lead : Text} (hlead : ∀ u, hasBareBrace (lead ++ u) = true)
    (t : Template) : ¬(Template.extend lead t).IsPlain := by
  unfold Template.extend
  split
  case h_1 v rest =>
    rw [Template.isPlain_text_cons_iff, hlead]
    exact fun h => Bool.noConfusion h.1
  case h_2 =>
    have hnil := hlead []
    rw [List.append_nil] at hnil
    rw [Template.isPlain_text_cons_iff, hnil]
    exact fun h => Bool.noConfusion h.1

/-- The template of a line has the groups that the escapes leave, and no other brace that is not
escaped, just if the escapes leave matching braces. -/
theorem groupsOf_marked_iff_template {t : Text} (ht : '\n' ∉ t) {groups : List Text} :
    groupsOf none (marked false t) = some groups ↔
      groupTexts t = groups ∧ (Template.ofText t).IsPlain := by
  unfold groupTexts
  fun_induction Template.ofText t generalizing groups with
  | case1 =>
      exact Option.some_inj.trans (and_iff_left Template.isPlain_nil).symm
  | case2 =>
      have hplain : (Template.extend ['\\'] []).IsPlain :=
        Template.isPlain_text_cons_iff.mpr ⟨rfl, Template.isPlain_nil⟩
      exact Option.some_inj.trans (and_iff_left hplain).symm
  | case3 d ds ih =>
      have hds : '\n' ∉ ds := fun hmem => ht (by simp [hmem])
      rw [groupsOf_escape, Option.map_none, Template.groups_extend,
        Template.isPlain_extend_iff fun _ => rfl]
      exact ih hds
  | case4 cs members rest hread _ ih =>
      rw [List.mem_cons, not_or] at ht
      have hrest : '\n' ∉ rest := by
        intro hmem
        rw [(of_readGroup hread).1] at ht
        exact ht.2 (by simp [hmem])
      have hgroup : groupsOf none (marked false ('{' :: cs)) =
          (groupsOf none (marked false rest)).map (join [','] members :: ·) := by
        rw [Text.marked_cons (by decide), groupsOf_opening, groupsOf_marked_inside ht.2, hread]
        rfl
      rw [hgroup, Option.map_eq_some_iff, Template.isPlain_group_cons_iff]
      constructor
      · rintro ⟨more, hmore, rfl⟩
        obtain ⟨rfl, hplain⟩ := (ih hrest).mp hmore
        exact ⟨rfl, hplain⟩
      · rintro ⟨rfl, hplain⟩
        exact ⟨_, (ih hrest).mpr ⟨rfl, hplain⟩, rfl⟩
  | case5 cs hread _ ih =>
      -- The template keeps the brace, and the escapes leave a group that is never closed.
      rw [List.mem_cons, not_or] at ht
      rw [Text.marked_cons (by decide), groupsOf_opening, groupsOf_marked_inside ht.2, hread]
      have hbare : ¬(Template.extend ['{'] (Template.ofText cs)).IsPlain :=
        Template.not_isPlain_extend (hasBareBrace_brace (by decide)) _
      exact iff_of_false (Option.some_ne_none _ ·.symm) fun h => hbare h.2
  | case6 c cs hescape hopening ih =>
      rw [List.mem_cons, not_or] at ht
      by_cases hclosing : c = '}'
      · subst hclosing
        have hbare : ¬(Template.extend ['}'] (Template.ofText cs)).IsPlain :=
          Template.not_isPlain_extend (hasBareBrace_brace (by decide)) _
        exact iff_of_false (Option.some_ne_none _ ·.symm) fun h => hbare h.2
      · have hplain : c ∉ ['\\', '{', '}'] := by simp [hescape, hopening, hclosing]
        rw [groupsOf_plain _ hplain, Option.map_none, Template.groups_extend,
          Template.isPlain_extend_iff (hasBareBrace_cons hplain)]
        exact ih ht.2

/-! ## Blanks -/

/-- The marked characters that are not blank. -/
def solid (marks : List (Char × Bool)) : List (Char × Bool) :=
  marks.filter fun x => !isBlank x.1

section Solid

variable {x : Char × Bool} (rest : List (Char × Bool))

theorem solid_cons_of_blank (hx : isBlank x.1 = true) : solid (x :: rest) = solid rest :=
  List.filter_cons_of_neg (by simp [hx])

theorem solid_cons_of_not (hx : isBlank x.1 = false) : solid (x :: rest) = x :: solid rest :=
  List.filter_cons_of_pos (by simp [hx])

theorem map_fst_solid (marks : List (Char × Bool)) :
    (solid marks).map Prod.fst = strip (marks.map Prod.fst) := by
  rw [solid, strip, List.filter_map]
  rfl

end Solid

/-- Without blanks the groups have none, and are otherwise what they were. -/
theorem groupsOf_solid (inside : Option Text) (marks : List (Char × Bool)) :
    groupsOf (inside.map strip) (solid marks) = (groupsOf inside marks).map (List.map strip) := by
  fun_induction groupsOf inside marks with
  | case1 => rfl
  | case2 => rfl
  | case3 rest ih =>
      rw [solid_cons_of_not rest (by decide)]
      exact ih
  | case4 rest =>
      rw [solid_cons_of_not rest (by decide)]
      rfl
  | case5 x rest hopening hclosing ih =>
      by_cases hx : isBlank x.1 = true
      · rw [solid_cons_of_blank rest hx]
        exact ih
      · rw [solid_cons_of_not rest (Bool.not_eq_true _ ▸ hx), Option.map_none,
          groupsOf_outside _ hopening hclosing]
        exact ih
  | case6 group rest ih =>
      rw [solid_cons_of_not rest (by decide), Option.map_some, groupsOf_closing]
      rw [Option.map_none] at ih
      rw [ih, Option.map_map, Option.map_map]
      rfl
  | case7 group x rest hclosing ih =>
      rw [Option.map_some] at ih ⊢
      by_cases hx : isBlank x.1 = true
      · have hgroup : strip (group ++ [x.1]) = strip group := by simp [strip, hx]
        rw [solid_cons_of_blank rest hx, ← hgroup, ih]
      · have hgroup : strip (group ++ [x.1]) = strip group ++ [x.1] := by simp [strip, hx]
        rw [solid_cons_of_not rest (Bool.not_eq_true _ ▸ hx), groupsOf_inside _ _ hclosing,
          ← hgroup, ih]

/-- The marks that decide are all on braces. -/
theorem decisive_solid (inside : Bool) (marks : List (Char × Bool)) :
    decisive inside (solid marks) = decisive inside marks := by
  fun_induction decisive inside marks with
  | case1 => rfl
  | case2 inside x rest hclosing ih =>
      rw [solid_cons_of_not rest (by rw [hclosing]; decide), decisive, if_pos hclosing, ih]
  | case3 inside x rest hclosing hopening ih =>
      rw [solid_cons_of_not rest (by rw [hopening.1]; decide), decisive, if_neg hclosing,
        if_pos hopening, ih]
  | case4 inside x rest hclosing hopening ih =>
      by_cases hx : isBlank x.1 = true
      · rw [solid_cons_of_blank rest hx, ih]
      · rw [solid_cons_of_not rest (Bool.not_eq_true _ ▸ hx), decisive, if_neg hclosing,
          if_neg hopening, ih]

/-! ## Bindings -/

/-- The braces of a text that decide about its groups, each with whether it is escaped: all closing
ones, and the opening ones outside of groups. -/
def bracesOf (t : Text) : List (Char × Bool) :=
  decisive false (marked false t)

/-- A binding is a line without its blanks and without the `#` in front. -/
theorem strip_eq_or (line : Text) :
    strip line = bindingOf line ∨ strip line = '#' :: bindingOf line := by
  rw [bindingOf]
  cases hafter : Text.after? ['#'] (strip line) with
  | none => exact .inl rfl
  | some rest => exact .inr (Text.after?_eq_some_iff.mp hafter)

theorem not_mem_bindingOf (line : Text) : '\n' ∉ bindingOf line := by
  have hstrip : '\n' ∉ strip line := fun hmem => absurd (List.mem_filter.mp hmem).2 (by decide)
  rcases strip_eq_or line with heq | heq
  · rwa [heq] at hstrip
  · rw [heq] at hstrip
    exact List.not_mem_of_not_mem_cons hstrip

/-- A line whose braces match has the groups that the escapes of its binding leave, up to blanks,
just if these are the same on the braces that decide. -/
theorem groupsOf_bindingOf_iff {line : Text} {groups : List Text} (h : HasGroups none line groups) :
    groupsOf none (marked false (bindingOf line)) = some (groups.map strip) ↔
      bracesOf line = bracesOf (bindingOf line) := by
  have hsolid : groupsOf none (solid (marked false line)) = some (groups.map strip) := by
    rw [← Option.map_none (f := strip), groupsOf_solid, h.groupsOf_eq, Option.map_some]
  -- The two markings are that of the line without its blanks and that of what is left.
  have hiff := groupsOf_marked_iff hsolid
  rw [map_fst_solid, Text.map_fst_marked, decisive_solid] at hiff
  rw [bracesOf, bracesOf]
  rcases strip_eq_or line with heq | heq
  · rwa [heq] at hiff
  · rw [heq, groupsOf_plain _ (by decide), Option.map_none, Text.marked_cons (by decide),
      decisive_of_ne _ _ (by simp) (by simp)] at hiff
    exact hiff

/-- Where no backslash escapes a blank, a text without its blanks is marked as it was. -/
theorem marked_strip {escaped : Bool} {t : Text}
    (h : ∀ x ∈ marked escaped t, x.2 = true → isBlank x.1 = false) :
    marked escaped (strip t) = solid (marked escaped t) := by
  induction t generalizing escaped with
  | nil => rfl
  | cons c cs ih =>
      rw [marked] at h ⊢
      obtain ⟨hc, hcs⟩ := List.forall_mem_cons.mp h
      have hrest := ih hcs
      by_cases hblank : isBlank c = true
      · have hstrip : strip (c :: cs) = strip cs := List.filter_cons_of_neg (by simp [hblank])
        -- A blank that goes escapes nothing, nor is it escaped.
        have hbehind : (!escaped && c == '\\') = escaped := by
          have hescape : c ≠ '\\' := by
            rintro rfl
            exact absurd hblank (by decide)
          cases escaped with
          | false => rw [beq_false_of_ne hescape, Bool.and_false]
          | true => exact absurd (hc rfl) (by simp [hblank])
        rw [hbehind] at hrest ⊢
        rw [hstrip, solid_cons_of_blank (x := (c, escaped)) _ hblank, hrest]
      · rw [Bool.not_eq_true] at hblank
        have hstrip : strip (c :: cs) = c :: strip cs := List.filter_cons_of_pos (by simp [hblank])
        rw [hstrip, marked, solid_cons_of_not (x := (c, escaped)) _ hblank, hrest]

/-- Then its braces are escaped as they were. -/
theorem bracesOf_bindingOf {line : Text}
    (h : ∀ x ∈ marked false line, x.2 = true → isBlank x.1 = false) :
    bracesOf line = bracesOf (bindingOf line) := by
  have hstrip : bracesOf (strip line) = bracesOf line := by
    rw [bracesOf, marked_strip h, decisive_solid, bracesOf]
  rcases strip_eq_or line with heq | heq
  · rw [← hstrip, heq]
  · rw [← hstrip, heq, bracesOf, Text.marked_cons (by decide),
      decisive_of_ne _ _ (by simp) (by simp), bracesOf]

/-! ## Sections -/

/-- Whether a binding keeps the groups of the line that it was made from: its template has those
that the scanner closed there, in the same order, each without its blanks, and no other brace that
is not escaped. -/
structure KeepsGroups (opener : Token) (binding : Text) : Prop where
  /-- The template has the groups of the line. -/
  groups : groupTexts binding = opener.groups.map fun g => strip (decodeLossy g)
  /-- The template leaves no brace in its ordinary texts. -/
  plain : (Template.ofText binding).IsPlain

theorem opener_of_mem_sections {ts : List Token} {s : Section} (hs : s ∈ sections ts) :
    s.opener ∈ ts ∧ s.opener.kind = .keybinding := by
  induction ts with
  | nil => exact absurd hs List.not_mem_nil
  | cons t ts ih =>
      cases hopens : t.opensSection with
      | true =>
          rw [sections_cons_of_opens hopens] at hs
          rcases List.mem_cons.mp hs with rfl | hrest
          · rw [Token.opensSection, Bool.and_eq_true, beq_iff_eq] at hopens
            exact ⟨List.mem_cons_self, hopens.1⟩
          · exact (ih hrest).imp_left (List.mem_cons_of_mem t)
      | false =>
          rw [sections_cons_of_not hopens] at hs
          exact (ih hs).imp_left (List.mem_cons_of_mem t)

/-- The binding of a keybinding line without a fault keeps the groups of the line just if it leaves
the braces that decide about groups escaped or not as they were. -/
theorem keepsGroups_iff {source : Text} (herror : (tokens source).error = none) {t : Token}
    (ht : t ∈ tokensBelow 0 (parts source)) (hkind : t.kind = .keybinding) :
    KeepsGroups t (bindingOf t.text) ↔ bracesOf t.text = bracesOf (bindingOf t.text) := by
  obtain ⟨hline, hscanned, -⟩ := groups_of_checked herror ht (.inl hkind)
  rw [← groupsOf_bindingOf_iff hline, groupsOf_marked_iff_template (not_mem_bindingOf t.text)]
  have hgroups : t.groups.map (fun g => strip (decodeLossy g)) =
      ((Text.lines t.text).flatMap groupTexts).map strip := by
    rw [hscanned, List.map_map]
    refine List.map_congr_left fun g _ => ?_
    rw [Function.comp_apply, Text.Utf8.decodeLossy_encode]
  rw [← hgroups]
  exact ⟨fun h => ⟨h.groups, h.plain⟩, fun h => ⟨h.1, h.2⟩⟩

/-! ## Main statement -/

/-- In every pair of an outline, the binding keeps the groups that the scanner closed in the
keybinding line if and only if the braces that decide about groups are escaped in it just as they
are in the line.  So it does whenever no backslash of the line escapes a blank. -/
theorem binding_keeps_groups_iff (source : Text) (o : Outline) (h : (outline source).1 = .ok o) :
    List.Forall₂
      (fun s p => s.Makes p ∧
        (KeepsGroups s.opener p.binding ↔ bracesOf s.opener.text = bracesOf p.binding) ∧
        ((∀ x ∈ marked false s.opener.text, x.2 = true → isBlank x.1 = false) →
          KeepsGroups s.opener p.binding))
      ((sections (tokens source).tokens).filter Section.carries) o.pairs := by
  obtain ⟨herror, rfl, -⟩ := outline_eq_ok_iff.mp h
  rw [tokens_of_error_none herror, outlineOf, Section.filterMap_pair?, List.forall₂_map_right_iff,
    List.forall₂_same]
  intro s hs
  obtain ⟨hopener, hkind⟩ := opener_of_mem_sections (List.mem_filter.mp hs).1
  have hiff := keepsGroups_iff herror hopener hkind
  exact ⟨s.makes_pair, hiff, fun hblanks => hiff.mpr (bracesOf_bindingOf hblanks)⟩

/-- Escaped braces, blanks in and around a group, and an escaped blank that stands before no brace;
then a blank whose backslash comes to stand before a brace. -/
theorem binding_keeps_groups_iff_of_blanks :
    let source := "# a \\\x7b \x7bb , c\\\x7d\x7d \\ d\nx \x7b1,2\x7d\n# e\\ \x7bf\x7d\ny\n".toList
    let o : Outline := ⟨.standard, [],
      [⟨"a\\\x7b\x7bb,c\\\x7d\x7d\\d".toList, "x \x7b1,2\x7d".toList, 1⟩,
        ⟨"e\\\x7bf\x7d".toList, "y".toList, 3⟩]⟩
    (outline source).1 = .ok o ∧
      List.Forall₂
        (fun s p => s.Makes p ∧
          (KeepsGroups s.opener p.binding ↔ bracesOf s.opener.text = bracesOf p.binding) ∧
          ((∀ x ∈ marked false s.opener.text, x.2 = true → isBlank x.1 = false) →
            KeepsGroups s.opener p.binding))
        ((sections (tokens source).tokens).filter Section.carries) o.pairs :=
  ⟨by decide +kernel, binding_keeps_groups_iff _ _ (by decide +kernel)⟩

/-- Behind an escaped blank a group is lost: without the blank, the backslash escapes the brace.
The scanner closes the group, and the template of the binding has none. -/
theorem group_lost_behind_escaped_blank :
    let source := "# a\\ \x7bb,c\x7d\nx \x7b1,2\x7d\n".toList
    let opener : Token := ⟨.keybinding, "# a\\ \x7bb,c\x7d\n".toList, 1⟩
    let binding := "a\\\x7bb,c\x7d".toList
    (outline source).1 = .ok ⟨.standard, [], [⟨binding, "x \x7b1,2\x7d".toList, 1⟩]⟩ ∧
      (sections (tokens source).tokens).map Section.opener = [opener] ∧
      opener.groups = [encode "b,c".toList] ∧
      groupTexts binding = [] ∧
      ¬KeepsGroups opener binding := by
  intro source opener binding
  have hscanned : opener.groups = [encode "b,c".toList] := by decide +kernel
  have hnone : groupTexts binding = [] := by decide +kernel
  refine ⟨by decide +kernel, by decide +kernel, hscanned, hnone, fun h => ?_⟩
  have hgroups := h.groups
  rw [hscanned, hnone] at hgroups
  cases hgroups

end Hotkeys.Config
