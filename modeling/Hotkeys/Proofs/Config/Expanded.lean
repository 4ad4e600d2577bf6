import Hotkeys.Proofs.Config.Candidates

/-!
# The pairs of an expansion

Main statement: the pairs that a pair is expanded to are those of the choices of one alternative
for each group, each chord once (`expand_eq_choices`).
-/

set_option autoImplicit false

namespace Hotkeys.Config

/-! ## First elements -/

section Firsts

variable {α : Type} (key : α → Text)

theorem firstsFrom_sublist (seen : List Text) (elements : List α) :
    List.Sublist (firstsFrom key seen elements) elements := by
  fun_induction firstsFrom key seen elements with
  | case1 => exact .refl []
  | case2 seen a as _ ih => exact ih.cons a
  | case3 seen a as _ ih => exact ih.cons_cons a

/-- The keys of the elements that stay are new and different from each other. -/
theorem nodup_firstsFrom (seen : List Text) (elements : List α) :
    (∀ a ∈ firstsFrom key seen elements, key a ∉ seen) ∧
      ((firstsFrom key seen elements).map key).Nodup := by
  fun_induction firstsFrom key seen elements with
  | case1 => exact ⟨fun a ha => absurd ha List.not_mem_nil, List.nodup_nil⟩
  | case2 seen a as _ ih => exact ih
  | case3 seen a as hseen ih =>
      rw [List.contains_iff_mem] at hseen
      refine ⟨List.forall_mem_cons.mpr ⟨hseen, fun b hb h => ?_⟩, ?_⟩
      · exact ih.1 b hb (List.mem_cons_of_mem _ h)
      · rw [List.map_cons, List.nodup_cons]
        refine ⟨fun hmem => ?_, ih.2⟩
        obtain ⟨b, hb, hkey⟩ := List.mem_map.mp hmem
        exact ih.1 b hb (hkey ▸ List.mem_cons_self)

/-- No key is lost. -/
theorem exists_firstsFrom (seen : List Text) (elements : List α) {a : α} (ha : a ∈ elements) :
    key a ∈ seen ∨ ∃ b ∈ firstsFrom key seen elements, key b = key a := by
  fun_induction firstsFrom key seen elements with
  | case1 => exact absurd ha List.not_mem_nil
  | case2 seen first as hseen ih =>
      rcases List.mem_cons.mp ha with rfl | ha
      · exact Or.inl (List.contains_iff_mem.mp hseen)
      · exact ih ha
  | case3 seen first as _ ih =>
      rcases List.mem_cons.mp ha with rfl | ha
      · exact Or.inr ⟨a, List.mem_cons_self, rfl⟩
      · rcases ih ha with hseen | ⟨b, hb, hkey⟩
        · rcases List.mem_cons.mp hseen with hfirst | hseen
          · exact Or.inr ⟨first, List.mem_cons_self, hfirst.symm⟩
          · exact Or.inl hseen
        · exact Or.inr ⟨b, List.mem_cons_of_mem _ hb, hkey⟩

end Firsts

/-! ## Bindings with groups -/

theorem closing_of_readGroup {t : Text} {g : List Text × Text} (h : readGroup t = some g) :
    '}' ∈ t := by
  fun_induction readGroup t generalizing g with
  | case1 => exact absurd h.symm (Option.some_ne_none _)
  | case2 => exact absurd h.symm (Option.some_ne_none _)
  | case3 d ds ih =>
      obtain ⟨g', hg, -⟩ := Option.map_eq_some_iff.mp h
      exact List.mem_cons_of_mem _ (List.mem_cons_of_mem _ (ih hg))
  | case4 cs _ ih =>
      obtain ⟨g', hg, -⟩ := Option.map_eq_some_iff.mp h
      exact List.mem_cons_of_mem _ (ih hg)
  | case5 => exact List.mem_cons_self
  | case6 => exact absurd h.symm (Option.some_ne_none _)
  | case7 _ cs _ _ _ _ ih =>
      obtain ⟨g', hg, -⟩ := Option.map_eq_some_iff.mp h
      exact List.mem_cons_of_mem _ (ih hg)

/-- A closing brace behind any opening one is behind the first one. -/
theorem hasGroup_of_braces (before : Text) {rest : Text} (h : '}' ∈ rest) :
    hasGroup (before ++ '{' :: rest) = true := by
  have hsplit : ∃ cut, Text.splitFirst '{' (before ++ '{' :: rest) = some cut ∧ '}' ∈ cut.2 := by
    induction before with
    | nil => exact ⟨([], rest), rfl, h⟩
    | cons c before ih =>
        obtain ⟨cut, hcut, hclosing⟩ := ih
        rw [List.cons_append, Text.splitFirst, hcut]
        split
        case isTrue => exact ⟨_, rfl, List.mem_append_right _ (List.mem_cons_of_mem _ h)⟩
        case isFalse => exact ⟨_, rfl, hclosing⟩
  obtain ⟨cut, hcut, hclosing⟩ := hsplit
  rw [hasGroup, hcut]
  exact List.contains_iff_mem.mpr hclosing

theorem Template.groups_extend (lead : Text) (t : Template) :
    (Template.extend lead t).groups = t.groups := by
  unfold extend
  split <;> rfl

/-- What the empty template has, and what putting a text or a group that was read in front keeps,
every template of a text has. -/
theorem Template.ofText_induction {P : Template → Prop} (nil : P [])
    (extend : ∀ {lead : Text} {t : Template}, lead ≠ [] → P t → P (Template.extend lead t))
    (group : ∀ {cs rest : Text} {members : List Text} {t : Template},
      readGroup cs = some (members, rest) → P t → P (.group members :: t))
    (t : Text) : P (Template.ofText t) := by
  fun_induction Template.ofText t with
  | case1 => exact nil
  | case2 => exact extend (List.cons_ne_nil _ _) nil
  | case3 d ds ih => exact extend (List.cons_ne_nil _ _) ih
  | case4 cs members rest hread _ ih => exact group hread ih
  | case5 cs _ _ ih => exact extend (List.cons_ne_nil _ _) ih
  | case6 c cs _ _ ih => exact extend (List.cons_ne_nil _ _) ih

/-- Where a template has a group, its text has braces in order. -/
theorem exists_braces_of_groups {t : Text} (h : (Template.ofText t).groups ≠ []) :
    ∃ before rest, t = before ++ '{' :: rest ∧ '}' ∈ rest := by
  fun_induction Template.ofText t with
  | case1 => exact absurd rfl h
  | case2 => exact absurd rfl h
  | case3 d ds ih =>
      rw [Template.groups_extend] at h
      obtain ⟨before, rest, rfl, hclosing⟩ := ih h
      exact ⟨'\\' :: d :: before, rest, rfl, hclosing⟩
  | case4 cs members rest hread => exact ⟨[], cs, rfl, closing_of_readGroup hread⟩
  | case5 cs _ _ ih =>
      rw [Template.groups_extend] at h
      obtain ⟨before, rest, rfl, hclosing⟩ := ih h
      exact ⟨'{' :: before, rest, rfl, hclosing⟩
  | case6 c cs _ _ ih =>
      rw [Template.groups_extend] at h
      obtain ⟨before, rest, rfl, hclosing⟩ := ih h
      exact ⟨c :: before, rest, rfl, hclosing⟩

/-- A binding with a group in it is one that may have to be expanded. -/
theorem hasVariant_of_groups {p : Pair} (h : (Template.ofText p.binding).groups ≠ []) :
    p.hasVariant = true := by
  obtain ⟨before, rest, hbinding, hclosing⟩ := exists_braces_of_groups h
  rw [Pair.hasVariant, hbinding]
  exact hasGroup_of_braces before hclosing

/-! ## All pairs -/

/-- The cells of a pair, a row for each group. -/
def Pair.rows (p : Pair) : List (List Cell) :=
  List.zipWith List.zip (Template.ofText p.binding).groups (Template.ofText p.command).groups

/-- The pairs that a pair with groups stands for, in order, a chord as often as it comes up.  The
cells are assigned their alternatives, those of the first cell varying slowest, and each assignment
yields one pair for each choice of one member from each group, the first group varying slowest. -/
def Pair.assigned (p : Pair) : List Pair :=
  (selections (p.rows.map fun row => selections (row.map alternatives))).flatMap fun rows =>
    (selections rows).map (chosenPair p)

theorem candidatePairs_ofRows (binding command : Template) (line : Nat) (rows : List (List Cell)) :
    candidatePairs binding command line (.ofRows rows) =
      (selections (rows.map (List.map Cell.value))).map fun chosen =>
        { binding := collapse (binding.fill (chosen.map Prod.fst))
          command := command.fill (chosen.map Prod.snd)
          line } := by
  have hsizes : (Candidate.ofRows rows).binding.map List.length = rows.map List.length := by
    rw [Candidate.ofRows, List.map_map]
    exact List.map_congr_left fun row _ => List.length_map _
  have hchoices := map_choices rows fun bs cs =>
    ({ binding := collapse (binding.render bs), command := command.render cs, line } : Pair)
  simp only [Template.render_eq_fill, List.map_map] at hchoices
  rw [candidatePairs, hsizes, selections_map, List.map_map]
  simp only [Template.render_eq_fill, Function.comp_def, List.map_map]
  exact hchoices

/-- Groups of equal sizes are the two sides of rows. -/
theorem zipWith_zip_sides {bs cs : List (List Text)} (hlength : bs.length = cs.length)
    (heven : unevenGroup? bs cs = none) :
    (List.zipWith List.zip bs cs).map (List.map Prod.fst) = bs ∧
      (List.zipWith List.zip bs cs).map (List.map Prod.snd) = cs := by
  fun_induction unevenGroup? bs cs with
  | case1 b bs c cs hsize ih =>
      obtain ⟨hbs, hcs⟩ := ih (Nat.succ.inj hlength) (Option.map_eq_none_iff.mp heven)
      rw [List.zipWith_cons_cons, List.map_cons, List.map_cons, hbs, hcs,
        List.map_fst_zip (Nat.le_of_eq hsize), List.map_snd_zip (Nat.le_of_eq hsize.symm)]
      exact ⟨rfl, rfl⟩
  | case2 => exact absurd heven (Option.some_ne_none _)
  | case3 bs cs hcons =>
      match bs, cs, hlength with
      | [], [], _ => exact ⟨rfl, rfl⟩
      | b :: bs, c :: cs, _ => exact absurd rfl (hcons b bs c cs rfl)

/-- The expansion goes through the assignments and the choices in their order. -/
theorem allPairs_eq_assigned {p : Pair} {all : List Pair} (h : allPairs p = .ok all) :
    all = p.assigned := by
  rw [allPairs] at h
  split at h
  case isTrue => cases h
  case isFalse hlength =>
    split at h
    case h_1 => cases h
    case h_2 heven =>
      obtain ⟨ranges, hranges, hall⟩ := exists_of_bind_eq_ok h
      cases hall
      obtain ⟨hbs, hcs⟩ := zipWith_zip_sides (not_not.mp hlength) heven
      have hcandidate : Candidate.ofRows p.rows =
          ⟨(Template.ofText p.binding).groups, (Template.ofText p.command).groups⟩ := by
        rw [Candidate.ofRows, Pair.rows, hbs, hcs]
      have hrows : rangesFrom 0 (p.rows.map (List.map Prod.fst)) (p.rows.map (List.map Prod.snd)) =
          .ok ranges := by
        rw [Pair.rows, hbs, hcs]
        exact hranges
      obtain ⟨resolved, hvalues, hresolve⟩ := exists_resolve_rows hrows
      rw [← hcandidate, ← List.nil_append p.rows, hresolve [] rfl, Pair.assigned, ← hvalues,
        selections_map, List.flatMap_map, List.flatMap_map]
      refine List.flatMap_congr fun rows _ => ?_
      rw [List.nil_append, candidatePairs_ofRows]
      rfl

/-- Some selection has an element just when one of the lists has it, if none of them is empty. -/
theorem exists_mem_selections {α : Type} {ls : List (List α)} (h : ∀ l ∈ ls, l ≠ []) {a : α} :
    (∃ as ∈ selections ls, a ∈ as) ↔ a ∈ ls.flatten := by
  induction ls with
  | nil =>
      refine iff_of_false ?_ List.not_mem_nil
      rintro ⟨as, has, ha⟩
      rw [List.mem_singleton.mp has] at ha
      exact List.not_mem_nil ha
  | cons l ls ih =>
      obtain ⟨hl, hls⟩ := List.forall_mem_cons.mp h
      rw [List.flatten_cons, List.mem_append, ← ih hls]
      simp only [mem_selections, List.forall₂_cons_right_iff]
      constructor
      · rintro ⟨_, ⟨b, bs, hb, hbs, rfl⟩, ha⟩
        rcases List.mem_cons.mp ha with rfl | ha
        · exact Or.inl hb
        · exact Or.inr ⟨bs, hbs, ha⟩
      · rintro (ha | ⟨bs, hbs, ha⟩)
        · -- The other lists may give anything: they are not looked at.
          obtain ⟨bs, hbs⟩ := List.exists_mem_of_ne_nil _ (selections_ne_nil hls)
          exact ⟨a :: bs, ⟨a, bs, ha, mem_selections.mp hbs, rfl⟩, List.mem_cons_self⟩
        · obtain ⟨b, hb⟩ := List.exists_mem_of_ne_nil _ hl
          exact ⟨b :: bs, ⟨b, bs, hb, hbs, rfl⟩, List.mem_cons_of_mem _ ha⟩

/-- What can be chosen from assigned rows are the alternatives of the rows. -/
theorem exists_assignment_iff (rows : List (List Cell)) (chosen : List Cell) :
    (∃ assigned, List.Forall₂ (· ∈ ·) assigned
        (rows.map fun row => selections (row.map alternatives)) ∧
      List.Forall₂ (· ∈ ·) chosen assigned) ↔
      List.Forall₂ (· ∈ ·) chosen (rows.map (List.flatMap alternatives)) := by
  induction rows generalizing chosen with
  | nil => simp only [List.map_nil, List.forall₂_nil_right_iff, exists_eq_left]
  | cons row rows ih =>
      have hcells : ∀ l ∈ row.map alternatives, l ≠ [] := fun l hl => by
        obtain ⟨cell, -, rfl⟩ := List.mem_map.mp hl
        exact alternatives_ne_nil cell
      have hrow := fun a => exists_mem_selections hcells (a := a)
      simp only [List.map_cons, List.forall₂_cons_right_iff, ← ih, List.flatMap_def, ← hrow]
      constructor
      · rintro ⟨_, ⟨as, assigned, has, hassigned, rfl⟩, hchosen⟩
        obtain ⟨a, others, ha, hothers, rfl⟩ := List.forall₂_cons_right_iff.mp hchosen
        exact ⟨a, others, ⟨as, has, ha⟩, ⟨assigned, hassigned, hothers⟩, rfl⟩
      · rintro ⟨a, others, ⟨as, has, ha⟩, ⟨assigned, hassigned, hothers⟩, rfl⟩
        exact ⟨as :: assigned, ⟨as, assigned, has, hassigned, rfl⟩, .cons ha hothers⟩

theorem groupAlternatives_eq (p : Pair) :
    groupAlternatives p = p.rows.map (List.flatMap alternatives) :=
  List.map_zipWith.symm

theorem mem_assigned {p q : Pair} :
    q ∈ p.assigned ↔ ∃ chosen, List.Forall₂ (· ∈ ·) chosen (groupAlternatives p) ∧
      q = chosenPair p chosen := by
  rw [groupAlternatives_eq, Pair.assigned, List.mem_flatMap]
  simp only [List.mem_map, mem_selections, ← exists_assignment_iff]
  constructor
  · rintro ⟨assigned, hassigned, chosen, hchosen, rfl⟩
    exact ⟨chosen, ⟨assigned, hassigned, hchosen⟩, rfl⟩
  · rintro ⟨chosen, ⟨assigned, hassigned, hchosen⟩, rfl⟩
    exact ⟨assigned, hassigned, chosen, hchosen, rfl⟩

/-- What a pair stands for, a chord as often as it comes up; a pair without groups stands for
itself. -/
def Pair.meanings (p : Pair) : List Pair :=
  if (Template.ofText p.binding).groups = [] then [p] else p.assigned

theorem expand_of_no_groups {p : Pair} (hgroups : (Template.ofText p.binding).groups = []) :
    expand p = .ok [p] :=
  if_neg fun h => h.2 hgroups

theorem expand_of_groups {p : Pair} (hgroups : (Template.ofText p.binding).groups ≠ []) :
    expand p = (allPairs p).map (firsts fun q => normalText q.binding) :=
  if_pos ⟨hasVariant_of_groups hgroups, hgroups⟩

/-- The expansion keeps the first meaning of each chord. -/
theorem expand_eq_firsts {p : Pair} {pairs : List Pair} (h : expand p = .ok pairs) :
    pairs = firsts (fun q => normalText q.binding) p.meanings := by
  by_cases hgroups : (Template.ofText p.binding).groups = []
  · rw [expand_of_no_groups hgroups] at h
    cases h
    rw [Pair.meanings, if_pos hgroups]
    rfl
  · rw [expand_of_groups hgroups] at h
    rw [Pair.meanings, if_neg hgroups]
    cases hall : allPairs p with
    | error e =>
        rw [hall] at h
        cases h
    | ok all =>
        rw [hall] at h
        cases h
        rw [allPairs_eq_assigned hall]

/-! ## Main statement -/

/-- A pair with groups is expanded to the pairs of the choices of one alternative for each group,
the same on both sides: to such pairs only, to one for the chord of every choice, to none twice for
a chord, and all of them on the line of the pair. -/
theorem expand_eq_choices (p : Pair) (pairs : List Pair)
    (hgroups : (Template.ofText p.binding).groups ≠ []) (h : expand p = .ok pairs) :
    (∀ q ∈ pairs, ∃ chosen, List.Forall₂ (· ∈ ·) chosen (groupAlternatives p) ∧
        q.binding = (chosenPair p chosen).binding ∧ q.command = (chosenPair p chosen).command) ∧
      (∀ chosen, List.Forall₂ (· ∈ ·) chosen (groupAlternatives p) →
        ∃ q ∈ pairs, normalText q.binding = normalText (chosenPair p chosen).binding) ∧
      (pairs.map fun q => normalText q.binding).Nodup ∧
      ∀ q ∈ pairs, q.line = p.line := by
  have hpairs : pairs = firsts (fun q => normalText q.binding) p.assigned := by
    rw [expand_eq_firsts h, Pair.meanings, if_neg hgroups]
  have hkept : ∀ q ∈ pairs, ∃ chosen,
      List.Forall₂ (· ∈ ·) chosen (groupAlternatives p) ∧ q = chosenPair p chosen := by
    intro q hq
    rw [hpairs] at hq
    exact mem_assigned.mp ((firstsFrom_sublist _ [] p.assigned).subset hq)
  refine ⟨fun q hq => ?_, fun chosen hchosen => ?_, ?_, fun q hq => ?_⟩
  · obtain ⟨chosen, hchosen, rfl⟩ := hkept q hq
    exact ⟨chosen, hchosen, rfl, rfl⟩
  · rw [hpairs]
    rcases exists_firstsFrom (fun q => normalText q.binding) [] p.assigned
      (mem_assigned.mpr ⟨chosen, hchosen, rfl⟩) with hseen | hfound
    · exact absurd hseen List.not_mem_nil
    · exact hfound
  · rw [hpairs]
    exact (nodup_firstsFrom _ [] p.assigned).2
  · obtain ⟨chosen, -, rfl⟩ := hkept q hq
    rfl

theorem ok_of_toOption {ε α : Type} {x : Except ε α} {a : α} (h : x.toOption = some a) :
    x = .ok a := by
  cases x with
  | error e => cases h
  | ok b =>
      cases h
      rfl

/-- A `_` that leaves a separator twice, an escape, a range that counts past nine, and a capital
that is the same chord as a small letter. -/
theorem expand_range_and_capital :
    let p : Pair :=
      { binding := "a+\x7b_,1-2\x7d+\x7bx,X\x7d".toList
        command := "go \x7b\\,,9-10\x7d\x7b_,u\x7d".toList
        line := 3 }
    let pairs : List Pair :=
      [⟨"a+x".toList, "go ,".toList, 3⟩, ⟨"a+1+x".toList, "go 9".toList, 3⟩,
        ⟨"a+2+x".toList, "go 10".toList, 3⟩]
    (Template.ofText p.binding).groups ≠ [] ∧ expand p = .ok pairs ∧
      (∀ q ∈ pairs, ∃ chosen, List.Forall₂ (· ∈ ·) chosen (groupAlternatives p) ∧
        q.binding = (chosenPair p chosen).binding ∧ q.command = (chosenPair p chosen).command) ∧
      (∀ chosen, List.Forall₂ (· ∈ ·) chosen (groupAlternatives p) →
        ∃ q ∈ pairs, normalText q.binding = normalText (chosenPair p chosen).binding) ∧
      (pairs.map fun q => normalText q.binding).Nodup ∧
      ∀ q ∈ pairs, q.line = p.line :=
  ⟨by decide +kernel, ok_of_toOption (by decide +kernel),
    expand_eq_choices _ _ (by decide +kernel) (ok_of_toOption (by decide +kernel))⟩

end Hotkeys.Config
