import Hotkeys.Proofs.Text.Escapes
import Mathlib.Data.List.Forall2

/-!
# Groups of marked characters

A reading of groups that is told of each character whether it is escaped (`groupsOf`), and the marks
that it depends on (`decisive`).  If two markings of the same characters agree on these marks, they
are read alike (`groupsOf_congr`).

The converse does not hold for all markings, but it does if one of the two is that of the characters
themselves, as escapes make it.  Then a group that one reading finds ends outside of an escape, so
that its closing brace closes one in the other reading as well (`closings_of_groupsOf`).  As both
find the same number of groups, they agree on all closing braces (`agree_of_count`), and then on the
opening ones, since otherwise a group would be longer for one reading than for the other
(`decisive_eq_of_agree`).
-/

set_option autoImplicit false

namespace Hotkeys.Config

open Text (marked endsEscaping)

/-! ## Reading groups -/

/-- The groups of marked characters, unless the braces do not match; `inside` is what the open group
holds so far.  In a group an opening brace is an ordinary character. -/
def groupsOf : (inside : Option Text) → List (Char × Bool) → Option (List Text)
  | none, [] => some []
  | some _, [] => none
  | none, x :: rest =>
    if x = ('{', false) then groupsOf (some []) rest
    else if x = ('}', false) then none
    else groupsOf none rest
  | some group, x :: rest =>
    if x = ('}', false) then (groupsOf none rest).map (group :: ·)
    else groupsOf (some (group ++ [x.1])) rest

/-- The marks that decide about groups: those of closing braces, and outside of groups those of
opening braces. -/
def decisive : (inside : Bool) → List (Char × Bool) → List (Char × Bool)
  | _, [] => []
  | inside, x :: rest =>
    if x.1 = '}' then x :: decisive (inside && x.2) rest
    else if x.1 = '{' ∧ inside = false then x :: decisive (!x.2) rest
    else decisive inside rest

section Equations

variable {x : Char × Bool} (rest : List (Char × Bool))

theorem groupsOf_opening :
    groupsOf none (('{', false) :: rest) = groupsOf (some []) rest := rfl

theorem groupsOf_closing (group : Text) :
    groupsOf (some group) (('}', false) :: rest) = (groupsOf none rest).map (group :: ·) := rfl

theorem groupsOf_outside (hopening : x ≠ ('{', false)) (hclosing : x ≠ ('}', false)) :
    groupsOf none (x :: rest) = groupsOf none rest := by
  rw [groupsOf, if_neg hopening, if_neg hclosing]

theorem groupsOf_inside (group : Text) (hclosing : x ≠ ('}', false)) :
    groupsOf (some group) (x :: rest) = groupsOf (some (group ++ [x.1])) rest := by
  rw [groupsOf, if_neg hclosing]

/-- A character that decides nothing goes into the open group, if there is one. -/
theorem groupsOf_of_ne {inside : Option Text} (hclosing : x.1 ≠ '}')
    (hopening : x.1 = '{' → inside.isSome = true) :
    groupsOf inside (x :: rest) = groupsOf (inside.map (· ++ [x.1])) rest := by
  have hnot : x ≠ ('}', false) := fun heq => hclosing (congrArg Prod.fst heq)
  cases inside with
  | some group => exact groupsOf_inside rest group hnot
  | none =>
      refine groupsOf_outside rest (fun heq => ?_) hnot
      exact Bool.false_ne_true (hopening (congrArg Prod.fst heq))

theorem decisive_of_ne (inside : Bool) (hclosing : x.1 ≠ '}')
    (hopening : x.1 = '{' → inside = true) :
    decisive inside (x :: rest) = decisive inside rest := by
  rw [decisive, if_neg hclosing, if_neg]
  rintro ⟨hbrace, houtside⟩
  exact Bool.false_ne_true (houtside.symm.trans (hopening hbrace))

end Equations

/-- A brace that decides nothing stands in a group. -/
theorem isSome_of_brace {c : Char} {inside : Option Text} (h : ¬(c = '{' ∧ inside = none))
    (hbrace : c = '{') : inside.isSome = true :=
  Option.isSome_iff_ne_none.mpr fun hnone => h ⟨hbrace, hnone⟩

/-! ## Markings that agree -/

/-- Two markings of the same characters are read alike if they agree on the marks that decide. -/
theorem groupsOf_congr {as bs : List (Char × Bool)} (h : List.Forall₂ (fun a b => a.1 = b.1) as bs)
    (inside : Option Text) (hdecisive : decisive inside.isSome as = decisive inside.isSome bs) :
    groupsOf inside as = groupsOf inside bs := by
  induction h generalizing inside with
  | nil => rfl
  | @cons a b as bs hab _ ih =>
      obtain ⟨c, x⟩ := a
      obtain ⟨d, y⟩ := b
      obtain rfl : c = d := hab
      by_cases hclosing : c = '}'
      · subst hclosing
        obtain ⟨hmark, hrest⟩ := List.cons.inj hdecisive
        cases hmark
        cases inside with
        | none =>
            cases x with
            | false => rfl
            | true => exact ih none hrest
        | some group =>
            cases x with
            | false => exact congrArg (Option.map (group :: ·)) (ih none hrest)
            | true => exact ih (some (group ++ ['}'])) hrest
      by_cases hopening : c = '{' ∧ inside = none
      · obtain ⟨rfl, rfl⟩ := hopening
        obtain ⟨hmark, hrest⟩ := List.cons.inj hdecisive
        cases hmark
        cases x with
        | false => exact ih (some []) hrest
        | true => exact ih none hrest
      have hinside : c = '{' → inside.isSome = true := isSome_of_brace hopening
      rw [decisive_of_ne _ _ hclosing hinside, decisive_of_ne _ _ hclosing hinside] at hdecisive
      rw [groupsOf_of_ne _ hclosing hinside, groupsOf_of_ne _ hclosing hinside]
      exact ih _ (by rwa [Option.isSome_map])

/-! ## Closing braces -/

/-- As escapes mark a text, each of its groups ends outside of an escape: its closing brace is not
escaped. -/
theorem endsEscaping_of_groupsOf {inside : Option Text} {escaped : Bool} {t : Text}
    {groups : List Text} (h : groupsOf inside (marked escaped t) = some groups)
    (hinside : ∀ group ∈ inside, escaped = endsEscaping false group) :
    ∀ group ∈ groups, endsEscaping false group = false := by
  induction t generalizing inside escaped groups with
  | nil =>
      cases inside with
      | none =>
          cases h
          exact List.forall_mem_nil _
      | some group => cases h
  | cons c cs ih =>
      rw [marked] at h
      cases inside with
      | none =>
          by_cases hopening : (c, escaped) = ('{', false)
          · cases hopening
            refine ih h fun group hgroup => ?_
            cases hgroup
            rfl
          by_cases hclosing : (c, escaped) = ('}', false)
          · cases hclosing
            cases h
          rw [groupsOf_outside _ hopening hclosing] at h
          exact ih h fun _ hnone => by cases hnone
      | some group =>
          have hgroup : escaped = endsEscaping false group := hinside group rfl
          by_cases hclosing : (c, escaped) = ('}', false)
          · cases hclosing
            obtain ⟨more, hmore, rfl⟩ := Option.map_eq_some_iff.mp h
            exact List.forall_mem_cons.mpr ⟨hgroup.symm, ih hmore fun _ hnone => by cases hnone⟩
          rw [groupsOf_inside _ _ hclosing] at h
          refine ih h fun longer hlonger => ?_
          cases hlonger
          rw [Text.endsEscaping_append, ← hgroup]
          rfl

/-- If the groups that a marking is read to end outside of escapes, then where it closes one the
escapes mark a closing brace, too. -/
theorem closings_of_groupsOf {inside : Option Text} {escaped : Bool} {as : List (Char × Bool)}
    {groups : List Text} (h : groupsOf inside as = some groups)
    (hwhole : ∀ group ∈ groups, endsEscaping false group = false)
    (hinside : ∀ group ∈ inside, escaped = endsEscaping false group) :
    List.Forall₂ (fun a b => a.1 = b.1 ∧ (a = ('}', false) → b = ('}', false))) as
      (marked escaped (as.map Prod.fst)) := by
  -- The escapes are read along with the open group: `escaped` says whether that ends in one.
  induction as generalizing inside escaped groups with
  | nil => exact .nil
  | cons a as ih =>
      rw [List.map_cons, marked]
      cases inside with
      | none =>
          by_cases hopening : a = ('{', false)
          · subst hopening
            refine .cons ⟨rfl, by simp⟩ (ih h hwhole fun group hgroup => ?_)
            cases hgroup
            exact Bool.and_false _
          by_cases hclosing : a = ('}', false)
          · subst hclosing
            cases h
          rw [groupsOf_outside _ hopening hclosing] at h
          exact .cons ⟨rfl, fun heq => absurd heq hclosing⟩
            (ih h hwhole fun _ hnone => by cases hnone)
      | some group =>
          have hgroup : escaped = endsEscaping false group := hinside group rfl
          by_cases hclosing : a = ('}', false)
          · subst hclosing
            obtain ⟨more, hmore, rfl⟩ := Option.map_eq_some_iff.mp h
            obtain ⟨hend, hrest⟩ := List.forall_mem_cons.mp hwhole
            -- The group ends here outside of an escape, and so the brace is not escaped.
            refine .cons ⟨rfl, fun _ => ?_⟩ (ih hmore hrest fun _ hnone => by cases hnone)
            rw [hgroup, hend]
          rw [groupsOf_inside _ _ hclosing] at h
          refine .cons ⟨rfl, fun heq => absurd heq hclosing⟩
            (ih h hwhole fun longer hlonger => ?_)
          cases hlonger
          rw [Text.endsEscaping_append, ← hgroup]
          rfl

/-- There are as many groups as closing braces. -/
theorem length_of_groupsOf {inside : Option Text} {marks : List (Char × Bool)}
    {groups : List Text} (h : groupsOf inside marks = some groups) :
    groups.length = marks.count ('}', false) := by
  fun_induction groupsOf inside marks generalizing groups with
  | case1 =>
      cases h
      rfl
  | case2 => cases h
  | case3 rest ih => exact (ih h).trans (List.count_cons_of_ne (by decide)).symm
  | case4 => cases h
  | case5 x rest _ hclosing ih =>
      exact (ih h).trans (List.count_cons_of_ne hclosing).symm
  | case6 group rest ih =>
      obtain ⟨more, hmore, rfl⟩ := Option.map_eq_some_iff.mp h
      rw [List.length_cons, List.count_cons_self, ih hmore]
  | case7 group x rest hclosing ih =>
      exact (ih h).trans (List.count_cons_of_ne hclosing).symm

/-- Whether two markings have the same characters and the same marks on closing braces. -/
abbrev Agree (as bs : List (Char × Bool)) : Prop :=
  List.Forall₂ (fun a b => a.1 = b.1 ∧ (a.1 = '}' → a.2 = b.2)) as bs

theorem count_le_of_closings {as bs : List (Char × Bool)}
    (h : List.Forall₂ (fun a b => a.1 = b.1 ∧ (a = ('}', false) → b = ('}', false))) as bs) :
    as.count ('}', false) ≤ bs.count ('}', false) := by
  induction h with
  | nil => exact Nat.le_refl _
  | @cons a b as bs hab _ ih =>
      by_cases ha : a = ('}', false)
      · rw [ha, hab.2 ha, List.count_cons_self, List.count_cons_self]
        exact Nat.succ_le_succ ih
      · rw [List.count_cons_of_ne ha]
        exact Nat.le_trans ih List.count_le_count_cons

/-- Where one marking has all the closing braces of the other, and not more of them, the two agree
on closing braces. -/
theorem agree_of_count {as bs : List (Char × Bool)}
    (h : List.Forall₂ (fun a b => a.1 = b.1 ∧ (a = ('}', false) → b = ('}', false))) as bs)
    (hcount : bs.count ('}', false) ≤ as.count ('}', false)) : Agree as bs := by
  induction h with
  | nil => exact .nil
  | @cons a b as bs hab hrest ih =>
      by_cases ha : a = ('}', false)
      · have hb := hab.2 ha
        rw [ha, hb, List.count_cons_self, List.count_cons_self] at hcount
        exact .cons ⟨hab.1, fun _ => by rw [ha, hb]⟩ (ih (Nat.le_of_succ_le_succ hcount))
      · have hle := count_le_of_closings hrest
        rw [List.count_cons_of_ne ha] at hcount
        have hb : b ≠ ('}', false) := by
          rintro rfl
          rw [List.count_cons_self] at hcount
          omega
        rw [List.count_cons_of_ne hb] at hcount
        refine .cons ⟨hab.1, fun hbrace => ?_⟩ (ih hcount)
        obtain ⟨c, x⟩ := a
        obtain ⟨d, y⟩ := b
        obtain rfl : c = d := hab.1
        obtain rfl : c = '}' := hbrace
        have hx : x = true := by simpa using ha
        have hy : y = true := by simpa using hb
        exact hx.trans hy.symm

theorem Agree.symm {as bs : List (Char × Bool)} (h : Agree as bs) : Agree bs as :=
  h.flip.imp fun _ _ hab => ⟨hab.1.symm, fun hbrace => (hab.2 (hab.1.trans hbrace)).symm⟩

/-! ## Opening braces -/

section Opening

variable {as bs : List (Char × Bool)}

/-- Two open groups are closed at the same brace, after the same characters. -/
theorem exists_common_end (h : Agree as bs) {longer shorter : Text} {more others : List Text}
    (hlonger : groupsOf (some longer) as = some more)
    (hshorter : groupsOf (some shorter) bs = some others) :
    ∃ tail more' others', more = (longer ++ tail) :: more' ∧
      others = (shorter ++ tail) :: others' := by
  induction h generalizing longer shorter more others with
  | nil => cases hlonger
  | @cons a b as bs hab _ ih =>
      obtain ⟨c, x⟩ := a
      obtain ⟨d, y⟩ := b
      obtain ⟨rfl, hmark⟩ : c = d ∧ (c = '}' → x = y) := hab
      by_cases hclosing : (c, x) = ('}', false)
      · obtain ⟨rfl, rfl⟩ := Prod.mk.inj hclosing
        obtain rfl := hmark rfl
        obtain ⟨more', -, rfl⟩ := Option.map_eq_some_iff.mp hlonger
        obtain ⟨others', -, rfl⟩ := Option.map_eq_some_iff.mp hshorter
        exact ⟨[], more', others', by rw [List.append_nil], by rw [List.append_nil]⟩
      · have hclosing' : (c, y) ≠ ('}', false) := by
          rintro heq
          obtain ⟨rfl, rfl⟩ := Prod.mk.inj heq
          exact hclosing (by rw [hmark rfl])
        rw [groupsOf_inside _ _ hclosing] at hlonger
        rw [groupsOf_inside _ _ hclosing'] at hshorter
        obtain ⟨tail, more', others', hmore, hothers⟩ := ih hlonger hshorter
        refine ⟨c :: tail, more', others', ?_, ?_⟩
        · rw [hmore, List.append_assoc]
          rfl
        · rw [hothers, List.append_assoc]
          rfl

/-- If a group is open for one marking and none for the other, the first group is longer for the
one than for the other, since both close it at the same brace. -/
theorem exists_longer (h : Agree as bs) {group : Text} {more others : List Text}
    (hinside : groupsOf (some group) as = some more) (houtside : groupsOf none bs = some others) :
    ∃ longer shorter more' others', more = longer :: more' ∧ others = shorter :: others' ∧
      shorter.length < longer.length := by
  induction h generalizing group with
  | nil => cases hinside
  | @cons a b as bs hab hrest ih =>
      obtain ⟨c, x⟩ := a
      obtain ⟨d, y⟩ := b
      obtain ⟨rfl, hmark⟩ : c = d ∧ (c = '}' → x = y) := hab
      have hclosing' : (c, y) ≠ ('}', false) := by
        rintro heq
        rw [heq] at houtside
        cases houtside
      have hclosing : (c, x) ≠ ('}', false) := by
        rintro heq
        obtain ⟨rfl, rfl⟩ := Prod.mk.inj heq
        exact hclosing' (by rw [hmark rfl])
      rw [groupsOf_inside _ _ hclosing] at hinside
      by_cases hopening : (c, y) = ('{', false)
      · rw [hopening, groupsOf_opening] at houtside
        obtain ⟨tail, more', others', rfl, rfl⟩ := exists_common_end hrest hinside houtside
        refine ⟨_, _, more', others', rfl, rfl, ?_⟩
        simp only [List.length_append, List.length_nil, List.length_singleton]
        omega
      · rw [groupsOf_outside _ hopening hclosing'] at houtside
        exact ih hinside houtside

theorem not_inside_and_outside (h : Agree as bs) {group : Text} {groups : List Text}
    (hinside : groupsOf (some group) as = some groups) : groupsOf none bs ≠ some groups := by
  intro houtside
  obtain ⟨longer, shorter, more, others, rfl, hothers, hlt⟩ := exists_longer h hinside houtside
  rw [(List.cons.inj hothers).1] at hlt
  exact Nat.lt_irrefl _ hlt

/-- Markings that agree on closing braces and are read to the same groups agree on all marks that
decide. -/
theorem decisive_eq_of_agree (h : Agree as bs) {inside : Option Text} {groups : List Text}
    (has : groupsOf inside as = some groups) (hbs : groupsOf inside bs = some groups) :
    decisive inside.isSome as = decisive inside.isSome bs := by
  induction h generalizing inside groups with
  | nil => rfl
  | @cons a b as bs hab hrest ih =>
      obtain ⟨c, x⟩ := a
      obtain ⟨d, y⟩ := b
      obtain ⟨rfl, hmark⟩ : c = d ∧ (c = '}' → x = y) := hab
      by_cases hclosing : c = '}'
      · subst hclosing
        obtain rfl := hmark rfl
        refine congrArg (('}', x) :: ·) ?_
        cases inside with
        | none =>
            cases x with
            | false => cases has
            | true => exact @ih none _ has hbs
        | some group =>
            cases x with
            | false =>
                obtain ⟨more, hmore, rfl⟩ := Option.map_eq_some_iff.mp has
                obtain ⟨more', hmore', heq⟩ := Option.map_eq_some_iff.mp hbs
                obtain rfl := (List.cons.inj heq).2
                exact @ih none _ hmore hmore'
            | true => exact @ih (some (group ++ ['}'])) _ has hbs
      by_cases hopening : c = '{' ∧ inside = none
      · obtain ⟨rfl, rfl⟩ := hopening
        cases x with
        | false =>
            cases y with
            | false => exact congrArg (('{', false) :: ·) (@ih (some []) _ has hbs)
            | true => exact absurd hbs (not_inside_and_outside hrest has)
        | true =>
            cases y with
            | false => exact absurd has (not_inside_and_outside (Agree.symm hrest) hbs)
            | true => exact congrArg (('{', true) :: ·) (@ih none _ has hbs)
      have hinside : c = '{' → inside.isSome = true := isSome_of_brace hopening
      rw [groupsOf_of_ne _ hclosing hinside] at has hbs
      rw [decisive_of_ne _ _ hclosing hinside, decisive_of_ne _ _ hclosing hinside]
      have hrest' := ih has hbs
      rwa [Option.isSome_map] at hrest'

end Opening

/-! ## Escapes of a text -/

/-- A marking of the characters of a text that can be read is read as escapes mark them, if and only
if it agrees with the escapes on the marks that decide. -/
theorem groupsOf_marked_iff {as : List (Char × Bool)} {groups : List Text}
    (h : groupsOf none as = some groups) :
    groupsOf none (marked false (as.map Prod.fst)) = some groups ↔
      decisive false as = decisive false (marked false (as.map Prod.fst)) := by
  constructor
  · intro hmarked
    have hwhole := endsEscaping_of_groupsOf hmarked fun _ hnone => by cases hnone
    have hclosings := @closings_of_groupsOf none false as groups h hwhole fun _ hnone => by
      cases hnone
    have hcount := (length_of_groupsOf hmarked).symm.trans (length_of_groupsOf h)
    exact decisive_eq_of_agree (agree_of_count hclosings (Nat.le_of_eq hcount)) h hmarked
  · intro hdecisive
    have hsame : List.Forall₂ (fun a b : Char × Bool => a.1 = b.1) as
        (marked false (as.map Prod.fst)) := by
      have hmap := (Text.map_fst_marked false (as.map Prod.fst)).symm
      rw [← List.forall₂_eq_eq_eq, List.forall₂_map_left_iff, List.forall₂_map_right_iff] at hmap
      exact hmap
    rw [← groupsOf_congr hsame none hdecisive, h]

end Hotkeys.Config
