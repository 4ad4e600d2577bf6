import Hotkeys.Proofs.Config.Groups
import Hotkeys.Proofs.Text.Escapes

/-!
# What a template keeps

A template can be written out again, and nothing is lost (`written_ofText`).  The members of its
groups hold none of the characters that would end them (`of_readGroup`), its ordinary texts are as
long as they can be (`isChain_ofText`), and an opening brace stays in one of them only where no
group could be read (`not_mem_of_readGroup_eq_none`, `leavesOpen_ofText`).

Main statement: `template_loses_nothing`.
-/

set_option autoImplicit false

namespace Hotkeys.Config

open Text (join unescaped endsEscaping)

/-! ## Writing a template out -/

/-- A part of a template as it stands in a text. -/
def Segment.written : Segment → Text
  | .text t => t
  | .group members => '{' :: (join [','] members ++ ['}'])

/-- The text of a template with its groups as they stand there. -/
def Template.written (t : Template) : Text :=
  t.flatMap Segment.written

/-- Whether a part of a template is ordinary text. -/
def Segment.isText : Segment → Bool
  | .text _ => true
  | .group _ => false

theorem Template.written_extend (lead : Text) (t : Template) :
    (Template.extend lead t).written = lead ++ t.written := by
  unfold extend
  split
  case h_1 u rest => exact List.append_assoc lead u _
  case h_2 => rfl

/-! ## Members -/

/-- Whether a text can be a member of a group: outside of its escapes nothing in it ends a member, a
group or a line, and it does not end within an escape. -/
structure IsMember (m : Text) : Prop where
  /-- Nothing ends the member early. -/
  plain : ∀ c ∈ unescaped m, c ∉ ['\n', ',', '}']
  /-- The member ends behind its escapes. -/
  whole : endsEscaping false m = false

theorem isMember_nil : IsMember [] :=
  ⟨List.forall_mem_nil _, rfl⟩

theorem IsMember.escape {m : Text} (h : IsMember m) (d : Char) : IsMember (['\\', d] ++ m) := by
  refine ⟨fun c hc => ?_, h.whole⟩
  rcases List.mem_cons.mp hc with rfl | hrest
  · decide
  · exact h.plain c hrest

theorem IsMember.cons {m : Text} (h : IsMember m) {c : Char} (hc : c ∉ ['\\', '\n', ',', '}']) :
    IsMember ([c] ++ m) := by
  rw [List.mem_cons, not_or] at hc
  obtain ⟨hescape, hplain⟩ := hc
  refine ⟨fun d hd => ?_, (Text.endsEscaping_cons hescape false m).trans h.whole⟩
  rw [List.singleton_append, Text.unescaped_cons hescape] at hd
  rcases List.mem_cons.mp hd with rfl | hrest
  · exact hplain
  · exact h.plain d hrest

theorem isMember_of_mem_extendFirst {lead : Text} (hlead : ∀ {m}, IsMember m → IsMember (lead ++ m))
    {members : List Text} (h : ∀ m ∈ members, IsMember m) :
    ∀ m ∈ extendFirst lead members, IsMember m := by
  cases members with
  | nil =>
      have hnil := hlead isMember_nil
      rw [List.append_nil] at hnil
      exact List.forall_mem_singleton.mpr hnil
  | cons m ms =>
      obtain ⟨hm, hms⟩ := List.forall_mem_cons.mp h
      exact List.forall_mem_cons.mpr ⟨hlead hm, hms⟩

/-- What is read as a group stands in the text as it would be written. -/
theorem of_readGroup {t : Text} {g : List Text × Text} (h : readGroup t = some g) :
    t = join [','] g.1 ++ '}' :: g.2 ∧ ∀ m ∈ g.1, IsMember m := by
  fun_induction readGroup t generalizing g with
  | case1 => cases h
  | case2 => cases h
  | case3 d ds ih =>
      obtain ⟨g', hg, rfl⟩ := Option.map_eq_some_iff.mp h
      obtain ⟨hds, hmembers⟩ := ih hg
      refine ⟨?_, isMember_of_mem_extendFirst (fun hm => hm.escape d) hmembers⟩
      rw [join_extendFirst, List.append_assoc, ← hds]
      rfl
  | case4 cs _ ih =>
      obtain ⟨g', hg, rfl⟩ := Option.map_eq_some_iff.mp h
      obtain ⟨hcs, hmembers⟩ := ih hg
      refine ⟨?_, List.forall_mem_cons.mpr ⟨isMember_nil, hmembers⟩⟩
      rw [join_nil_cons (ne_nil_of_readGroup hg), List.cons_append, ← hcs]
  | case5 cs _ _ =>
      obtain rfl := Option.some.inj h
      refine ⟨?_, List.forall_mem_singleton.mpr isMember_nil⟩
      rw [Text.join_singleton]
      rfl
  | case6 => cases h
  | case7 c cs hescape hcomma hclosing hnewline ih =>
      obtain ⟨g', hg, rfl⟩ := Option.map_eq_some_iff.mp h
      obtain ⟨hcs, hmembers⟩ := ih hg
      have hc : c ∉ ['\\', '\n', ',', '}'] := by simp [hescape, hcomma, hclosing, hnewline]
      refine ⟨?_, isMember_of_mem_extendFirst (fun hm => hm.cons hc) hmembers⟩
      rw [join_extendFirst, List.append_assoc, ← hcs]
      rfl

/-- Where no group can be read, the line goes on without a closing brace, but for escaped ones. -/
theorem not_mem_of_readGroup_eq_none {t : Text} (h : readGroup t = none) :
    '}' ∉ (unescaped t).takeWhile (· ≠ '\n') := by
  fun_induction readGroup t with
  | case1 => exact List.not_mem_nil
  | case2 => decide
  | case3 d ds ih =>
      rw [Text.unescaped_escape, List.takeWhile_cons_of_pos (by decide)]
      exact List.not_mem_cons_of_ne_of_not_mem (by decide) (ih (Option.map_eq_none_iff.mp h))
  | case4 cs _ ih =>
      rw [Text.unescaped_cons (by decide), List.takeWhile_cons_of_pos (by decide)]
      exact List.not_mem_cons_of_ne_of_not_mem (by decide) (ih (Option.map_eq_none_iff.mp h))
  | case5 => cases h
  | case6 cs =>
      rw [Text.unescaped_cons (by decide), List.takeWhile_cons_of_neg (by decide)]
      exact List.not_mem_nil
  | case7 c cs hescape hcomma hclosing hnewline ih =>
      rw [Text.unescaped_cons hescape, List.takeWhile_cons_of_pos (by simpa using hnewline)]
      exact List.not_mem_cons_of_ne_of_not_mem (Ne.symm hclosing)
        (ih (Option.map_eq_none_iff.mp h))

/-! ## Templates -/

/-- Writing out the template of a text gives the text. -/
theorem written_ofText (t : Text) : (Template.ofText t).written = t := by
  fun_induction Template.ofText t with
  | case1 => rfl
  | case2 => rfl
  | case3 d ds ih => rw [Template.written_extend, ih]; rfl
  | case4 cs members rest hread _ ih =>
      have hwritten : Template.written (.group members :: Template.ofText rest) =
          Segment.written (.group members) ++ Template.written (Template.ofText rest) := rfl
      rw [hwritten, ih, Segment.written, (of_readGroup hread).1]
      simp only [List.cons_append, List.append_assoc, List.nil_append]
  | case5 cs _ _ ih => rw [Template.written_extend, ih]; rfl
  | case6 c cs _ _ ih => rw [Template.written_extend, ih]; rfl

theorem Template.mem_of_group_mem_extend {lead : Text} {t : Template} {members : List Text}
    (h : .group members ∈ Template.extend lead t) : .group members ∈ t := by
  unfold extend at h
  split at h
  case h_1 u rest => exact List.mem_cons_of_mem _ (List.mem_of_ne_of_mem Segment.noConfusion h)
  case h_2 => exact List.mem_of_ne_of_mem Segment.noConfusion h

theorem isMember_of_mem_ofText {t : Text} :
    ∀ members, .group members ∈ Template.ofText t → members ≠ [] ∧ ∀ m ∈ members, IsMember m := by
  refine Template.ofText_induction
    (P := fun t => ∀ members, .group members ∈ t → members ≠ [] ∧ ∀ m ∈ members, IsMember m)
    (fun _ h => absurd h List.not_mem_nil) (fun _ ih members h => ?_)
    (fun hread ih members h => ?_) t
  · exact ih members (Template.mem_of_group_mem_extend h)
  · rcases List.mem_cons.mp h with heq | hrest
    · cases heq
      exact ⟨ne_nil_of_readGroup hread, (of_readGroup hread).2⟩
    · exact ih members hrest

/-- Whether two parts of a template may be neighbours: they are not both ordinary text. -/
def AreApart (a b : Segment) : Prop :=
  ¬(a.isText = true ∧ b.isText = true)

theorem Template.isChain_extend {lead : Text} {t : Template} (h : t.IsChain AreApart) :
    (Template.extend lead t).IsChain AreApart := by
  unfold extend
  split
  case h_1 u rest =>
    cases rest with
    | nil => exact .singleton _
    | cons s rest =>
        rw [List.isChain_cons_cons] at h ⊢
        exact h
  case h_2 hnot =>
    cases t with
    | nil => exact .singleton _
    | cons s rest =>
        refine List.isChain_cons_cons.mpr ⟨?_, h⟩
        cases s with
        | text u => exact absurd rfl (hnot u rest)
        | group members => exact fun htexts => Bool.false_ne_true htexts.2

/-- No two ordinary texts are neighbours. -/
theorem isChain_ofText (t : Text) : (Template.ofText t).IsChain AreApart := by
  refine Template.ofText_induction (P := fun t => t.IsChain AreApart) .nil
    (fun _ ih => Template.isChain_extend ih) (fun _ ih => ?_) t
  exact List.isChain_cons.mpr ⟨fun _ _ htexts => Bool.false_ne_true htexts.1, ih⟩

theorem Template.ne_nil_of_mem_extend {lead : Text} (hlead : lead ≠ []) {t : Template}
    (h : ∀ u, .text u ∈ t → u ≠ []) : ∀ u, .text u ∈ Template.extend lead t → u ≠ [] := by
  intro u hu
  unfold extend at hu
  split at hu
  case h_1 v rest =>
    rcases List.mem_cons.mp hu with heq | hrest
    · cases heq
      exact List.append_ne_nil_of_left_ne_nil hlead v
    · exact h u (List.mem_cons_of_mem _ hrest)
  case h_2 =>
    rcases List.mem_cons.mp hu with heq | hrest
    · cases heq
      exact hlead
    · exact h u hrest

/-- No ordinary text is empty. -/
theorem ne_nil_of_mem_ofText (t : Text) : ∀ u, .text u ∈ Template.ofText t → u ≠ [] := by
  refine Template.ofText_induction (P := fun t => ∀ u, .text u ∈ t → u ≠ [])
    (fun _ h => absurd h List.not_mem_nil)
    (fun hlead ih => Template.ne_nil_of_mem_extend hlead ih) (fun _ ih u hu => ?_) t
  exact ih u (List.mem_of_ne_of_mem Segment.noConfusion hu)

/-! ## Braces that open no group -/

/-- Whether each opening brace of `u` that is not escaped stays open on its line: before the line
ends, there is no closing brace that is not escaped, neither in `u` nor in what stands behind it.
The escapes are read from the brace on, and one of a newline goes on to the next line. -/
def LeavesOpen (u behind : Text) : Prop :=
  ∀ lead rest, u = lead ++ '{' :: rest → endsEscaping false lead = false →
    '}' ∉ (unescaped (rest ++ behind)).takeWhile (· ≠ '\n')

theorem leavesOpen_nil (behind : Text) : LeavesOpen [] behind :=
  fun _ _ h => absurd h (by simp)

theorem LeavesOpen.escape {u behind : Text} (h : LeavesOpen u behind) (d : Char) :
    LeavesOpen (['\\', d] ++ u) behind := by
  intro lead rest hsplit hwhole
  match lead with
  | [] => exact absurd (List.cons.inj hsplit).1 (by decide)
  | [a] =>
      obtain rfl : '\\' = a := (List.cons.inj hsplit).1
      exact absurd hwhole (by decide)
  | a :: b :: more =>
      obtain ⟨rfl, htail⟩ := List.cons.inj hsplit
      exact h more rest (List.cons.inj htail).2 hwhole

theorem LeavesOpen.cons {u behind : Text} (h : LeavesOpen u behind) {c : Char} (hescape : c ≠ '\\')
    (hopening : c = '{' → '}' ∉ (unescaped (u ++ behind)).takeWhile (· ≠ '\n')) :
    LeavesOpen ([c] ++ u) behind := by
  intro lead rest hsplit hwhole
  cases lead with
  | nil =>
      obtain ⟨hc, rfl⟩ := List.cons.inj hsplit
      exact hopening hc
  | cons a more =>
      obtain ⟨rfl, hmore⟩ := List.cons.inj hsplit
      rw [Text.endsEscaping_cons hescape] at hwhole
      exact h more rest hmore hwhole

/-- Whether the ordinary texts of a template leave every brace open that they hold. -/
def Template.LeavesOpen : Template → Prop
  | [] => True
  | .text u :: rest => Config.LeavesOpen u (Template.written rest) ∧ LeavesOpen rest
  | .group _ :: rest => LeavesOpen rest

theorem Template.LeavesOpen.extend {lead : Text} {t : Template} (h : t.LeavesOpen)
    (hlead : ∀ {u behind}, u ++ behind = t.written → Config.LeavesOpen u behind →
      Config.LeavesOpen (lead ++ u) behind) : (Template.extend lead t).LeavesOpen := by
  unfold Template.extend
  split
  case h_1 u rest => exact ⟨hlead rfl h.1, h.2⟩
  case h_2 =>
    have hnil := hlead (List.nil_append _) (leavesOpen_nil _)
    rw [List.append_nil] at hnil
    exact ⟨hnil, h⟩

/-- A template leaves no brace in its ordinary texts that could have opened a group. -/
theorem leavesOpen_ofText (t : Text) : (Template.ofText t).LeavesOpen := by
  fun_induction Template.ofText t with
  | case1 => trivial
  | case2 =>
      refine ⟨fun lead rest hsplit _ => ?_, trivial⟩
      cases lead with
      | nil => exact absurd (List.cons.inj hsplit).1 (by decide)
      | cons a more => exact absurd (List.cons.inj hsplit).2 (by simp)
  | case3 d ds ih => exact ih.extend fun _ hu => hu.escape d
  | case4 cs members rest _ _ ih => exact ih
  | case5 cs hread _ ih =>
      refine ih.extend fun hwritten hu => hu.cons (by decide) fun _ => ?_
      rw [hwritten, written_ofText]
      exact not_mem_of_readGroup_eq_none hread
  | case6 c cs hescape hopening ih =>
      exact ih.extend fun _ hu => hu.cons hescape fun hc => absurd hc hopening

theorem Template.LeavesOpen.at {t : Template} (h : t.LeavesOpen) {before after : Template}
    {u : Text} (hsplit : t = before ++ .text u :: after) : Config.LeavesOpen u after.written := by
  subst hsplit
  induction before with
  | nil => exact h.1
  | cons s before ih =>
      cases s with
      | text v => exact ih h.2
      | group members => exact ih h

/-! ## Main statement -/

/-- The template of a text can be written out again.  Its groups have members, none of which holds
what would end it; its ordinary texts are not empty and no two are neighbours; an opening brace that
is not escaped stays in one only if no closing brace follows on its line that is not escaped.  If
the template has a group, the text is one that may have to be expanded, so that expansion is that of
the template whether or not it is asked first. -/
theorem template_loses_nothing (t : Text) :
    (Template.ofText t).written = t ∧
      (∀ members, .group members ∈ Template.ofText t →
        members ≠ [] ∧ ∀ m ∈ members, IsMember m) ∧
      (∀ u, .text u ∈ Template.ofText t → u ≠ []) ∧
      (Template.ofText t).IsChain AreApart ∧
      (∀ before u after, Template.ofText t = before ++ .text u :: after →
        LeavesOpen u (Template.written after)) ∧
      ((Template.ofText t).groups ≠ [] → hasGroup t = true) ∧
      ∀ command line, expand ⟨t, command, line⟩ =
        if (Template.ofText t).groups = [] then .ok [⟨t, command, line⟩]
        else (allPairs ⟨t, command, line⟩).map (firsts fun q => normalText q.binding) := by
  refine ⟨written_ofText t, isMember_of_mem_ofText, ne_nil_of_mem_ofText t, isChain_ofText t,
    fun before u after hsplit => (leavesOpen_ofText t).at hsplit, fun h => ?_,
    fun command line => ?_⟩
  · exact hasVariant_of_groups (p := ⟨t, [], 0⟩) h
  · split
    case isTrue h => exact expand_of_no_groups h
    case isFalse h => exact expand_of_groups h

end Hotkeys.Config
