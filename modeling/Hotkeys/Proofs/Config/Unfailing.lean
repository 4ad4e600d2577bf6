import Hotkeys.Proofs.Config.Checked

/-!
# Expansion does not fail by itself

The rest of the expansion with checks, from the ranges on (`expand?`).

Main statement: with all of its checks the expansion of a pair comes to what the expansion comes to,
so that a pair that cannot be expanded is the only thing to go wrong (`expand_never_fails`).  What
carries it is that the candidates are all of one shape (`Candidate.SameShape`), that a range stands
in it (`Range.StandsIn`), and that the odometer stops (`turn?_zeros`).
-/

set_option autoImplicit false

namespace Hotkeys.Config

/-- Where each computation has a value, all of them have. -/
theorem mapM_eq_some {α β : Type} {f : α → Option β} {g : α → β} {l : List α}
    (h : ∀ a ∈ l, f a = some (g a)) : l.mapM f = some (l.map g) := by
  induction l with
  | nil => rfl
  | cons a as ih =>
      obtain ⟨ha, has⟩ := List.forall_mem_cons.mp h
      rw [List.mapM_cons, ha, ih has]
      rfl

/-! ## Steps -/

/-- What a range puts in its places at step `i`.  Characters are bytes, and numbers are signed
words. -/
def Range.step? (r : Range) (i : Nat) : Option (Text × Option Text) := do
  let b ← byte? (r.first.toNat + i)
  match r.command with
  | .keep => return ([Char.ofNat b], none)
  | .numbers first =>
    let n ← word? ((first : Int) + i)
    return ([Char.ofNat b], some (Text.ofNat n.toNat))
  | .letters first =>
    let c ← byte? (first.toNat + i)
    return ([Char.ofNat b], some [Char.ofNat c])

/-- Groups with one member replaced, if they have it. -/
def setMember? (groups : List (List Text)) (group member : Nat) (value : Text) :
    Option (List (List Text)) := do
  let members ← groups[group]?
  let _ ← members[member]?
  return groups.set group (members.set member value)

/-- The candidate in which a range stands at step `i`. -/
def Range.assign? (r : Range) (c : Candidate) (i : Nat) : Option Candidate := do
  let (b, beside) ← r.step? i
  let binding ← setMember? c.binding r.group r.member b
  match beside with
  | some value => return { binding, command := ← setMember? c.command r.group r.member value }
  | none => return { binding, command := c.command }

/-- The candidates with one more range at each of its steps. -/
def assignAll? (candidates : List Candidate) (r : Range) : Option (List Candidate) := do
  let next ← candidates.mapM fun c => (List.range (r.span + 1)).mapM (r.assign? c)
  return next.flatten

/-- The candidates without ranges that a candidate stands for. -/
def resolve? (ranges : List Range) (c : Candidate) : Option (List Candidate) :=
  ranges.foldlM assignAll? [c]

/-- Whether two candidates have as many groups on either side, and in each as many members. -/
structure Candidate.SameShape (c d : Candidate) : Prop where
  /-- The groups of the bindings. -/
  binding : c.binding.map List.length = d.binding.map List.length
  /-- The groups of the commands. -/
  command : c.command.map List.length = d.command.map List.length

theorem Candidate.SameShape.refl (c : Candidate) : c.SameShape c :=
  ⟨rfl, rfl⟩

theorem Candidate.SameShape.trans {c d e : Candidate} (h : c.SameShape d) (h' : d.SameShape e) :
    c.SameShape e :=
  ⟨h.binding.trans h'.binding, h.command.trans h'.command⟩

theorem map_length_replaceMember (groups : List (List Text)) (group member : Nat) (value : Text) :
    (replaceMember groups group member value).map List.length = groups.map List.length := by
  refine List.ext_getElem? fun i => ?_
  unfold replaceMember
  rw [List.getElem?_map, List.getElem?_map, List.getElem?_modify, Option.map_eq_map,
    Option.map_map]
  congr 1
  funext members
  rw [Function.comp_apply]
  split
  case isTrue => exact List.length_set
  case isFalse => rfl

/-- A step keeps the shape of a candidate. -/
theorem Range.sameShape_assign (r : Range) (c : Candidate) (i : Nat) :
    (r.assign c i).SameShape c := by
  constructor
  · exact map_length_replaceMember _ _ _ _
  · unfold assign
    cases r.command.value? i with
    | none => rfl
    | some value => exact map_length_replaceMember _ _ _ _

/-- Candidates keep their shape, whatever ranges are resolved. -/
theorem Candidate.sameShape_of_mem_resolve {ranges : List Range} {c d : Candidate}
    (h : d ∈ resolve ranges c) : d.SameShape c := by
  induction ranges generalizing c with
  | nil =>
      rw [List.mem_singleton.mp h]
      exact .refl c
  | cons r rs ih =>
      obtain ⟨i, -, hd⟩ := List.mem_flatMap.mp h
      exact (ih hd).trans (r.sameShape_assign c i)

theorem HasMember.of_sizes {groups others : List (List Text)} {group member : Nat}
    {property : Text → Prop} (h : HasMember others group member property)
    (hsizes : groups.map List.length = others.map List.length) :
    HasMember groups group member fun _ => True := by
  obtain ⟨members, found, hmembers, hfound, -⟩ := h
  have hsize : (groups.map List.length)[group]? = some members.length := by
    rw [hsizes, List.getElem?_map, hmembers]
    rfl
  rw [List.getElem?_map] at hsize
  obtain ⟨members', hmembers', hlength⟩ := Option.map_eq_some_iff.mp hsize
  have hlt : member < members'.length := by
    rw [hlength]
    exact (List.getElem?_eq_some_iff.mp hfound).1
  exact ⟨members', members'[member], hmembers', List.getElem?_eq_getElem hlt, trivial⟩

theorem setMember?_eq {groups : List (List Text)} {group member : Nat} {property : Text → Prop}
    (h : HasMember groups group member property) (value : Text) :
    setMember? groups group member value = some (replaceMember groups group member value) := by
  obtain ⟨members, found, hmembers, hfound, -⟩ := h
  unfold setMember? replaceMember
  rw [List.modify_eq_set, hmembers]
  simp only [Option.bind_eq_bind, Option.bind_some, hfound, Option.getD_some]
  rfl

section Standing

variable {r : Range} {bs cs : List (List Text)} (hr : r.StandsIn bs cs)

include hr

/-- A range that stands in groups counts without an overflow. -/
theorem Range.step?_eq {i : Nat} (hi : i ≤ r.span) :
    r.step? i = some ([charAfter r.first i], r.command.value? i) := by
  obtain ⟨-, -, -, -, high, ⟨-, hclass⟩, hhigh⟩ := hr.binding
  obtain ⟨-, member, -, -, hcommand⟩ := hr.command
  have hfirst : byte? (r.first.toNat + i) = some (r.first.toNat + i) := by
    have hle := hhigh i hi
    have hascii := hclass.ascii
    exact byte?_of_le (by omega)
  unfold step? charAfter
  rw [hfirst, Option.bind_eq_bind, Option.bind_some]
  cases hkind : r.command with
  | keep => rfl
  | numbers first =>
      rw [hkind] at hcommand
      obtain ⟨low, high, last, -, -, -, hlargest, hlast⟩ := hcommand
      have hword : word? ((first : Int) + i) = some ((first + i : Nat) : Int) :=
        word?_of_le (Nat.le_trans (hlast i hi) hlargest)
      dsimp only
      rw [hword]
      rfl
  | letters first =>
      rw [hkind] at hcommand
      obtain ⟨last, -, -, hlower, hlast⟩ := hcommand
      have hbyte : byte? (first.toNat + i) = some (first.toNat + i) := by
        have hle := hlast i hi
        have hcode := (Text.isLower_iff last).mp hlower
        exact byte?_of_le (by omega)
      dsimp only
      rw [hbyte]
      rfl

theorem Range.assign?_eq {c : Candidate} (hc : c.SameShape ⟨bs, cs⟩) {i : Nat} (hi : i ≤ r.span) :
    r.assign? c i = some (r.assign c i) := by
  have hbinding := setMember?_eq (hr.binding.of_sizes hc.binding)
  have hcommand := setMember?_eq (hr.command.of_sizes hc.command)
  unfold assign? assign
  rw [Range.step?_eq hr hi, Option.bind_eq_bind, Option.bind_some]
  dsimp only
  rw [hbinding, Option.bind_eq_bind, Option.bind_some]
  cases r.command.value? i with
  | none => rfl
  | some value =>
      dsimp only
      rw [hcommand]
      rfl

theorem assignAll?_eq {candidates : List Candidate}
    (hshape : ∀ c ∈ candidates, c.SameShape ⟨bs, cs⟩) :
    assignAll? candidates r =
      some (candidates.flatMap fun c => (List.range (r.span + 1)).map (r.assign c)) := by
  have hsteps : ∀ c ∈ candidates, (List.range (r.span + 1)).mapM (r.assign? c) =
      some ((List.range (r.span + 1)).map (r.assign c)) := by
    intro c hc
    apply mapM_eq_some
    intro i hi
    exact Range.assign?_eq hr (hshape c hc) (Nat.le_of_lt_succ (List.mem_range.mp hi))
  unfold assignAll?
  rw [mapM_eq_some hsteps, List.flatMap_def]
  rfl

end Standing

/-- Ranges that stand in the groups are resolved in candidates of the shape of the groups. -/
theorem foldlM_assignAll?_eq {ranges : List Range} {bs cs : List (List Text)}
    (h : ∀ r ∈ ranges, r.StandsIn bs cs) {candidates : List Candidate}
    (hshape : ∀ c ∈ candidates, c.SameShape ⟨bs, cs⟩) :
    ranges.foldlM assignAll? candidates = some (candidates.flatMap (resolve ranges)) := by
  induction ranges generalizing candidates with
  | nil => exact congrArg some (List.flatMap_singleton' candidates).symm
  | cons r rs ih =>
      obtain ⟨hr, hrs⟩ := List.forall_mem_cons.mp h
      have hnext : ∀ c ∈ candidates.flatMap fun c => (List.range (r.span + 1)).map (r.assign c),
          c.SameShape ⟨bs, cs⟩ := by
        intro c hc
        obtain ⟨before, hbefore, hc⟩ := List.mem_flatMap.mp hc
        obtain ⟨i, -, rfl⟩ := List.mem_map.mp hc
        exact (r.sameShape_assign before i).trans (hshape before hbefore)
      rw [List.foldlM_cons, assignAll?_eq hr hshape, Option.bind_eq_bind, Option.bind_some,
        ih hrs hnext, List.flatMap_assoc]
      congr 1
      apply List.flatMap_congr
      intro c _
      rw [resolve, List.flatMap_map]

theorem resolve?_eq {ranges : List Range} {bs cs : List (List Text)}
    (h : ∀ r ∈ ranges, r.StandsIn bs cs) :
    resolve? ranges ⟨bs, cs⟩ = some (resolve ranges ⟨bs, cs⟩) := by
  have hshape : ∀ c ∈ [(⟨bs, cs⟩ : Candidate)], c.SameShape ⟨bs, cs⟩ :=
    List.forall_mem_singleton.mpr (.refl _)
  rw [resolve?, foldlM_assignAll?_eq h hshape, List.flatMap_singleton]

/-! ## Separators -/

/-- Halves the runs of separators, unless there are none. -/
def collapseRound (binding : Text) : Option (Round Text Text) :=
  if ['+', '+'] <:+: binding ∨ ['-', '-'] <:+: binding then
    some (.again (halveRuns '-' (halveRuns '+' binding)))
  else some (.done binding)

/-- A binding in which no separator stands twice in a row, whenever that is. -/
noncomputable def collapse? (binding : Text) : Option Text :=
  loop? collapseRound binding

theorem length_halveRuns_le (c : Char) (t : Text) : (halveRuns c t).length ≤ t.length := by
  fun_induction halveRuns c t with
  | case1 a b rest hrun ih =>
      simp only [List.length_cons]
      omega
  | case2 a b rest hrun ih =>
      rw [List.length_cons, List.length_cons]
      exact Nat.succ_le_succ ih
  | case3 => exact Nat.le_refl _

/-- A character that stands twice in a row does so at the start of a text or behind its first
character. -/
theorem double_infix_cons_cons {a b c : Char} {rest : Text} :
    [c, c] <:+: a :: b :: rest ↔ (a = c ∧ b = c) ∨ [c, c] <:+: b :: rest := by
  rw [List.infix_cons_iff, List.cons_prefix_cons, List.cons_prefix_cons, eq_comm, @eq_comm _ c b]
  simp only [List.nil_prefix, and_true]

theorem length_halveRuns_lt_iff {c : Char} {t : Text} :
    (halveRuns c t).length < t.length ↔ [c, c] <:+: t := by
  fun_induction halveRuns c t with
  | case1 a b rest hrun ih =>
      refine iff_of_true ?_ (double_infix_cons_cons.mpr (.inl hrun))
      have hle := length_halveRuns_le c rest
      simp only [List.length_cons]
      omega
  | case2 a b rest hrun ih =>
      rw [double_infix_cons_cons, or_iff_right hrun, ← ih]
      exact Nat.succ_lt_succ_iff
  | case3 t hshort =>
      refine iff_of_false (Nat.lt_irrefl _) fun hdouble => ?_
      obtain ⟨before, behind, rfl⟩ := hdouble
      cases before with
      | nil => exact hshort _ _ _ rfl
      | cons a before =>
          cases before with
          | nil => exact hshort _ _ _ rfl
          | cons b before => exact hshort _ _ _ rfl

theorem halveRuns_eq_self {c : Char} {t : Text} (h : ¬ [c, c] <:+: t) : halveRuns c t = t := by
  fun_induction halveRuns c t with
  | case1 a b rest hrun ih => exact absurd (double_infix_cons_cons.mpr (.inl hrun)) h
  | case2 a b rest hrun ih => rw [ih fun hrest => h (double_infix_cons_cons.mpr (.inr hrest))]
  | case3 => rfl

/-- A text gets shorter just when a separator stands twice in a row. -/
theorem length_halveRuns_halveRuns_lt_iff {t : Text} :
    (halveRuns '-' (halveRuns '+' t)).length < t.length ↔
      ['+', '+'] <:+: t ∨ ['-', '-'] <:+: t := by
  by_cases hplus : ['+', '+'] <:+: t
  · have hshorter := length_halveRuns_lt_iff.mpr hplus
    have hle := length_halveRuns_le '-' (halveRuns '+' t)
    exact iff_of_true (Nat.lt_of_le_of_lt hle hshorter) (.inl hplus)
  · rw [halveRuns_eq_self hplus, length_halveRuns_lt_iff, or_iff_right hplus]

/-- Separators are collapsed in the end, since the text gets shorter until then. -/
theorem collapse?_eq (t : Text) : collapse? t = some (collapse t) := by
  induction hlength : t.length using Nat.strongRecOn generalizing t with
  | _ n ih =>
      rw [collapse]
      by_cases hdouble : ['+', '+'] <:+: t ∨ ['-', '-'] <:+: t
      · have hlt := length_halveRuns_halveRuns_lt_iff.mpr hdouble
        have hround : collapseRound t = some (.again (halveRuns '-' (halveRuns '+' t))) :=
          if_pos hdouble
        rw [collapse?, loop?_of_again hround, if_pos hlt]
        exact ih _ (hlength ▸ hlt) _ rfl
      · have hround : collapseRound t = some (.done t) := if_neg hdouble
        rw [collapse?, loop?_of_done hround,
          if_neg (mt length_halveRuns_halveRuns_lt_iff.mp hdouble)]

/-! ## Choices -/

/-- The members at the given indices, of the groups from index `group` on. -/
def picksFrom? (groups : List (List Text)) (group : Nat) : List Nat → Option (List Text)
  | [] => some []
  | k :: ks => do
    let members ← groups[group]?
    let member ← members[k]?
    return memberValue member :: (← picksFrom? groups (group + 1) ks)

/-- The pairs of a candidate without ranges. -/
noncomputable def candidatePairs? (binding command : Template) (line : Nat) (c : Candidate) :
    Option (List Pair) :=
  let visit := fun choice => do
    let bs ← picksFrom? c.binding 0 choice
    let cs ← picksFrom? c.command 0 choice
    return { binding := ← collapse? (binding.render bs), command := command.render cs, line : Pair }
  turn? c.binding visit (List.replicate c.binding.length 0)

theorem picksFrom?_eq {front groups : List (List Text)} {choice : List Nat}
    (h : List.Forall₂ (· < ·) choice (groups.map List.length)) :
    picksFrom? (front ++ groups) front.length choice = some (pick groups choice) := by
  induction groups generalizing front choice with
  | nil =>
      obtain rfl := List.forall₂_nil_right_iff.mp h
      rfl
  | cons members groups ih =>
      obtain ⟨k, ks, hk, hks, rfl⟩ := List.forall₂_cons_right_iff.mp h
      have hmembers : (front ++ members :: groups)[front.length]? = some members := by simp
      have hrest := @ih (front ++ [members]) ks hks
      rw [List.append_assoc, List.singleton_append, List.length_append, List.length_singleton]
        at hrest
      have hmember : members[k]? = some members[k] := List.getElem?_eq_getElem hk
      rw [picksFrom?, hmembers]
      simp only [Option.bind_eq_bind, Option.bind_some, hmember, hrest]
      rw [pick, pick, List.zipWith_cons_cons, hmember]
      rfl

/-- The odometer goes through the choices of a candidate. -/
theorem candidatePairs?_eq (binding command : Template) (line : Nat) {c : Candidate}
    (hne : ∀ members ∈ c.binding, members ≠ [])
    (hsizes : c.command.map List.length = c.binding.map List.length) :
    candidatePairs? binding command line c = some (candidatePairs binding command line c) := by
  apply turn?_zeros hne
  intro choice hchoice
  have hbinding := mem_choices.mp hchoice
  have hcommand := hbinding
  rw [← hsizes] at hcommand
  have hbs := @picksFrom?_eq [] _ _ hbinding
  have hcs := @picksFrom?_eq [] _ _ hcommand
  rw [List.nil_append, List.length_nil] at hbs hcs
  simp only [hbs, hcs, collapse?_eq, Option.bind_eq_bind, Option.bind_some]
  rfl

/-! ## Expansion -/

/-- The pairs that a pair stands for. -/
noncomputable def expand? (p : Pair) : Option (Except ExpansionError (List Pair)) := do
  if p.hasVariant then
    let binding ← parse? p.binding
    let command ← parse? p.command
    let bs := binding.groups
    let cs := command.groups
    if bs = [] then return .ok [p]
    else if bs.length ≠ cs.length then return .error (.groupCount bs.length cs.length)
    else
      match unevenGroup? bs cs with
      | some group => return .error (.memberCount group)
      | none =>
        match ← rangesFrom? 0 bs cs with
        | .error e => return .error e
        | .ok ranges =>
          let candidates ← resolve? ranges { binding := bs, command := cs }
          let pairs ← candidates.mapM (candidatePairs? binding command p.line)
          return .ok (firsts (fun q => normalText q.binding) pairs.flatten)
  else return .ok [p]

/-- Groups without an uneven one are of the same sizes on both sides. -/
theorem map_length_of_even {bs cs : List (List Text)} (hlength : bs.length = cs.length)
    (heven : unevenGroup? bs cs = none) : bs.map List.length = cs.map List.length := by
  obtain ⟨hbs, hcs⟩ := zipWith_zip_sides hlength heven
  have hsides : ((List.zipWith List.zip bs cs).map (List.map Prod.fst)).map List.length =
      ((List.zipWith List.zip bs cs).map (List.map Prod.snd)).map List.length := by
    simp only [List.map_map, Function.comp_def, List.length_map]
  rwa [hbs, hcs] at hsides

/-- A candidate has a member in each group, since its pair has. -/
theorem Candidate.SameShape.ne_nil {t : Text} {c : Candidate} {cs : List (List Text)}
    (h : c.SameShape ⟨(Template.ofText t).groups, cs⟩) : ∀ members ∈ c.binding, members ≠ [] := by
  rintro members hmembers rfl
  have hzero : 0 ∈ c.binding.map List.length := List.mem_map_of_mem hmembers
  rw [h.binding] at hzero
  obtain ⟨found, hfound, hempty⟩ := List.mem_map.mp hzero
  exact ne_nil_of_mem_groups found hfound (List.length_eq_zero_iff.mp hempty)

/-- The odometer goes through the choices of every candidate of a pair. -/
theorem mapM_candidatePairs?_eq {binding command : Text} (line : Nat) (ranges : List Range)
    (hsizes : (Template.ofText binding).groups.map List.length =
      (Template.ofText command).groups.map List.length) :
    (resolve ranges ⟨(Template.ofText binding).groups, (Template.ofText command).groups⟩).mapM
        (candidatePairs? (Template.ofText binding) (Template.ofText command) line) =
      some ((resolve ranges
        ⟨(Template.ofText binding).groups, (Template.ofText command).groups⟩).map
          (candidatePairs (Template.ofText binding) (Template.ofText command) line)) := by
  apply mapM_eq_some
  intro c hc
  have hshape := Candidate.sameShape_of_mem_resolve hc
  exact candidatePairs?_eq _ _ line hshape.ne_nil
    (hshape.command.trans (hsizes.symm.trans hshape.binding.symm))

theorem expand?_eq (p : Pair) : expand? p = some (expand p) := by
  unfold expand?
  by_cases hgroups : (Template.ofText p.binding).groups = []
  · rw [expand_of_no_groups hgroups]
    split
    case isFalse => rfl
    case isTrue =>
      rw [parse?_eq, parse?_eq]
      simp only [Option.bind_eq_bind, Option.bind_some, if_pos hgroups]
      rfl
  · rw [if_pos (hasVariant_of_groups hgroups), expand_of_groups hgroups, allPairs, parse?_eq,
      parse?_eq]
    simp only [Option.bind_eq_bind, Option.bind_some, if_neg hgroups]
    by_cases hlength : (Template.ofText p.binding).groups.length =
        (Template.ofText p.command).groups.length
    · rw [if_neg (not_not.mpr hlength), if_neg (not_not.mpr hlength)]
      cases heven : unevenGroup? (Template.ofText p.binding).groups
          (Template.ofText p.command).groups with
      | some group => rfl
      | none =>
          dsimp only
          rw [rangesFrom?_eq]
          cases hranges : rangesFrom 0 (Template.ofText p.binding).groups
              (Template.ofText p.command).groups with
          | error e => rfl
          | ok ranges =>
              have hresolve := resolve?_eq (Range.standsIn_of_mem hranges)
              have hpairs := mapM_candidatePairs?_eq p.line ranges
                (map_length_of_even hlength heven)
              simp only [Option.bind_some, hresolve, hpairs, ← List.flatMap_def]
              rfl
    · rw [if_pos hlength, if_pos hlength]
      rfl

/-! ## Main statement -/

/-- An expansion ends, and all that it computes on the way has a value.  The ranges that are found
have their places on both sides of the pair, and none of their steps is above the upper end that is
written there.  The candidates have as many groups as the pair, on either side, and in each as many
members, however many ranges are resolved.  For a candidate without ranges the odometer goes through
every choice of indices, each of them once. -/
theorem expand_never_fails (p : Pair) :
    let bs := (Template.ofText p.binding).groups
    let cs := (Template.ofText p.command).groups
    expand? p = some (expand p) ∧
      ∀ ranges, rangesFrom 0 bs cs = .ok ranges →
        (∀ r ∈ ranges, r.StandsIn bs cs) ∧
        (∀ before, before <+: ranges → ∀ c ∈ resolve before ⟨bs, cs⟩, c.SameShape ⟨bs, cs⟩) ∧
        ∀ c ∈ resolve ranges ⟨bs, cs⟩, ∃ visited,
          turn? c.binding some (List.replicate c.binding.length 0) = some visited ∧
            visited.Nodup ∧
            ∀ indices, indices ∈ visited ↔
              List.Forall₂ (· < ·) indices (c.binding.map List.length) := by
  refine ⟨expand?_eq p, fun ranges hranges => ⟨Range.standsIn_of_mem hranges, ?_, ?_⟩⟩
  · intro before _ c hc
    exact Candidate.sameShape_of_mem_resolve hc
  · intro c hc
    have hne := (Candidate.sameShape_of_mem_resolve hc).ne_nil
    have hvisited : turn? c.binding some (List.replicate c.binding.length 0) =
        some ((choices (c.binding.map List.length)).map id) :=
      turn?_zeros hne fun _ _ => rfl
    rw [List.map_id] at hvisited
    have hnodup := (choices_pairwise (c.binding.map List.length)).imp fun hlt => ne_of_lt hlt
    exact ⟨_, hvisited, hnodup, fun indices => mem_choices⟩

/-- The largest numbers that a command may count to. -/
theorem expand_never_fails_at_largest_numbers :
    let p : Pair :=
      { binding := "super+\x7b8-9,_\x7d".toList
        command := "ws \x7b9223372036854775806-9223372036854775807,x\x7d".toList
        line := 3 }
    let range : Range :=
      { group := 0, member := 0, first := '8', span := 1, command := .numbers 9223372036854775806 }
    let pairs : List Pair :=
      [⟨"super+8".toList, "ws 9223372036854775806".toList, 3⟩,
        ⟨"super+".toList, "ws x".toList, 3⟩,
        ⟨"super+9".toList, "ws 9223372036854775807".toList, 3⟩]
    let bs := (Template.ofText p.binding).groups
    let cs := (Template.ofText p.command).groups
    rangesFrom 0 bs cs = .ok [range] ∧ expand? p = some (.ok pairs) ∧ range.StandsIn bs cs :=
  have hranges := ok_of_toOption (by decide +kernel)
  have hpairs := ok_of_toOption (by decide +kernel)
  ⟨hranges, (expand_never_fails _).1.trans (congrArg some hpairs),
    ((expand_never_fails _).2 _ hranges).1 _ List.mem_cons_self⟩

end Hotkeys.Config
