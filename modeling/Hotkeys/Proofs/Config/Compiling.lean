import Hotkeys.Config.Configuration
import Hotkeys.Proofs.Config.Failing
import Hotkeys.Proofs.Config.Outlines

/-!
# From outlines to configurations

A configuration is told from the outline of its text: each pair that can be expanded contributes
what it stands for, and of each chord the first binding stays.

Main statements: dropping repeated chords pair by pair and then among all pairs is the same as
dropping them once (`compile_eq_eraseDupsBy`), and the two policies differ only where a pair cannot
be expanded (`compile_under_policies`).
-/

set_option autoImplicit false

namespace Hotkeys.Config

/-! ## Expanding pairs -/

/-- Whether a pair can be expanded. -/
def Pair.expands (p : Pair) : Bool :=
  (expand p).isOk

/-- What a pair is expanded to, which is nothing if it cannot be. -/
def Pair.expanded (p : Pair) : List Pair :=
  (expand p).toOption.getD []

theorem expands_iff {p : Pair} : p.expands = true ↔ ¬ p.Fails := by
  rw [← exists_expand_iff, Pair.expands]
  cases expand p with
  | error e =>
      refine iff_of_false Bool.false_ne_true ?_
      rintro ⟨pairs, h⟩
      cases h
  | ok pairs => exact iff_of_true rfl ⟨pairs, rfl⟩

theorem not_expands_iff {p : Pair} : (!p.expands) = true ↔ p.Fails := by
  rw [Bool.not_eq_true', Bool.eq_false_iff, Ne, expands_iff, not_not]

theorem expanded_of_error {p : Pair} {e : ExpansionError} (h : expand p = .error e) :
    p.expanded = [] := by
  rw [Pair.expanded, h]
  rfl

theorem expanded_of_ok {p : Pair} {pairs : List Pair} (h : expand p = .ok pairs) :
    p.expanded = pairs := by
  rw [Pair.expanded, h]
  rfl

theorem expanded_eq_nil_iff {p : Pair} : p.expanded = [] ↔ p.Fails := by
  cases h : expand p with
  | error e => exact iff_of_true (expanded_of_error h) (exists_expand_eq_error_iff.mp ⟨e, h⟩)
  | ok pairs =>
      rw [expanded_of_ok h]
      exact iff_of_false (expand_ne_nil h) (exists_expand_iff.mp ⟨pairs, h⟩)

/-- Under either policy what a pair is expanded to comes before the rest. -/
theorem expandAll_cons {policy : Policy} {p : Pair} (h : policy = .skip ∨ ¬ p.Fails)
    (ps : List Pair) :
    (expandAll policy (p :: ps)).1 = (expandAll policy ps).1.map (p.expanded ++ ·) := by
  cases hp : expand p with
  | ok pairs => simp only [expandAll, hp, expanded_of_ok hp]
  | error e =>
      cases policy with
      | fatal => exact absurd (exists_expand_eq_error_iff.mp ⟨e, hp⟩) (h.resolve_left (by simp))
      | skip =>
          simp only [expandAll, hp, expanded_of_error hp, List.nil_append]
          cases (expandAll .skip ps).1 <;> rfl

/-- Unless a failing pair is fatal, the pairs are expanded one after the other. -/
theorem expandAll_eq_flatMap {policy : Policy} {ps : List Pair}
    (h : policy = .skip ∨ ∀ p ∈ ps, ¬ p.Fails) :
    (expandAll policy ps).1 = .ok (ps.flatMap Pair.expanded) := by
  induction ps with
  | nil => rfl
  | cons p ps ih =>
      rw [expandAll_cons (h.imp_right fun hall => hall p List.mem_cons_self),
        ih (h.imp_right fun hall q hq => hall q (List.mem_cons_of_mem p hq))]
      rfl

/-- The first pair that fails is fatal, whatever comes behind it. -/
theorem expandAll_fatal {before : List Pair} (hbefore : ∀ q ∈ before, ¬ q.Fails) {p : Pair}
    {e : ExpansionError} (h : expand p = .error e) (after : List Pair) :
    (expandAll .fatal (before ++ p :: after)).1 = .error (expansionFault p e) := by
  induction before with
  | nil => simp only [List.nil_append, expandAll, h]
  | cons q before ih =>
      obtain ⟨hq, hrest⟩ := List.forall_mem_cons.mp hbefore
      rw [List.cons_append, expandAll_cons (Or.inr hq), ih hrest]
      rfl

/-- Where some pair fails, there is a first one. -/
theorem exists_first_failing {ps : List Pair} (h : ∃ p ∈ ps, p.Fails) :
    ∃ before p after e, ps = before ++ p :: after ∧ (∀ q ∈ before, ¬ q.Fails) ∧
      expand p = .error e := by
  obtain ⟨q, hq, hfails⟩ := h
  have hfound : (ps.find? fun p => !p.expands).isSome = true := by
    rw [List.find?_isSome]
    exact ⟨q, hq, not_expands_iff.mpr hfails⟩
  obtain ⟨p, hp⟩ := Option.isSome_iff_exists.mp hfound
  obtain ⟨hexpands, before, after, hps, hbefore⟩ := List.find?_eq_some_iff_append.mp hp
  obtain ⟨e, he⟩ := exists_expand_eq_error_iff.mpr (not_expands_iff.mp hexpands)
  refine ⟨before, p, after, e, hps, fun q hq => expands_iff.mp ?_, he⟩
  simpa using hbefore q hq

theorem flatMap_expanded_filter (ps : List Pair) :
    (ps.filter Pair.expands).flatMap Pair.expanded = ps.flatMap Pair.expanded := by
  induction ps with
  | nil => rfl
  | cons p ps ih =>
      rw [List.flatMap_cons, List.filter_cons]
      by_cases h : p.Fails
      · rw [if_neg fun hexpands => expands_iff.mp hexpands h, ih, expanded_eq_nil_iff.mpr h,
          List.nil_append]
      · rw [if_pos (expands_iff.mpr h), List.flatMap_cons, ih]

/-! ## The configuration of an outline -/

/-- The configuration of an outline. -/
def Outline.configuration (policy : Policy) (o : Outline) : Except Error Configuration :=
  (expandAll policy o.pairs).1.bind (Configuration.ofPairs o)

theorem compile_of_outline {source : Text} {o : Outline} (h : (outline source).1 = .ok o)
    (policy : Policy) : (compile policy source).1 = o.configuration policy := by
  obtain ⟨result, log, houtline⟩ : ∃ result log, outline source = (result, log) :=
    ⟨_, _, rfl⟩
  rw [houtline] at h
  obtain rfl : result = .ok o := h
  rw [compile, houtline, Outline.configuration]

theorem exists_outline_of_compile {policy : Policy} {source : Text} {c : Configuration}
    (h : (compile policy source).1 = .ok c) :
    ∃ o, (outline source).1 = .ok o ∧ o.configuration policy = .ok c := by
  cases houtline : (outline source).1 with
  | ok o => exact ⟨o, rfl, (compile_of_outline houtline policy).symm.trans h⟩
  | error e =>
      obtain ⟨result, log, hpair⟩ : ∃ result log, outline source = (result, log) := ⟨_, _, rfl⟩
      rw [hpair] at houtline
      obtain rfl : result = .error e := houtline
      rw [compile, hpair] at h
      cases h

/-- The bindings of expanded pairs, the first of each chord. -/
theorem ofPairs_of_ne_nil (o : Outline) {ps : List Pair} (h : ps ≠ []) :
    Configuration.ofPairs o ps = .ok
      { interpreter := o.interpreter
        globals := o.globals
        bindings := firsts Binding.normalized (ps.map Binding.ofPair) } := by
  refine if_neg ?_
  rw [firsts_eq_nil_iff, List.map_eq_nil_iff]
  exact h

theorem flatMap_expanded_ne_nil_iff {ps : List Pair} :
    ps.flatMap Pair.expanded ≠ [] ↔ ∃ p ∈ ps, ¬ p.Fails := by
  rw [Ne, List.flatMap_eq_nil_iff]
  simp only [expanded_eq_nil_iff]
  push Not
  rfl

/-- The bindings of an outline: of each chord the first that its pairs are expanded to. -/
def Outline.bindings (o : Outline) : List Binding :=
  firsts Binding.normalized ((o.pairs.flatMap Pair.expanded).map Binding.ofPair)

/-- The configuration of what an outline gives. -/
def Outline.settled (o : Outline) : Configuration :=
  { interpreter := o.interpreter, globals := o.globals, bindings := o.bindings }

theorem configuration_of_expands {policy : Policy} {o : Outline}
    (hpolicy : policy = .skip ∨ ∀ p ∈ o.pairs, ¬ p.Fails) (h : ∃ p ∈ o.pairs, ¬ p.Fails) :
    o.configuration policy = .ok o.settled := by
  rw [Outline.configuration, expandAll_eq_flatMap hpolicy]
  exact ofPairs_of_ne_nil o (flatMap_expanded_ne_nil_iff.mpr h)

theorem configuration_of_fails {policy : Policy} {o : Outline}
    (hpolicy : policy = .skip ∨ ∀ p ∈ o.pairs, ¬ p.Fails) (h : ∀ p ∈ o.pairs, p.Fails) :
    o.configuration policy = .error (Error.ofFault .empty) := by
  have hnone : o.pairs.flatMap Pair.expanded = [] :=
    List.flatMap_eq_nil_iff.mpr fun p hp => expanded_eq_nil_iff.mpr (h p hp)
  rw [Outline.configuration, expandAll_eq_flatMap hpolicy, hnone]
  rfl

theorem configuration_fatal {o : Outline} {before after : List Pair} {p : Pair}
    {e : ExpansionError} (hpairs : o.pairs = before ++ p :: after)
    (hbefore : ∀ q ∈ before, ¬ q.Fails) (h : expand p = .error e) :
    o.configuration .fatal = .error (expansionFault p e) := by
  rw [Outline.configuration, hpairs, expandAll_fatal hbefore h]
  rfl

/-- When an outline has a configuration, and which. -/
theorem configuration_eq_ok_iff {policy : Policy} {o : Outline} {c : Configuration} :
    o.configuration policy = .ok c ↔
      (policy = .skip ∨ ∀ p ∈ o.pairs, ¬ p.Fails) ∧ (∃ p ∈ o.pairs, ¬ p.Fails) ∧
        c = o.settled := by
  constructor
  · intro h
    have hpolicy : policy = .skip ∨ ∀ p ∈ o.pairs, ¬ p.Fails := by
      refine (em (policy = .skip)).imp_right fun hfatal p hp hfails => ?_
      obtain rfl : policy = .fatal := by cases policy <;> trivial
      obtain ⟨before, q, after, e, hpairs, hbefore, he⟩ := exists_first_failing ⟨p, hp, hfails⟩
      rw [configuration_fatal hpairs hbefore he] at h
      cases h
    have hsome : ∃ p ∈ o.pairs, ¬ p.Fails := by
      by_contra hnone
      push Not at hnone
      rw [configuration_of_fails hpolicy hnone] at h
      cases h
    rw [configuration_of_expands hpolicy hsome] at h
    cases h
    exact ⟨hpolicy, hsome, rfl⟩
  · rintro ⟨hpolicy, hsome, rfl⟩
    exact configuration_of_expands hpolicy hsome

/-! ## Repeated chords -/

/-- Dropping repeated chords pair by pair makes no difference to the bindings of an outline. -/
theorem bindings_eq_firsts (o : Outline) :
    o.bindings = firsts Binding.normalized
      (((o.pairs.filter Pair.expands).flatMap Pair.meanings).map Binding.ofPair) := by
  have hfirsts : ∀ p ∈ o.pairs.filter Pair.expands,
      p.expanded = firsts (fun q => normalText q.binding) p.meanings := by
    intro p hp
    obtain ⟨pairs, hpairs⟩ := exists_expand_iff.mpr (expands_iff.mp (List.mem_filter.mp hp).2)
    rw [expanded_of_ok hpairs, expand_eq_firsts hpairs]
  rw [Outline.bindings, ← flatMap_expanded_filter, List.flatMap_congr hfirsts, firsts_map,
    firsts_map]
  exact congrArg (List.map Binding.ofPair) (firsts_flatMap_firsts _ Pair.meanings _)

/-- The bindings of a configuration are what the pairs that can be expanded stand for, all of it in
order and once for each chord. -/
theorem compile_eq_eraseDupsBy (policy : Policy) (source : Text) (c : Configuration)
    (h : (compile policy source).1 = .ok c) :
    ∃ o, (outline source).1 = .ok o ∧
      c.bindings =
        (((o.pairs.filter Pair.expands).flatMap Pair.meanings).map Binding.ofPair).eraseDupsBy
          (fun a b => a.normalized == b.normalized) ∧
      (c.bindings.map Binding.normalized).Nodup := by
  obtain ⟨o, houtline, hconfiguration⟩ := exists_outline_of_compile h
  obtain ⟨-, -, rfl⟩ := configuration_eq_ok_iff.mp hconfiguration
  refine ⟨o, houtline, ?_, nodup_firsts _ _⟩
  rw [← firsts_eq_eraseDupsBy]
  exact bindings_eq_firsts o

/-- A chord twice in one pair and again in another, and a pair that is left out. -/
theorem compile_repeated_chords :
    let source := "#a+{b,B,1-2}\nx {1,2,_}\n#{c,d}\ny\n#A+b\nz\n".toList
    let c : Configuration :=
      { interpreter := .standard
        globals := []
        bindings := [⟨"a+b".toList, "a-b".toList, .keyPress, "x 1".toList⟩,
          ⟨"a+1".toList, "a-1".toList, .keyPress, "x ".toList⟩,
          ⟨"a+2".toList, "a-2".toList, .keyPress, "x ".toList⟩] }
    (compile .skip source).1 = .ok c ∧
      ∃ o, (outline source).1 = .ok o ∧
        c.bindings =
          (((o.pairs.filter Pair.expands).flatMap Pair.meanings).map Binding.ofPair).eraseDupsBy
            (fun a b => a.normalized == b.normalized) ∧
        (c.bindings.map Binding.normalized).Nodup :=
  ⟨ok_of_toOption (by decide +kernel),
    compile_eq_eraseDupsBy .skip _ _ (ok_of_toOption (by decide +kernel))⟩

/-! ## Policies -/

/-- Skipping leaves the configuration of the pairs that can be expanded, under either policy. -/
theorem configuration_skip (o : Outline) (policy : Policy) :
    o.configuration .skip =
      Outline.configuration policy { o with pairs := o.pairs.filter Pair.expands } := by
  have hkept : ∀ p ∈ o.pairs.filter Pair.expands, ¬ p.Fails := fun p hp =>
    expands_iff.mp (List.mem_filter.mp hp).2
  by_cases hsome : ∃ p ∈ o.pairs, ¬ p.Fails
  · obtain ⟨p, hp, hfails⟩ := hsome
    have hmem : p ∈ o.pairs.filter Pair.expands :=
      List.mem_filter.mpr ⟨hp, expands_iff.mpr hfails⟩
    rw [configuration_of_expands (Or.inl rfl) ⟨p, hp, hfails⟩,
      configuration_of_expands (Or.inr hkept) ⟨p, hmem, hfails⟩, Outline.settled,
      Outline.settled, Outline.bindings, Outline.bindings, flatMap_expanded_filter]
  · push Not at hsome
    rw [configuration_of_fails (Or.inl rfl) hsome,
      configuration_of_fails (Or.inr hkept) fun p hp => hsome p (List.mem_filter.mp hp).1]

theorem configuration_skip_eq_error_iff {o : Outline} {e : Error} :
    o.configuration .skip = .error e ↔ e = Error.ofFault .empty ∧ ∀ p ∈ o.pairs, p.Fails := by
  by_cases hsome : ∃ p ∈ o.pairs, ¬ p.Fails
  · rw [configuration_of_expands (Or.inl rfl) hsome]
    obtain ⟨p, hp, hfails⟩ := hsome
    exact iff_of_false (by simp) fun h => hfails (h.2 p hp)
  · push Not at hsome
    rw [configuration_of_fails (Or.inl rfl) hsome, Except.error.injEq, eq_comm]
    exact (and_iff_left hsome).symm

/-- The two policies differ only where a pair fails.  Then the first such pair is fatal, and
skipping leaves the configuration of the others, which there is unless all pairs fail.  A pair fails
for what stands in its groups, and one that does not fail stands for something. -/
theorem compile_under_policies (source : Text) (o : Outline) (h : (outline source).1 = .ok o) :
    (∀ policy, (compile policy source).1 = o.configuration policy) ∧
      ((∀ p ∈ o.pairs, ¬ p.Fails) → ∃ c, ∀ policy, (compile policy source).1 = .ok c) ∧
      ((∃ p ∈ o.pairs, p.Fails) →
        ∃ before p after e, o.pairs = before ++ p :: after ∧ (∀ q ∈ before, ¬ q.Fails) ∧
          expand p = .error e ∧
          (compile .fatal source).1 =
            .error { path := none, fault := .expand p.line p.binding e }) ∧
      (∀ policy, (compile .skip source).1 =
        Outline.configuration policy { o with pairs := o.pairs.filter Pair.expands }) ∧
      (∀ e, (compile .skip source).1 = .error e ↔
        e = Error.ofFault .empty ∧ ∀ p ∈ o.pairs, p.Fails) ∧
      ∀ p : Pair, (p.expands = true ↔ ¬ p.Fails) ∧ ((∃ e, expand p = .error e) ↔ p.Fails) ∧
        (¬ p.Fails → ∃ q qs, expand p = .ok (q :: qs)) := by
  have hcompile := compile_of_outline h
  refine ⟨hcompile, fun hall => ?_, fun hfails => ?_, fun policy => ?_, fun e => ?_, fun p => ?_⟩
  · obtain ⟨p, hp⟩ := List.exists_mem_of_ne_nil _ (outline_eq_ok_iff.mp h).2.2
    refine ⟨o.settled, fun policy => ?_⟩
    rw [hcompile, configuration_of_expands (Or.inr hall) ⟨p, hp, hall p hp⟩]
  · obtain ⟨before, p, after, e, hpairs, hbefore, he⟩ := exists_first_failing hfails
    refine ⟨before, p, after, e, hpairs, hbefore, he, ?_⟩
    rw [hcompile, configuration_fatal hpairs hbefore he]
    rfl
  · rw [hcompile, configuration_skip o policy]
  · rw [hcompile, configuration_skip_eq_error_iff]
  · refine ⟨expands_iff, exists_expand_eq_error_iff, fun hfails => ?_⟩
    obtain ⟨pairs, hpairs⟩ := exists_expand_iff.mpr hfails
    obtain ⟨q, qs, rfl⟩ := List.exists_cons_of_ne_nil (expand_ne_nil hpairs)
    exact ⟨q, qs, hpairs⟩

/-- A pair with a group that its command lacks, and a descending range behind it. -/
theorem compile_failing_pairs :
    let source := "#x\ngo\n#{c,d}\ny\n#{3-1}\n{1-3}\n".toList
    let o : Outline :=
      { interpreter := .standard
        globals := []
        pairs := [⟨"x".toList, "go".toList, 1⟩, ⟨"{c,d}".toList, "y".toList, 3⟩,
          ⟨"{3-1}".toList, "{1-3}".toList, 5⟩] }
    (outline source).1 = .ok o ∧
      (compile .fatal source).1 =
        .error { path := none, fault := .expand 3 "{c,d}".toList (.groupCount 1 0) } ∧
      (compile .skip source).1 =
        .ok { interpreter := .standard
              globals := []
              bindings := [⟨"x".toList, "x".toList, .keyPress, "go".toList⟩] } ∧
      (∀ policy, (compile policy source).1 = o.configuration policy) ∧
      ((∀ p ∈ o.pairs, ¬ p.Fails) → ∃ c, ∀ policy, (compile policy source).1 = .ok c) ∧
      ((∃ p ∈ o.pairs, p.Fails) →
        ∃ before p after e, o.pairs = before ++ p :: after ∧ (∀ q ∈ before, ¬ q.Fails) ∧
          expand p = .error e ∧
          (compile .fatal source).1 =
            .error { path := none, fault := .expand p.line p.binding e }) ∧
      (∀ policy, (compile .skip source).1 =
        Outline.configuration policy { o with pairs := o.pairs.filter Pair.expands }) ∧
      (∀ e, (compile .skip source).1 = .error e ↔
        e = Error.ofFault .empty ∧ ∀ p ∈ o.pairs, p.Fails) ∧
      ∀ p : Pair, (p.expands = true ↔ ¬ p.Fails) ∧ ((∃ e, expand p = .error e) ↔ p.Fails) ∧
        (¬ p.Fails → ∃ q qs, expand p = .ok (q :: qs)) :=
  ⟨by decide +kernel, by decide +kernel, by decide +kernel,
    compile_under_policies _ _ (by decide +kernel)⟩

end Hotkeys.Config
