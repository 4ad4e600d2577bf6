import Hotkeys.Proofs.Config.Compiling

/-!
# Configurations one behind the other

A configuration may be put behind another one, if the first ends with its line and the second begins
with a section.  Nothing of the first reaches into the second: its parts, its tokens, its sections
and its pairs are those of the two (`parts_append`, `tokensBelow_append`, `outlineOf_append`), and
of the second configuration's bindings those stay whose chords are new (`bindings_append`).

Main statement: `outline_append`.
-/

set_option autoImplicit false

namespace Hotkeys.Config

/-! ## Cutting joined lists -/

section Cutting

variable {α : Type} {p : α → Bool} {a : α}

theorem takeWhile_append_cons (h : p a = false) (l l' : List α) :
    (l ++ a :: l').takeWhile p = l.takeWhile p := by
  induction l with
  | nil => exact List.takeWhile_cons_of_neg (Bool.eq_false_iff.mp h)
  | cons b l ih => rw [List.cons_append, List.takeWhile_cons, List.takeWhile_cons, ih]

theorem dropWhile_append_cons (h : p a = false) (l l' : List α) :
    (l ++ a :: l').dropWhile p = l.dropWhile p ++ a :: l' := by
  induction l with
  | nil => exact List.dropWhile_cons_of_neg (Bool.eq_false_iff.mp h)
  | cons b l ih =>
      rw [List.cons_append, List.dropWhile_cons, List.dropWhile_cons, ih]
      split <;> rfl

end Cutting

/-! ## Parts -/

section Parts

variable {opener : Text} (hopener : isOpener opener = true)
include hopener

theorem not_isOpener_eq_false : (!isOpener opener) = false := by
  rw [hopener, Bool.not_true]

theorem keybindingParts_append (lines rest : List Text) :
    keybindingParts (lines ++ opener :: rest) =
      keybindingParts lines ++ keybindingParts (opener :: rest) := by
  have hcut := not_isOpener_eq_false hopener
  fun_induction keybindingParts lines with
  | case1 => rfl
  | case2 first lines ih =>
      rw [List.cons_append, keybindingParts_cons first, actionParts,
        takeWhile_append_cons (p := (!isOpener ·)) hcut,
        dropWhile_append_cons (p := (!isOpener ·)) hcut, ih]
      rfl

theorem partsBelow_append (lines rest : List Text) :
    partsBelow (lines ++ opener :: rest) =
      partsBelow lines ++ keybindingParts (opener :: rest) := by
  have hcut := not_isOpener_eq_false hopener
  rw [partsBelow, partsBelow, takeWhile_append_cons (p := (!isOpener ·)) hcut,
    dropWhile_append_cons (p := (!isOpener ·)) hcut, keybindingParts_append hopener,
    List.append_assoc]

theorem partsBelow_cons (rest : List Text) :
    partsBelow (opener :: rest) = keybindingParts (opener :: rest) := by
  have happend := partsBelow_append hopener [] rest
  rwa [partsBelow_nil, List.nil_append, List.nil_append] at happend

end Parts

/-- The interpreter line of a text that ends with its line does not depend on what follows. -/
theorem hasShebang_append {s : Text} (hs : s.getLast? = some '\n') (t : Text) :
    hasShebang (s ++ t) = hasShebang s := by
  obtain ⟨lead, rfl⟩ := List.getLast?_eq_some_iff.mp hs
  have hmark : '\n' ∉ "#!".toList := by decide
  rw [hasShebang, hasShebang, List.append_assoc, List.singleton_append,
    Text.beginsWith_append_cons hmark, Text.beginsWith_append_cons hmark]

/-- What a configuration may begin with to stand behind another one: a line that opens a keybinding
with a chord, and that is no interpreter line. -/
structure BeginsSection (source opener : Text) : Prop where
  /-- It is the first line. -/
  first : (Text.terminatedLines source).head? = some opener
  /-- It opens a keybinding. -/
  opens : isOpener opener = true
  /-- It is no interpreter line. -/
  notShebang : hasShebang source = false
  /-- There is a chord behind its `#`. -/
  chord : isChord (bindingOf opener) = true

section Append

variable {s t opener : Text}

theorem parts_of_beginsSection (ht : BeginsSection t opener) :
    ∃ rest, Text.terminatedLines t = opener :: rest ∧
      parts t = keybindingParts (opener :: rest) := by
  obtain ⟨rest, hlines⟩ := List.head?_eq_some_iff.mp ht.first
  refine ⟨rest, hlines, ?_⟩
  rw [parts, ht.notShebang, hlines, partsBelow_cons ht.opens]
  rfl

theorem parts_append (hs : s.getLast? = some '\n') (ht : BeginsSection t opener) :
    parts (s ++ t) = parts s ++ parts t := by
  obtain ⟨rest, hlines, hparts⟩ := parts_of_beginsSection ht
  have hnewline : ∀ c ∈ s.getLast?, c = '\n' := fun c hc =>
    (Option.some.inj (hs.symm.trans hc)).symm
  rw [hparts, parts, hasShebang_append hs, Text.terminatedLines_append hnewline, hlines, parts]
  cases hasShebang s with
  | false => exact partsBelow_append ht.opens _ rest
  | true =>
      -- The interpreter line is one of `s`, which therefore has a line to take off.
      have hne : Text.terminatedLines s ≠ [] := fun hnil => by
        have hs' := Text.flatten_terminatedLines s
        rw [hnil, List.flatten_nil] at hs'
        rw [← hs'] at hs
        cases hs
      obtain ⟨line, lines, hlines'⟩ := List.exists_cons_of_ne_nil hne
      rw [hlines']
      exact congrArg (_ :: ·) (partsBelow_append ht.opens lines rest)

/-! ## Faults -/

theorem linesFault_eq_none_iff {n : Nat} {lines : List Text} :
    linesFault n lines = none ↔ ∀ line ∈ lines, lineFault line = none := by
  induction lines generalizing n with
  | nil => exact iff_of_true rfl (List.forall_mem_nil _)
  | cons line lines ih =>
      rw [linesFault_cons, Option.or_eq_none_iff, Option.map_eq_none_iff, ih,
        List.forall_mem_cons]

/-- Whether a part has a fault does not depend on where it stands. -/
theorem Part.fault?_eq_none_iff (p : Part) (n m : Nat) :
    p.fault? n = none ↔ p.fault? m = none := by
  rw [fault?, fault?]
  split
  case isTrue => rw [linesFault_eq_none_iff, linesFault_eq_none_iff]
  case isFalse => rfl

theorem checkedPieces_eq_none_iff {n : Nat} {ps : List Part} :
    (checkedPieces n ps).2 = none ↔ ∀ p ∈ ps, p.fault? 1 = none := by
  induction ps generalizing n with
  | nil => exact iff_of_true rfl (List.forall_mem_nil _)
  | cons p ps ih =>
      rw [checkedPieces_fault_cons, Option.or_eq_none_iff, ih, p.fault?_eq_none_iff n 1,
        List.forall_mem_cons]

theorem error_eq_none_iff {source : Text} :
    (tokens source).error = none ↔ ∀ p ∈ parts source, p.fault? 1 = none := by
  have herror : (tokens source).error = (checkedPieces 1 (parts source)).2 :=
    congrArg Prod.snd (pieces_encode source)
  rw [herror, checkedPieces_eq_none_iff]

theorem error_append (hs : s.getLast? = some '\n') (ht : BeginsSection t opener)
    (herror : (tokens s).error = none) (herror' : (tokens t).error = none) :
    (tokens (s ++ t)).error = none := by
  rw [error_eq_none_iff, parts_append hs ht]
  exact List.forall_mem_append.mpr ⟨error_eq_none_iff.mp herror, error_eq_none_iff.mp herror'⟩

end Append

/-! ## Tokens further down -/

/-- A token that stands `k` lines further down. -/
def Token.below (k : Nat) (t : Token) : Token :=
  { t with line := t.line + k }

/-- A section that stands `k` lines further down. -/
def Section.below (k : Nat) (s : Section) : Section :=
  { opener := s.opener.below k, body := s.body.map (Token.below k) }

/-- A pair that stands `k` lines further down. -/
def Pair.below (k : Nat) (p : Pair) : Pair :=
  { p with line := p.line + k }

theorem tokensBelow_add (n k : Nat) (ps : List Part) :
    tokensBelow (n + k) ps = (tokensBelow n ps).map (Token.below k) := by
  induction ps generalizing n with
  | nil => rfl
  | cons p ps ih =>
      rw [tokensBelow, tokensBelow, List.map_cons, ← ih, Nat.add_right_comm n k,
        Token.below, Nat.add_right_comm n k]

theorem tokensBelow_append (n : Nat) (ps qs : List Part) :
    tokensBelow n (ps ++ qs) =
      tokensBelow n ps ++
        (tokensBelow n qs).map (Token.below ((ps.flatMap Part.text).count '\n')) := by
  induction ps generalizing n with
  | nil => exact (List.map_id _).symm
  | cons p ps ih =>
      rw [List.cons_append, tokensBelow, tokensBelow, ih, List.cons_append, ← tokensBelow_add,
        ← tokensBelow_add, List.flatMap_cons, List.count_append, Nat.add_assoc]
      rfl

theorem sections_map_below (k : Nat) (ts : List Token) :
    sections (ts.map (Token.below k)) = (sections ts).map (Section.below k) := by
  induction ts with
  | nil => rfl
  | cons t ts ih =>
      have hopens : (t.below k).opensSection = t.opensSection := rfl
      rw [List.map_cons, sections, sections, hopens, ih, List.takeWhile_map]
      split <;> rfl

theorem Section.pair?_below (k : Nat) (s : Section) :
    (s.below k).pair? = s.pair?.map (Pair.below k) := by
  have htext : actionText (s.below k).body = actionText s.body := by
    rw [Section.below, actionText, actionText, List.filter_map, List.flatMap_map]
    rfl
  rw [pair?, pair?, htext, OpenPair.pair?, OpenPair.pair?]
  by_cases hcommand : commandOf (actionText s.body) = []
  · simp only [hcommand, if_true, Option.map_none]
  · simp only [hcommand, if_false, Option.map_some]
    rfl

/-! ## Sections of joined tokens -/

theorem sections_append {t : Token} (h : t.opensSection = true) (ts ts' : List Token) :
    sections (ts ++ t :: ts') = sections ts ++ sections (t :: ts') := by
  induction ts with
  | nil => rfl
  | cons u ts ih =>
      have hcut : (!t.opensSection) = false := by rw [h, Bool.not_true]
      rw [List.cons_append, sections, sections, ih,
        takeWhile_append_cons (p := (!Token.opensSection ·)) hcut]
      split <;> rfl

theorem linesAbove_append {t : Token} (h : t.opensSection = true) (ts ts' : List Token) :
    linesAbove (ts ++ t :: ts') = linesAbove ts := by
  have hcut : (!t.opensSection) = false := by rw [h, Bool.not_true]
  rw [linesAbove, takeWhile_append_cons (p := (!Token.opensSection ·)) hcut, linesAbove]

theorem interpreterAfter_eq {i : Interpreter} {ts : List Token}
    (h : ∀ t ∈ ts, t.kind ≠ .shebang) : interpreterAfter i ts = i := by
  induction ts with
  | nil => rfl
  | cons t ts ih =>
      obtain ⟨ht, hts⟩ := List.forall_mem_cons.mp h
      rw [interpreterAfter, List.foldl_cons, if_neg ht]
      exact ih hts

theorem outlineOf_append (k : Nat) {t : Token} (h : t.opensSection = true) {ts' : List Token}
    (hkinds : ∀ u ∈ t :: ts', u.kind ≠ .shebang) (ts : List Token) :
    outlineOf (ts ++ (t :: ts').map (Token.below k)) =
      { interpreter := (outlineOf ts).interpreter
        globals := (outlineOf ts).globals
        pairs := (outlineOf ts).pairs ++ (outlineOf (t :: ts')).pairs.map (Pair.below k) } := by
  have hopens : (t.below k).opensSection = true := h
  have hbelow : ∀ u ∈ (t :: ts').map (Token.below k), u.kind ≠ .shebang := by
    intro u hu
    obtain ⟨v, hv, rfl⟩ := List.mem_map.mp hu
    exact hkinds v hv
  have hinterpreter : interpreterAfter .standard (ts ++ (t :: ts').map (Token.below k)) =
      interpreterAfter .standard ts := by
    rw [interpreterAfter, List.foldl_append]
    exact interpreterAfter_eq hbelow
  have hpairs : (sections ((t :: ts').map (Token.below k))).filterMap Section.pair? =
      (outlineOf (t :: ts')).pairs.map (Pair.below k) := by
    rw [sections_map_below, List.filterMap_map, outlineOf, List.map_filterMap]
    exact List.filterMap_congr fun s _ => s.pair?_below k
  rw [outlineOf, hinterpreter, ← hpairs, List.map_cons, linesAbove_append hopens,
    sections_append hopens, List.filterMap_append]
  rfl

/-! ## Tokens of joined configurations -/

/-- The parts of keybinding lines are no interpreter lines. -/
theorem kind_keybindingParts (lines : List Text) :
    ∀ p ∈ keybindingParts lines, p.kind ≠ .shebang := by
  fun_induction keybindingParts lines with
  | case1 => exact List.forall_mem_nil _
  | case2 opener rest ih =>
      intro p hp
      rcases List.mem_cons.mp hp with rfl | hp
      · intro hkind
        cases hkind
      · rcases List.mem_cons.mp hp with rfl | hp
        · intro hkind
          cases hkind
        · exact ih p hp

theorem kind_tokensBelow {kind : TokenKind} {n : Nat} {ps : List Part}
    (h : ∀ p ∈ ps, p.kind ≠ kind) : ∀ t ∈ tokensBelow n ps, t.kind ≠ kind := by
  induction ps generalizing n with
  | nil => exact List.forall_mem_nil _
  | cons p ps ih =>
      obtain ⟨hp, hps⟩ := List.forall_mem_cons.mp h
      exact List.forall_mem_cons.mpr ⟨hp, ih hps⟩

section Joined

variable {s t opener : Text}

theorem outlineOf_parts_append (hs : s.getLast? = some '\n') (ht : BeginsSection t opener) :
    outlineOf (tokensBelow 0 (parts (s ++ t))) =
      { interpreter := (outlineOf (tokensBelow 0 (parts s))).interpreter
        globals := (outlineOf (tokensBelow 0 (parts s))).globals
        pairs := (outlineOf (tokensBelow 0 (parts s))).pairs ++
          (outlineOf (tokensBelow 0 (parts t))).pairs.map (Pair.below (s.count '\n')) } := by
  obtain ⟨rest, -, hparts⟩ := parts_of_beginsSection ht
  have hkinds := kind_tokensBelow (n := 0) (kind_keybindingParts (opener :: rest))
  have hopens : ∀ line, Token.opensSection ⟨.keybinding, opener, line⟩ = true := fun _ => ht.chord
  rw [parts_append hs ht, tokensBelow_append, text_parts, hparts]
  -- The first token of `t` has to show itself, since the cut is made there.
  rw [keybindingParts_cons, tokensBelow, Part.text_keybinding] at hkinds ⊢
  exact outlineOf_append _ (hopens _) hkinds _

theorem outline_append_fst {o o' : Outline} (hs : s.getLast? = some '\n')
    (ht : BeginsSection t opener) (ho : (outline s).1 = .ok o) (ho' : (outline t).1 = .ok o') :
    (outline (s ++ t)).1 =
      .ok { o with pairs := o.pairs ++ o'.pairs.map (Pair.below (s.count '\n')) } := by
  obtain ⟨herror, rfl, hpairs⟩ := outline_eq_ok_iff.mp ho
  obtain ⟨herror', rfl, -⟩ := outline_eq_ok_iff.mp ho'
  refine outline_eq_ok_iff.mpr ⟨error_append hs ht herror herror', ?_, ?_⟩
  · exact (outlineOf_parts_append hs ht).symm
  · exact List.append_ne_nil_of_left_ne_nil hpairs _

end Joined

/-! ## Pairs further down -/

theorem meanings_below (k : Nat) (p : Pair) :
    (p.below k).meanings = p.meanings.map (Pair.below k) := by
  have hassigned : (p.below k).assigned = p.assigned.map (Pair.below k) := by
    rw [Pair.assigned, Pair.assigned, List.map_flatMap]
    refine List.flatMap_congr fun rows _ => ?_
    rw [List.map_map]
    rfl
  have hbinding : (p.below k).binding = p.binding := rfl
  rw [Pair.meanings, Pair.meanings, hassigned, hbinding]
  split <;> rfl

theorem expanded_below (k : Nat) (p : Pair) :
    (p.below k).expanded = p.expanded.map (Pair.below k) := by
  have hfails : (p.below k).Fails ↔ p.Fails := Iff.rfl
  by_cases h : p.Fails
  · rw [expanded_eq_nil_iff.mpr h, expanded_eq_nil_iff.mpr (hfails.mpr h), List.map_nil]
  · obtain ⟨pairs, hpairs⟩ := exists_expand_iff.mpr h
    obtain ⟨below, hbelow⟩ := exists_expand_iff.mpr (mt hfails.mp h)
    rw [expanded_of_ok hpairs, expanded_of_ok hbelow, expand_eq_firsts hpairs,
      expand_eq_firsts hbelow, meanings_below, firsts_map]
    rfl

/-- Bindings do not know their lines. -/
theorem bindings_map_below (k : Nat) (ps : List Pair) :
    ((ps.map (Pair.below k)).flatMap Pair.expanded).map Binding.ofPair =
      (ps.flatMap Pair.expanded).map Binding.ofPair := by
  rw [List.flatMap_map, List.map_flatMap, List.map_flatMap]
  refine List.flatMap_congr fun p _ => ?_
  rw [expanded_below, List.map_map]
  rfl

/-- Of more pairs those bindings stay whose chords are new. -/
theorem bindings_append (k : Nat) (o o' : Outline) :
    Outline.bindings { o with pairs := o.pairs ++ o'.pairs.map (Pair.below k) } =
      o.bindings ++
        o'.bindings.filter fun b => !(o.bindings.map Binding.normalized).contains b.normalized := by
  rw [Outline.bindings, List.flatMap_append, List.map_append, bindings_map_below, firsts_append]
  rfl

theorem configuration_append {policy : Policy} (k : Nat) {o o' : Outline} {c c' : Configuration}
    (h : o.configuration policy = .ok c) (h' : o'.configuration policy = .ok c') :
    Outline.configuration policy { o with pairs := o.pairs ++ o'.pairs.map (Pair.below k) } =
      .ok { c with
            bindings := c.bindings ++ c'.bindings.filter fun b =>
              !(c.bindings.map Binding.normalized).contains b.normalized } := by
  obtain ⟨hpolicy, ⟨p, hp, hfails⟩, rfl⟩ := configuration_eq_ok_iff.mp h
  obtain ⟨hpolicy', -, rfl⟩ := configuration_eq_ok_iff.mp h'
  have hpolicy'' : policy = .skip ∨
      ∀ p ∈ o.pairs ++ o'.pairs.map (Pair.below k), ¬ p.Fails := by
    rcases hpolicy with hskip | hall
    · exact Or.inl hskip
    · rcases hpolicy' with hskip | hall'
      · exact Or.inl hskip
      · exact Or.inr (List.forall_mem_append.mpr ⟨hall, List.forall_mem_map.mpr hall'⟩)
  refine configuration_eq_ok_iff.mpr ⟨hpolicy'', ⟨p, List.mem_append_left _ hp, hfails⟩, ?_⟩
  exact congrArg (Configuration.mk o.interpreter o.globals) (bindings_append k o o').symm

/-! ## Main statement -/

/-- Behind a configuration that ends with its line another one may stand that begins with a section.
The outline is that of the first with the pairs of the second on their new lines, and the bindings
are those of the first and those of the second whose chords are new. -/
theorem outline_append (s t opener : Text) (o o' : Outline) (hs : s.getLast? = some '\n')
    (ht : BeginsSection t opener) (ho : (outline s).1 = .ok o) (ho' : (outline t).1 = .ok o') :
    (outline (s ++ t)).1 =
        .ok { interpreter := o.interpreter
              globals := o.globals
              pairs := o.pairs ++
                o'.pairs.map fun p => { p with line := p.line + s.count '\n' } } ∧
      ∀ policy c c', (compile policy s).1 = .ok c → (compile policy t).1 = .ok c' →
        (compile policy (s ++ t)).1 =
          .ok { c with
                bindings := c.bindings ++ c'.bindings.filter fun b =>
                  !(c.bindings.map Binding.normalized).contains b.normalized } := by
  have houtline := outline_append_fst hs ht ho ho'
  refine ⟨houtline, fun policy c c' hc hc' => ?_⟩
  rw [compile_of_outline ho] at hc
  rw [compile_of_outline ho'] at hc'
  rw [compile_of_outline houtline]
  exact configuration_append _ hc hc'

/-- An interpreter line, preamble, a keybinding without a command at the end of the first, and a
chord that both have. -/
theorem outline_append_repeated_chord :
    let s := "#!sh\nA=1\n#a\ngo\n#b\n".toList
    let t := "#c\nrun\n#A\nno\n".toList
    let o : Outline := ⟨⟨"sh".toList, []⟩, "A=1\n".toList, [⟨"a".toList, "go".toList, 3⟩]⟩
    let o' : Outline := ⟨.standard, [],
      [⟨"c".toList, "run".toList, 1⟩, ⟨"A".toList, "no".toList, 3⟩]⟩
    s.getLast? = some '\n' ∧ BeginsSection t "#c\n".toList ∧ (outline s).1 = .ok o ∧
      (outline t).1 = .ok o' ∧
      (compile .fatal (s ++ t)).1 =
        .ok { interpreter := o.interpreter
              globals := o.globals
              bindings := [⟨"a".toList, "a".toList, .keyPress, "go".toList⟩,
                ⟨"c".toList, "c".toList, .keyPress, "run".toList⟩] } ∧
      (outline (s ++ t)).1 =
        .ok { interpreter := o.interpreter
              globals := o.globals
              pairs := o.pairs ++
                o'.pairs.map fun p => { p with line := p.line + s.count '\n' } } ∧
      ∀ policy c c', (compile policy s).1 = .ok c → (compile policy t).1 = .ok c' →
        (compile policy (s ++ t)).1 =
          .ok { c with
                bindings := c.bindings ++ c'.bindings.filter fun b =>
                  !(c.bindings.map Binding.normalized).contains b.normalized } :=
  ⟨by decide, ⟨by decide, by decide, by decide, by decide⟩, by decide +kernel, by decide +kernel,
    by decide +kernel,
    outline_append _ _ "#c\n".toList _ _ (by decide)
      ⟨by decide, by decide, by decide, by decide⟩ (by decide +kernel) (by decide +kernel)⟩

end Hotkeys.Config
