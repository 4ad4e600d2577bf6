import Hotkeys.CommandLine.Work
import Hotkeys.Proofs.CommandLine.Reading

/-!
# What the background process is asked for

The arguments of the background process are picked from those of its parent without reading them as
options.  Read as options they ask for the same, less the switches that are not handed on.

The grammar of the command line has one rule for each way in which an argument can be read, and what
is picked of arguments that follow a rule follows a rule again (`Reads.handedOn`).  An open switch
keeps its value, since neither what is a value nor whether there is one depends on what was left out
behind it.  Main statement: `parse_backgroundArgs`, for every parser that follows the grammar.  So
the background process does not go to the background, and a run needs to be able to run itself again
only once (`runIn_add_two`).
-/

set_option autoImplicit false

namespace Hotkeys.CommandLine

/-! ## Switches that are handed on -/

/-- Whether a switch is handed on to the background process. -/
def Switch.isHandedOn : Switch → Bool
  | .background | .interactive => false
  | _ => true

/-- The settings that are handed on. -/
def handedOnSettings (settled : List Setting) : List Setting :=
  settled.filter fun setting => setting.1.isHandedOn

namespace Switch

theorem isHandedOn_of_arity {s : Switch} (h : s.arity ≠ .bare) : s.isHandedOn = true := by
  cases s <;> first | rfl | exact absurd rfl h

end Switch

theorem gives_handedOnSettings {s : Switch} (hs : s.isHandedOn = true) (settled : List Setting) :
    gives (handedOnSettings settled) s = gives settled s := by
  rw [gives, gives, handedOnSettings, List.any_filter]
  refine List.any_congr rfl fun setting => ?_
  by_cases hsame : setting.1 = s
  · rw [hsame, hs, Bool.true_and]
  · rw [beq_eq_false_iff_ne.mpr hsame, Bool.and_false]

theorem gives_handedOnSettings_of_not {s : Switch} (hs : s.isHandedOn = false)
    (settled : List Setting) : gives (handedOnSettings settled) s = false := by
  rw [gives, List.any_eq_false]
  intro setting hsetting hsame
  have hkept := (List.mem_filter.mp hsetting).2
  rw [beq_iff_eq.mp hsame, hs] at hkept
  exact Bool.false_ne_true hkept

theorem valueOf_handedOnSettings {s : Switch} (hs : s.isHandedOn = true)
    (settled : List Setting) : valueOf (handedOnSettings settled) s = valueOf settled s := by
  rw [valueOf, valueOf, handedOnSettings, List.find?_filter]
  congr 2
  funext setting
  by_cases hsame : setting.1 = s
  · simp [hsame, hs]
  · simp [hsame]

/-! ## What is handed on of an argument -/

theorem isLeftOut_iff {arg : Text} : isLeftOut arg = true ↔
    arg = ['-', 'b'] ∨ arg = '-' :: '-' :: Switch.background.word.toList ∨
      arg = ['-', 'i'] ∨ arg = '-' :: '-' :: Switch.interactive.word.toList := by
  simp [isLeftOut, Switch.word]

/-- A cluster is left out where none of its letters is handed on; `-b` and `-i` are no exception. -/
theorem keptOf_letters {c : Char} (hc : c ≠ '-') (rest : Text) :
    keptOf ('-' :: c :: rest) =
      (if (keptLetters (c :: rest)).1 = [] then [] else ['-' :: (keptLetters (c :: rest)).1],
        (keptLetters (c :: rest)).2) := by
  cases hleft : isLeftOut ('-' :: c :: rest) with
  | true =>
      rcases isLeftOut_iff.mp hleft with h | h | h | h
      · cases h
        rfl
      · exact absurd (List.cons.inj (List.cons.inj h).2).1 hc
      · cases h
        rfl
      · exact absurd (List.cons.inj (List.cons.inj h).2).1 hc
  | false =>
      rw [keptOf, hleft, if_neg Bool.false_ne_true]
      exact hc

/-- An argument that is no switch is handed on as it is. -/
theorem keptOf_value {arg : Text} (h : ∀ c rest, arg ≠ '-' :: c :: rest) :
    keptOf arg = ([arg], false) := by
  cases hleft : isLeftOut arg with
  | true =>
      rcases isLeftOut_iff.mp hleft with harg | harg | harg | harg <;> exact absurd harg (h _ _)
  | false =>
      rw [keptOf, hleft, if_neg Bool.false_ne_true]
      · exact h '-'
      · exact h

/-- An argument that is no value is handed on by itself. -/
theorem handedOn_cons (arg : Text) (rest : List Text) :
    handedOn false (arg :: rest) = (keptOf arg).1 ++ handedOn (keptOf arg).2 rest :=
  rfl

/-- A switch that is written in full is handed on as it is, and what is behind it is a value if one
has to follow. -/
theorem keptOf_spelled (s : Switch) :
    keptOf s.spelled =
      if s.isHandedOn then ([s.spelled], decide (s.arity = .valued)) else ([], false) := by
  cases s <;> rfl

theorem keptOf_assigned (s : Switch) (v : Text) :
    keptOf (s.spelled ++ '=' :: v) = ([s.spelled ++ '=' :: v], false) := by
  cases s <;> rfl

/-- A letter of a flag is handed on or left out by itself. -/
theorem keptLetters_flag {s : Switch} {c : Char} (hletter : s.letter? = some c)
    (hflag : s.isFlag = true) (letters : Text) :
    keptLetters (c :: letters) =
      if s.isHandedOn then (c :: (keptLetters letters).1, (keptLetters letters).2)
      else keptLetters letters := by
  cases s <;> cases hletter <;> first | rfl | cases hflag

/-- A letter of any other switch is handed on with what is behind it. -/
theorem keptLetters_valued {s : Switch} {c : Char} (hletter : s.letter? = some c)
    (harity : s.arity ≠ .bare) (letters : Text) :
    keptLetters (c :: letters) = (c :: letters, decide (s.arity = .valued) && letters.isEmpty) := by
  cases s <;> cases hletter <;> first | rfl | exact absurd rfl harity

/-! ## Rule by rule -/

variable {attached : Text → Text}

/-- An open switch keeps its value: a value that follows it is handed on, and one that stands in for
it does so again, as what is handed on behind it does not begin with a value. -/
protected theorem TakesNext.handedOn {s : Switch} {rest left : List Text} {v : Text}
    (h : TakesNext s rest v left)
    (hleft : ∀ next ∈ (handedOn false left).head?, isSwitchLike next = true) :
    TakesNext s (handedOn (decide (s.arity = .valued)) rest) v (handedOn false left) := by
  cases h with
  | value hvalue =>
      have hkept : CommandLine.handedOn (decide (s.arity = .valued)) (v :: left) =
          v :: CommandLine.handedOn false left := by
        cases hvalued : decide (s.arity = .valued) with
        | true => rfl
        | false =>
            rw [handedOn_cons, keptOf_value (isSwitchLike_eq_false_iff.mp hvalue)]
            rfl
      rw [hkept]
      exact .value hvalue
  | standIn harity _ =>
      simp only [harity, reduceCtorEq, decide_false]
      exact .standIn harity hleft

theorem handedOnSettings_cons {s : Switch} {v : Text} (settings : List Setting) :
    handedOnSettings ((s, v) :: settings) =
      if s.isHandedOn then (s, v) :: handedOnSettings settings else handedOnSettings settings :=
  List.filter_cons

/-- The letters that are handed on make the settings that are. -/
protected theorem ReadsCluster.handedOn {letters : Text} {rest left : List Text}
    {front : List Setting} (h : ReadsCluster attached letters rest front left)
    (hleft : ∀ next ∈ (handedOn false left).head?, isSwitchLike next = true) :
    ReadsCluster attached (keptLetters letters).1 (handedOn (keptLetters letters).2 rest)
      (handedOnSettings front) (handedOn false left) := by
  induction h with
  | done => exact .done
  | @flag s c letters rest left front hletter hflag _ ih =>
      rw [keptLetters_flag hletter hflag, handedOnSettings_cons]
      split
      case isTrue => exact .flag hletter hflag (ih hleft)
      case isFalse => exact ih hleft
  | assigned hletter harity hne =>
      rw [keptLetters_valued hletter harity, handedOnSettings_cons,
        if_pos (Switch.isHandedOn_of_arity harity), List.isEmpty_eq_false_iff.mpr hne,
        Bool.and_false]
      exact .assigned hletter harity hne
  | opened hletter harity hnext =>
      rw [keptLetters_valued hletter harity, handedOnSettings_cons,
        if_pos (Switch.isHandedOn_of_arity harity), List.isEmpty_nil, Bool.and_true]
      exact .opened hletter harity (hnext.handedOn hleft)

/-- The arguments that are handed on make the settings that are. -/
protected theorem Reads.handedOn {args : List Text} {settings : List Setting}
    (h : Reads attached args settings) :
    Reads attached (backgroundArgs args) (handedOnSettings settings) := by
  rw [backgroundArgs]
  induction h with
  | done => exact .done
  | ended => exact .ended
  | @flag s rest settings hflag _ ih =>
      have hbare : decide (s.arity = .valued) = false := by
        cases s <;> first | rfl | cases hflag
      rw [handedOn_cons, keptOf_spelled, handedOnSettings_cons]
      split
      case isTrue =>
        rw [hbare]
        exact .flag hflag ih
      case isFalse => exact ih
  | assigned harity _ ih =>
      rw [handedOn_cons, keptOf_assigned,
        handedOnSettings_cons, if_pos (Switch.isHandedOn_of_arity harity)]
      exact .assigned harity ih
  | opened harity hnext _ ih =>
      have hkept := Switch.isHandedOn_of_arity harity
      rw [handedOn_cons, keptOf_spelled, if_pos hkept,
        handedOnSettings_cons, if_pos hkept]
      exact .opened harity (hnext.handedOn ih.head_isSwitchLike) ih
  | @cluster c letters rest left front settings hletters _ ih =>
      have hfront := hletters.handedOn ih.head_isSwitchLike
      have hboth : handedOnSettings (front ++ settings) =
          handedOnSettings front ++ handedOnSettings settings := List.filter_append _ _
      rw [handedOn_cons, keptOf_letters hletters.ne_dash, hboth]
      generalize keptLetters (c :: letters) = kept at hfront ⊢
      obtain ⟨kept, isValue⟩ := kept
      cases kept with
      | nil =>
          rw [if_pos rfl]
          generalize CommandLine.handedOn isValue rest = behind at hfront ⊢
          generalize handedOnSettings front = made at hfront ⊢
          cases hfront with
          | done => exact ih
      | cons d ds => exact .cluster hfront ih

/-! ## Options -/

theorem not_clashes_handedOnSettings {settled : List Setting} (h : clashes settled = false) :
    clashes (handedOnSettings settled) = false := by
  rw [clashes, List.any_eq_false] at h ⊢
  intro a ha hclash
  obtain ⟨b, hb, hexcludes⟩ := List.any_eq_true.mp hclash
  exact h a (List.mem_filter.mp ha).1
    (List.any_eq_true.mpr ⟨b, (List.mem_filter.mp hb).1, hexcludes⟩)

/-- Settings that may stand together may do so without those that are not handed on. -/
theorem Admissible.handedOn {isValue : Switch → Text → Bool} {settings : List Setting}
    (h : Admissible isValue settings) : Admissible isValue (handedOnSettings settings) where
  once := h.once.sublist (List.filter_sublist.map Prod.fst)
  values := fun setting hsetting => h.values setting (List.mem_filter.mp hsetting).1
  compatible := not_clashes_handedOnSettings h.compatible
  companion := by
    rw [gives_handedOnSettings rfl, gives_handedOnSettings rfl]
    exact h.companion

/-- What is handed on asks for the same, less the switches that are not. -/
theorem ofSettings_handedOnSettings (settled : List Setting) :
    Options.ofSettings (handedOnSettings settled) =
      { Options.ofSettings settled with background := false, interactive := false } := by
  have hgives := fun s (hs : Switch.isHandedOn s = true) => gives_handedOnSettings hs settled
  have hvalue := fun s (hs : Switch.isHandedOn s = true) => valueOf_handedOnSettings hs settled
  have hnone := fun s (hs : Switch.isHandedOn s = false) =>
    gives_handedOnSettings_of_not hs settled
  simp only [Options.ofSettings, hgives .dryRun rfl, hgives .json rfl, hgives .parseTime rfl,
    hgives .kill rfl, hgives .reload rfl, hgives .verbose rfl, hgives .lenient rfl,
    hgives .trace rfl, hgives .debug rfl, hvalue .config rfl, hvalue .edit rfl,
    hvalue .logLevel rfl, hvalue .logFilter rfl, hnone .background rfl, hnone .interactive rfl]

/-- A parser reads of what is handed on the settings that are. -/
theorem CommandParser.exists_handedOn {p : CommandParser} {args : List Text} {o : Options}
    (h : p.parse args = .ok o) :
    ∃ settings, o = Options.ofSettings settings ∧
      p.parse (backgroundArgs args) = .ok (Options.ofSettings (handedOnSettings settings)) := by
  obtain ⟨settings, hreads, hadmissible, rfl⟩ := (p.parse_eq_ok_iff args o).mp h
  exact ⟨settings, rfl, (p.parse_eq_ok_iff _ _).mpr
    ⟨_, hreads.handedOn, hadmissible.handedOn, rfl⟩⟩

/-- The background process is asked for what its parent was asked for, less going to the background
and opening an editor, whatever parser follows the grammar. -/
theorem parse_backgroundArgs (p : CommandParser) (args : List Text) (o : Options)
    (h : p.parse args = .ok o) :
    p.parse (backgroundArgs args) = .ok { o with background := false, interactive := false } := by
  obtain ⟨settings, rfl, hchild⟩ := CommandParser.exists_handedOn h
  rw [hchild, ofSettings_handedOnSettings]

/-- A cluster that is handed on in part, with a value that is spelt like a switch behind it; a file
to edit that is left open when a switch behind it is left out; and values that begin with letters
that are left out. -/
theorem parse_backgroundArgs_of_cluster :
    let args := ["-ivb".toList, "--log-level".toList, "b".toList, "--edit".toList, "-dp".toList,
      "--log-filter=-i".toList, "--json".toList, "--".toList]
    let o : Options :=
      { config := none, dryRun := true, json := true, parseTime := true, background := true,
        interactive := true, kill := false, reload := false, edit := some Config.fileName,
        verbose := true, lenient := false,
        log := ⟨false, false, some "b".toList, some "-i".toList⟩ }
    CommandParser.fromLeft.parse args = .ok o ∧
      backgroundArgs args = ["-v".toList, "--log-level".toList, "b".toList, "--edit".toList,
        "-dp".toList, "--log-filter=-i".toList, "--json".toList, "--".toList] ∧
      CommandParser.fromLeft.parse (backgroundArgs args) =
        .ok { o with background := false, interactive := false } :=
  ⟨by rfl, by rfl, parse_backgroundArgs .fromLeft _ _ (by rfl)⟩

/-! ## Running again -/

section Again

variable {around : Surroundings} {again again' : Start → Stage → Ending × Stage} {s : Start}
  {o : Options}

/-- Of the runs that may follow, only that with the arguments of the background process matters. -/
theorem perform_congr (h : ∀ child stage, child.args = backgroundArgs s.args →
    again child stage = again' child stage) :
    perform around again s o = perform around again' s o := by
  have hback : sendBack again s = sendBack again' s := by
    funext buffer
    simp only [sendBack, h { s with args := backgroundArgs s.args, input := _ } _ rfl]
  rw [perform, perform, hback]

/-- No run follows one that does not go to the background. -/
theorem perform_eq_of_not_background (h : o.background = false) :
    perform around again s o = perform around again' s o := by
  simp only [perform, h, Bool.false_eq_true, if_false]

/-- A run runs itself again at most once: it makes no difference how often it may. -/
theorem runIn_add_two (p : CommandParser) (hparse : around.parse = p.parse) (depth : Nat)
    (stage : Stage) : runIn around (depth + 2) s stage = runIn around 2 s stage := by
  rw [runIn, runIn]
  cases hread : around.parse s.args with
  | error stop => rfl
  | ok o =>
      rw [hparse] at hread
      obtain ⟨settings, -, hchild⟩ := CommandParser.exists_handedOn hread
      have hfinal : (Options.ofSettings (handedOnSettings settings)).background = false :=
        gives_handedOnSettings_of_not rfl settings
      have hagain : ∀ child stage, child.args = backgroundArgs s.args →
          runIn around (depth + 1) child stage = runIn around 1 child stage := by
        intro child stage hargs
        simp only [runIn, hparse, hargs, hchild]
        rw [perform_eq_of_not_background hfinal]
      simp only [perform_congr hagain]

end Again

end Hotkeys.CommandLine
