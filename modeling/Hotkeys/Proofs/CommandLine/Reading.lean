import Hotkeys.CommandLine.Grammar
import Hotkeys.CommandLine.Reading
import Hotkeys.Proofs.Text.Pieces

/-!
# The reader follows the grammar

The reader of the command line goes from left to right and keeps a switch open until the argument
behind it is read.  It accepts the arguments that the grammar has rules for, and with the same
settings: `Progress.Leads` says by the grammar where a reader comes that has read some arguments,
and each of its steps keeps it (`readAll_eq_ok_iff`).  So it is one of the parsers that the grammar
allows (`CommandParser.fromLeft`).
-/

set_option autoImplicit false

namespace Hotkeys.CommandLine

/-- A computation succeeds just when its first part does and the rest does with what that gives. -/
theorem bind_eq_ok_iff {ε α β : Type} {x : Except ε α} {f : α → Except ε β} {b : β} :
    x >>= f = .ok b ↔ ∃ a, x = .ok a ∧ f a = .ok b := by
  cases x with
  | error e => exact iff_of_false nofun nofun
  | ok a =>
      constructor
      · exact fun h => ⟨a, rfl, h⟩
      · rintro ⟨_, ⟨⟩, h⟩
        exact h

/-! ## Adding settings -/

/-- The value that letters make behind that of a switch with a value: an `=` at the beginning is not
part of it. -/
def attachedValue (letters : Text) : Text :=
  (Text.after? ['='] letters).getD letters

/-- Whether a switch takes a value, which for some must not be empty. -/
def takesValue (s : Switch) (value : Text) : Bool :=
  value ≠ [] || s.mayBeEmpty

theorem takesValue_of_bare {s : Switch} (h : s.arity = .bare) (v : Text) :
    takesValue s v = true := by
  have hempty : s.mayBeEmpty = true := by
    cases s <;> first | rfl | cases h
  rw [takesValue, hempty, Bool.or_true]

/-- The settings with more of them, one after the other. -/
def addSettings (settled more : List Setting) : Except Stop (List Setting) :=
  more.foldlM (fun settled setting => addSetting settled setting.1 setting.2) settled

theorem addSettings_cons_eq_ok_iff {settled more settings : List Setting} {s : Switch} {v : Text} :
    addSettings settled ((s, v) :: more) = .ok settings ↔
      ∃ next, addSetting settled s v = .ok next ∧ addSettings next more = .ok settings := by
  rw [addSettings, List.foldlM_cons]
  exact bind_eq_ok_iff

theorem addSetting_eq_ok_iff {settled next : List Setting} {s : Switch} {v : Text} :
    addSetting settled s v = .ok next ↔
      gives settled s = false ∧ takesValue s v = true ∧ next = settled ++ [(s, v)] := by
  have htakes : (v = [] && !s.mayBeEmpty) = !takesValue s v := by
    rw [takesValue, Bool.not_or]
    simp
  rw [addSetting, htakes]
  cases gives settled s with
  | true => exact iff_of_false nofun nofun
  | false =>
      cases takesValue s v with
      | false => exact iff_of_false nofun nofun
      | true =>
          constructor
          · intro h
            cases h
            exact ⟨rfl, rfl, rfl⟩
          · rintro ⟨-, -, rfl⟩
            rfl

/-- Settings are added to none just when no switch is repeated and each takes its value. -/
theorem addSettings_eq_ok_iff {settled more settings : List Setting} :
    addSettings settled more = .ok settings ↔
      settings = settled ++ more ∧ (more.map Prod.fst).Nodup ∧
        (∀ setting ∈ more, gives settled setting.1 = false) ∧
        ∀ setting ∈ more, takesValue setting.1 setting.2 = true := by
  induction more generalizing settled with
  | nil =>
      have hnone : addSettings settled [] = .ok settled := rfl
      rw [hnone, Except.ok.injEq, List.append_nil, eq_comm]
      simp
  | cons setting more ih =>
      obtain ⟨s, v⟩ := setting
      have hgives : ∀ t : Switch, gives (settled ++ [(s, v)]) t = false ↔
          gives settled t = false ∧ s ≠ t := by
        intro t
        simp [gives]
      simp only [addSettings_cons_eq_ok_iff, addSetting_eq_ok_iff, ih, List.map_cons,
        List.nodup_cons, List.forall_mem_cons]
      constructor
      · rintro ⟨next, ⟨hs, hv, rfl⟩, rfl, hnodup, hnew, hvalues⟩
        refine ⟨by simp, ⟨?_, hnodup⟩, ⟨hs, fun x hx => ((hgives _).mp (hnew x hx)).1⟩, hv, hvalues⟩
        intro hmem
        obtain ⟨x, hx, hsame⟩ := List.mem_map.mp hmem
        exact ((hgives _).mp (hnew x hx)).2 hsame.symm
      · rintro ⟨rfl, ⟨hnot, hnodup⟩, ⟨hs, hnew⟩, hv, hvalues⟩
        refine ⟨_, ⟨hs, hv, rfl⟩, by simp, hnodup, fun x hx => (hgives _).mpr ⟨hnew x hx, ?_⟩,
          hvalues⟩
        rintro rfl
        exact hnot (List.mem_map_of_mem hx)

namespace Switch

theorem letter?_of_ofLetter? {c : Char} {s : Switch} (h : ofLetter? c = some s) :
    s.letter? = some c := by
  have hfound := List.find?_some h
  exact beq_iff_eq.mp hfound

theorem ofLetter?_of_letter? {c : Char} {s : Switch} (h : s.letter? = some c) :
    ofLetter? c = some s := by
  cases s <;> cases h <;> rfl

theorem word_of_ofWord? {w : Text} {s : Switch} (h : ofWord? w = some s) :
    w = s.word.toList := by
  have hfound := List.find?_some h
  exact (beq_iff_eq.mp hfound).symm

theorem ofWord?_word (s : Switch) : ofWord? s.word.toList = some s := by
  cases s <;> decide

theorem isFlag_iff {s : Switch} :
    s.isFlag = true ↔ s.arity = .bare ∧ s ≠ .help ∧ s ≠ .version := by
  simp [isFlag, and_assoc]

theorem equals_notMem_word (s : Switch) : '=' ∉ s.word.toList := by
  cases s <;> decide

theorem word_ne_nil (s : Switch) : s.word.toList ≠ [] := by
  cases s <;> decide

end Switch

/-! ## The rules by their arguments -/

theorem isSwitchLike_eq_false_iff {arg : Text} :
    isSwitchLike arg = false ↔ ∀ c rest, arg ≠ '-' :: c :: rest := by
  unfold isSwitchLike
  split
  case h_1 c rest => simp
  case h_2 hne => exact iff_of_true rfl fun c rest => hne c rest

/-- What a switch takes that is written with the given value, or with none. -/
inductive Given (s : Switch) : Option Text → List Text → Text → List Text → Prop
  /-- A flag takes nothing. -/
  | flag {rest : List Text} (hflag : s.isFlag = true) : Given s none rest [] rest
  /-- Another switch takes what is attached to it. -/
  | assigned {v : Text} {rest : List Text} (harity : s.arity ≠ .bare) : Given s (some v) rest v rest
  /-- Without that it takes what follows. -/
  | opened {v : Text} {rest left : List Text} (harity : s.arity ≠ .bare)
      (hnext : TakesNext s rest v left) : Given s none rest v left

section Rules

variable {attached : Text → Text} {settings : List Setting}

/-- No letter is a `-`. -/
theorem ReadsCluster.ne_dash {c : Char} {letters : Text} {rest left : List Text}
    {front : List Setting} (h : ReadsCluster attached (c :: letters) rest front left) :
    c ≠ '-' := by
  have hletters : ∀ s : Switch, s.letter? ≠ some '-' := by
    intro s
    cases s <;> decide
  rintro rfl
  cases h with
  | flag hletter | assigned hletter | opened hletter => exact hletters _ hletter

/-- Arguments that can be read do not begin with a value. -/
theorem Reads.head_isSwitchLike {args : List Text} (h : Reads attached args settings) :
    ∀ next ∈ args.head?, isSwitchLike next = true := by
  intro next hnext
  cases h with
  | done => cases hnext
  | ended | flag | assigned | opened | cluster =>
      cases hnext
      rfl

/-- The first of some arguments is the last one and `--`, or a switch that is written in full, or a
cluster of letters. -/
theorem Reads.cons_cases {arg : Text} {rest : List Text}
    (h : Reads attached (arg :: rest) settings) :
    (arg = "--".toList ∧ rest = [] ∧ settings = []) ∨
      (∃ s value v left new, arg = s.spelled ++ value.elim [] ('=' :: ·) ∧
        Given s value rest v left ∧ Reads attached left new ∧ settings = (s, v) :: new) ∨
      ∃ c letters front left new, arg = '-' :: c :: letters ∧
        ReadsCluster attached (c :: letters) rest front left ∧ Reads attached left new ∧
          settings = front ++ new := by
  cases h with
  | ended => exact Or.inl ⟨rfl, rfl, rfl⟩
  | flag hflag hrest =>
      exact Or.inr (Or.inl
        ⟨_, none, _, _, _, (List.append_nil _).symm, .flag hflag, hrest, rfl⟩)
  | assigned harity hrest =>
      exact Or.inr (Or.inl ⟨_, some _, _, _, _, rfl, .assigned harity, hrest, rfl⟩)
  | opened harity hnext hrest =>
      exact Or.inr (Or.inl
        ⟨_, none, _, _, _, (List.append_nil _).symm, .opened harity hnext, hrest, rfl⟩)
  | cluster hletters hrest => exact Or.inr (Or.inr ⟨_, _, _, _, _, rfl, hletters, hrest, rfl⟩)

theorem Reads.of_given {s : Switch} {value : Option Text} {v : Text} {rest left : List Text}
    (hgiven : Given s value rest v left) (hrest : Reads attached left settings) :
    Reads attached ((s.spelled ++ value.elim [] ('=' :: ·)) :: rest) ((s, v) :: settings) := by
  cases hgiven with
  | flag hflag =>
      rw [Option.elim_none, List.append_nil]
      exact .flag hflag hrest
  | assigned harity => exact .assigned harity hrest
  | opened harity hnext =>
      rw [Option.elim_none, List.append_nil]
      exact .opened harity hnext hrest

theorem reads_nil_iff : Reads attached [] settings ↔ settings = [] := by
  constructor
  · intro h
    cases h
    rfl
  · rintro rfl
    exact .done

/-- Nothing is read behind `--`. -/
theorem reads_end_iff {rest : List Text} :
    Reads attached ("--".toList :: rest) settings ↔ rest = [] ∧ settings = [] := by
  constructor
  · intro h
    rcases h.cons_cases with ⟨-, hrest, hsettings⟩ | ⟨s, value, -, -, -, harg, -⟩ |
      ⟨c, letters, _, _, _, harg, hletters, -⟩
    · exact ⟨hrest, hsettings⟩
    · have hword : [] = s.word.toList ++ value.elim [] ('=' :: ·) :=
        (List.cons.inj (List.cons.inj harg).2).2
      exact absurd (List.append_eq_nil_iff.mp hword.symm).1 s.word_ne_nil
    · exact absurd (List.cons.inj (List.cons.inj harg).2).1.symm hletters.ne_dash
  · rintro ⟨rfl, rfl⟩
    exact .ended

end Rules

/-! ## Where a reader comes -/

namespace Progress

variable {p p' : Progress} {s : Switch} {settled settings : List Setting}

/-- What the open switch takes of some arguments: the setting that it makes, if there is one, and
the arguments that are left. -/
def Takes (p : Progress) (args : List Text) (front : List Setting) (left : List Text) : Prop :=
  match p.pending with
  | none => front = [] ∧ left = args
  | some { switch, value := some v } => front = [(switch, v)] ∧ left = args
  | some { switch, value := none } => ∃ v, front = [(switch, v)] ∧ TakesNext switch args v left

/-- By the grammar, a reader comes to these settings if it goes on with these arguments. -/
def Leads (p : Progress) (args : List Text) (settings : List Setting) : Prop :=
  ∃ front left new, p.Takes args front left ∧ Reads attachedValue left new ∧
    addSettings p.settled (front ++ new) = .ok settings

theorem leads_settled_iff {args : List Text} :
    Leads ⟨settled, none⟩ args settings ↔
      ∃ new, Reads attachedValue args new ∧ addSettings settled new = .ok settings := by
  constructor
  · rintro ⟨front, left, new, ⟨rfl, rfl⟩, hreads, hadd⟩
    exact ⟨new, hreads, hadd⟩
  · rintro ⟨new, hreads, hadd⟩
    exact ⟨[], args, new, ⟨rfl, rfl⟩, hreads, hadd⟩

theorem leads_opened_iff {args : List Text} :
    Leads ⟨settled, some ⟨s, none⟩⟩ args settings ↔
      ∃ v left new, TakesNext s args v left ∧ Reads attachedValue left new ∧
        addSettings settled ((s, v) :: new) = .ok settings := by
  constructor
  · rintro ⟨front, left, new, ⟨v, rfl, hnext⟩, hreads, hadd⟩
    exact ⟨v, left, new, hnext, hreads, hadd⟩
  · rintro ⟨v, left, new, hnext, hreads, hadd⟩
    exact ⟨_, left, new, ⟨v, rfl, hnext⟩, hreads, hadd⟩

theorem leads_valued_iff {args : List Text} {v : Text} :
    Leads ⟨settled, some ⟨s, some v⟩⟩ args settings ↔
      ∃ new, Reads attachedValue args new ∧
        addSettings settled ((s, v) :: new) = .ok settings := by
  constructor
  · rintro ⟨front, left, new, ⟨rfl, rfl⟩, hreads, hadd⟩
    exact ⟨new, hreads, hadd⟩
  · rintro ⟨new, hreads, hadd⟩
    exact ⟨_, args, new, ⟨rfl, rfl⟩, hreads, hadd⟩

/-- Where no value follows, the open switch is settled and takes nothing. -/
theorem leads_iff_settle {args : List Text}
    (hargs : ∀ next ∈ args.head?, isSwitchLike next = true) :
    p.Leads args settings ↔
      ∃ settled, p.settle = .ok settled ∧ Leads ⟨settled, none⟩ args settings := by
  obtain ⟨done, pending⟩ := p
  simp only [leads_settled_iff]
  cases pending with
  | none =>
      rw [leads_settled_iff]
      exact ⟨fun h => ⟨done, rfl, h⟩, fun ⟨settled, hsettle, h⟩ => by cases hsettle; exact h⟩
  | some o =>
      obtain ⟨s, value⟩ := o
      cases value with
      | some v =>
          simp only [leads_valued_iff, addSettings_cons_eq_ok_iff, settle, settleSwitch]
          exact ⟨fun ⟨new, hreads, next, hnext, hadd⟩ => ⟨next, hnext, new, hreads, hadd⟩,
            fun ⟨next, hnext, new, hreads, hadd⟩ => ⟨new, hreads, next, hnext, hadd⟩⟩
      | none =>
          simp only [leads_opened_iff, addSettings_cons_eq_ok_iff, settle]
          constructor
          · rintro ⟨v, left, new, hnext, hreads, next, hadd, hrest⟩
            cases hnext with
            | value hvalue => exact absurd (hargs v rfl) (Bool.eq_false_iff.mp hvalue)
            | standIn harity _ =>
                refine ⟨next, ?_, new, hreads, hrest⟩
                rw [settleSwitch, harity]
                exact hadd
          · rintro ⟨next, hsettle, new, hreads, hrest⟩
            rw [settleSwitch] at hsettle
            split at hsettle
            case h_1 standIn harity =>
              exact ⟨standIn, args, new, .standIn harity hargs, hreads, next, hsettle, hrest⟩
            case h_2 => cases hsettle

/-! ## Reading a switch -/

/-- Reading a bare switch settles the one before it and then this one. -/
theorem addBare_eq_ok_iff : p.addBare s = .ok p' ↔
    ∃ settled, p.settle = .ok settled ∧ s ≠ .help ∧ s ≠ .version ∧ gives settled s = false ∧
      p' = ⟨settled ++ [(s, [])], none⟩ := by
  rw [addBare, bind_eq_ok_iff]
  refine exists_congr fun settled => and_congr_right fun _ => ?_
  split
  case h_1 => simp
  case h_2 => simp
  case h_3 hhelp hversion =>
    rw [and_iff_right hhelp, and_iff_right hversion]
    split
    case isTrue hgives => simp [hgives]
    case isFalse hgives =>
      rw [and_iff_right (Bool.not_eq_true _ ▸ hgives)]
      simp [pure, Except.pure, eq_comm]

theorem addValued_eq_ok_iff {value : Text} : p.addValued s value = .ok p' ↔
    ∃ settled, p.settle = .ok settled ∧ ∃ next, settleSwitch settled s (some value) = .ok next ∧
      p' = ⟨next, none⟩ := by
  simp only [addValued, bind_eq_ok_iff, pure, Except.pure, Except.ok.injEq, eq_comm (a := p')]

theorem addOpen_eq_ok_iff : p.addOpen s = .ok p' ↔
    ∃ settled, p.settle = .ok settled ∧ p' = ⟨settled, some ⟨s, none⟩⟩ := by
  simp only [addOpen, bind_eq_ok_iff, pure, Except.pure, Except.ok.injEq, eq_comm (a := p')]

/-- What reading a switch does, with the value that is attached to it, if there is one. -/
def readSwitch (p : Progress) (s : Switch) : Option Text → Except Stop Progress
  | none => if s.arity = .bare then p.addBare s else p.addOpen s
  | some value => if s.arity = .bare then .error .tooManyValues else p.addValued s value

/-- A bare switch is read as a flag. -/
theorem addBare_settled_iff (harity : s.arity = .bare) :
    addBare ⟨settled, none⟩ s = .ok p' ↔
      s.isFlag = true ∧ ∃ next, addSetting settled s [] = .ok next ∧ p' = ⟨next, none⟩ := by
  simp only [addBare_eq_ok_iff, Switch.isFlag_iff, harity, true_and, addSetting_eq_ok_iff,
    takesValue_of_bare harity]
  constructor
  · rintro ⟨settled, ⟨⟩, hhelp, hversion, hgives, rfl⟩
    exact ⟨⟨hhelp, hversion⟩, _, ⟨hgives, rfl⟩, rfl⟩
  · rintro ⟨⟨hhelp, hversion⟩, _, ⟨hgives, rfl⟩, rfl⟩
    exact ⟨settled, rfl, hhelp, hversion, hgives, rfl⟩

/-- Reading a switch leads to its setting and what the arguments behind it make. -/
theorem readSwitch_leads_iff {value : Option Text} {rest : List Text} :
    (∃ p', readSwitch ⟨settled, none⟩ s value = .ok p' ∧ p'.Leads rest settings) ↔
      ∃ v left new, Given s value rest v left ∧ Reads attachedValue left new ∧
        addSettings settled ((s, v) :: new) = .ok settings := by
  simp only [addSettings_cons_eq_ok_iff]
  cases value with
  | none =>
      rw [readSwitch]
      split
      case isTrue harity =>
        constructor
        · rintro ⟨p', hread, hleads⟩
          obtain ⟨hflag, next, hadd, rfl⟩ := (addBare_settled_iff harity).mp hread
          obtain ⟨new, hreads, hrest⟩ := leads_settled_iff.mp hleads
          exact ⟨[], rest, new, .flag hflag, hreads, next, hadd, hrest⟩
        · rintro ⟨v, left, new, hgiven, hreads, next, hadd, hrest⟩
          cases hgiven with
          | flag hflag =>
              exact ⟨_, (addBare_settled_iff harity).mpr ⟨hflag, next, hadd, rfl⟩,
                leads_settled_iff.mpr ⟨new, hreads, hrest⟩⟩
          | opened hvalued _ => exact absurd harity hvalued
      case isFalse hvalued =>
        constructor
        · rintro ⟨p', hread, hleads⟩
          obtain ⟨settled, ⟨⟩, rfl⟩ := addOpen_eq_ok_iff.mp hread
          obtain ⟨v, left, new, hnext, hreads, hadd⟩ := leads_opened_iff.mp hleads
          exact ⟨v, left, new, .opened hvalued hnext, hreads, addSettings_cons_eq_ok_iff.mp hadd⟩
        · rintro ⟨v, left, new, hgiven, hreads, hadd⟩
          cases hgiven with
          | flag hflag => exact absurd (Switch.isFlag_iff.mp hflag).1 hvalued
          | opened _ hnext =>
              exact ⟨_, addOpen_eq_ok_iff.mpr ⟨settled, rfl, rfl⟩,
                leads_opened_iff.mpr
                  ⟨v, left, new, hnext, hreads, addSettings_cons_eq_ok_iff.mpr hadd⟩⟩
  | some v =>
      rw [readSwitch]
      split
      case isTrue harity =>
        refine iff_of_false nofun ?_
        rintro ⟨_, _, _, ⟨_⟩ | ⟨hvalued⟩ | ⟨_⟩, -⟩
        exact hvalued harity
      case isFalse hvalued =>
        constructor
        · rintro ⟨p', hread, hleads⟩
          obtain ⟨settled, ⟨⟩, next, hadd, rfl⟩ := addValued_eq_ok_iff.mp hread
          obtain ⟨new, hreads, hrest⟩ := leads_settled_iff.mp hleads
          exact ⟨v, rest, new, .assigned hvalued, hreads, next, hadd, hrest⟩
        · rintro ⟨_, _, new, ⟨_⟩ | ⟨_⟩ | ⟨_⟩, hreads, next, hadd, hrest⟩
          exact ⟨_, addValued_eq_ok_iff.mpr ⟨settled, rfl, next, hadd, rfl⟩,
            leads_settled_iff.mpr ⟨new, hreads, hrest⟩⟩

/-! ## Words -/

theorem readWord_eq_of_switch (p : Progress) (s : Switch) :
    p.readWord s.word.toList = p.readSwitch s none := by
  have hcut : Text.splitFirst '=' s.word.toList = none := by
    cases hcut : Text.splitFirst '=' s.word.toList with
    | none => rfl
    | some cut =>
        have hword := (Text.splitFirst_eq_some_iff.mp hcut).2
        exact absurd (hword ▸ List.mem_append_right _ List.mem_cons_self) s.equals_notMem_word
  simp only [readWord, hcut, Switch.ofWord?_word]
  cases harity : s.arity <;> simp [readSwitch, harity]

theorem readWord_eq_of_assigned (p : Progress) (s : Switch) (v : Text) :
    p.readWord (s.word.toList ++ '=' :: v) = p.readSwitch s (some v) := by
  have hcut : Text.splitFirst '=' (s.word.toList ++ '=' :: v) = some (s.word.toList, v) :=
    Text.splitFirst_eq_some_iff.mpr ⟨s.equals_notMem_word, rfl⟩
  simp only [readWord, hcut, Switch.ofWord?_word]
  cases harity : s.arity <;> simp [readSwitch, harity]

theorem readWord_eq (p : Progress) (s : Switch) (value : Option Text) :
    p.readWord (s.word.toList ++ value.elim [] ('=' :: ·)) = p.readSwitch s value := by
  cases value with
  | none =>
      rw [Option.elim_none, List.append_nil]
      exact readWord_eq_of_switch p s
  | some v => exact readWord_eq_of_assigned p s v

/-- A word that can be read is that of a switch, by itself or before `=` and a value. -/
theorem exists_of_readWord {body : Text} (h : p.readWord body = .ok p') :
    ∃ s : Switch, ∃ value : Option Text, p.readSwitch s value = .ok p' ∧
      body = s.word.toList ++ value.elim [] ('=' :: ·) := by
  cases hcut : Text.splitFirst '=' body with
  | none =>
      cases hswitch : Switch.ofWord? body with
      | none =>
          simp only [readWord, hcut, hswitch] at h
          cases h
      | some s =>
          obtain rfl := Switch.word_of_ofWord? hswitch
          exact ⟨s, none, (readWord_eq_of_switch p s).symm.trans h, (List.append_nil _).symm⟩
  | some cut =>
      obtain ⟨word, v⟩ := cut
      obtain ⟨-, rfl⟩ := Text.splitFirst_eq_some_iff.mp hcut
      cases hswitch : Switch.ofWord? word with
      | none =>
          simp only [readWord, hcut, hswitch] at h
          cases h
      | some s =>
          obtain rfl := Switch.word_of_ofWord? hswitch
          exact ⟨s, some v, (readWord_eq_of_assigned p s v).symm.trans h, rfl⟩

/-! ## Letters -/

/-- A letter of a bare switch is read by itself. -/
theorem readLetters_cons_eq_ok_iff {c : Char} (hswitch : Switch.ofLetter? c = some s)
    (harity : s.arity = .bare) {rest : Text} : p.readLetters (c :: rest) = .ok p' ↔
      ∃ next, p.addBare s = .ok next ∧ next.readLetters rest = .ok p' := by
  simp only [readLetters, hswitch, harity]
  exact bind_eq_ok_iff

/-- A letter of any other switch takes the rest. -/
theorem readLetters_cons_of_not_bare {c : Char} (hswitch : Switch.ofLetter? c = some s)
    (harity : s.arity ≠ .bare) (p : Progress) (rest : Text) :
    p.readLetters (c :: rest) =
      p.readSwitch s (if rest = [] then none else some ((Text.after? ['='] rest).getD rest)) := by
  simp only [readLetters, hswitch]
  cases hcase : s.arity with
  | bare => exact absurd hcase harity
  | valued => split <;> simp [readSwitch, hcase]
  | optional standIn => split <;> simp [readSwitch, hcase]

/-- Reading letters leads to the settings of the cluster and what the arguments behind it make.  The
induction is on the letters up to one that takes the others. -/
theorem readLetters_leads_iff {letters : Text} {rest : List Text} :
    (∃ p', readLetters ⟨settled, none⟩ letters = .ok p' ∧ p'.Leads rest settings) ↔
      ∃ front left new, ReadsCluster attachedValue letters rest front left ∧
        Reads attachedValue left new ∧ addSettings settled (front ++ new) = .ok settings := by
  induction letters generalizing settled with
  | nil =>
      constructor
      · rintro ⟨p', ⟨⟩, hleads⟩
        obtain ⟨new, hreads, hadd⟩ := leads_settled_iff.mp hleads
        exact ⟨[], rest, new, .done, hreads, hadd⟩
      · rintro ⟨_, _, new, ⟨⟩, hreads, hadd⟩
        exact ⟨_, rfl, leads_settled_iff.mpr ⟨new, hreads, hadd⟩⟩
  | cons c letters ih =>
      cases hswitch : Switch.ofLetter? c with
      | none =>
          have hnone : ∀ s : Switch, s.letter? ≠ some c := fun s hletter => by
            rw [Switch.ofLetter?_of_letter? hletter] at hswitch
            cases hswitch
          refine iff_of_false ?_ ?_
          · rintro ⟨p', hread, -⟩
            rw [readLetters, hswitch] at hread
            cases hread
          · rintro ⟨_, _, _, hcluster, -⟩
            cases hcluster with
            | flag hletter | assigned hletter | opened hletter => exact hnone _ hletter
      | some s =>
          have hsame : ∀ t : Switch, t.letter? = some c → t = s := fun t hletter =>
            Option.some.inj ((Switch.ofLetter?_of_letter? hletter).symm.trans hswitch)
          have hletter := Switch.letter?_of_ofLetter? hswitch
          by_cases harity : s.arity = .bare
          · simp only [readLetters_cons_eq_ok_iff hswitch harity]
            constructor
            · rintro ⟨p', ⟨next, hbare, hread⟩, hleads⟩
              obtain ⟨hflag, next, hadd, rfl⟩ := (addBare_settled_iff harity).mp hbare
              obtain ⟨front, left, new, hcluster, hreads, hrest⟩ := ih.mp ⟨p', hread, hleads⟩
              exact ⟨_, left, new, .flag hletter hflag hcluster, hreads,
                addSettings_cons_eq_ok_iff.mpr ⟨next, hadd, hrest⟩⟩
            · rintro ⟨_, left, new, hcluster, hreads, hadd⟩
              cases hcluster with
              | @flag t _ _ _ _ front hletter' hflag hcluster =>
                  obtain rfl := hsame t hletter'
                  obtain ⟨next, hadd, hrest⟩ := addSettings_cons_eq_ok_iff.mp hadd
                  obtain ⟨p', hread, hleads⟩ := ih.mpr ⟨front, left, new, hcluster, hreads, hrest⟩
                  exact ⟨p', ⟨_, (addBare_settled_iff harity).mpr ⟨hflag, next, hadd, rfl⟩, hread⟩,
                    hleads⟩
              | assigned hletter' hvalued | opened hletter' hvalued =>
                  exact absurd (hsame _ hletter' ▸ harity) hvalued
          · rw [readLetters_cons_of_not_bare hswitch harity]
            refine readSwitch_leads_iff.trans ?_
            constructor
            · rintro ⟨v, left, new, hgiven, hreads, hadd⟩
              refine ⟨[(s, v)], left, new, ?_, hreads, hadd⟩
              by_cases hletters : letters = []
              · rw [if_pos hletters] at hgiven
                subst hletters
                cases hgiven with
                | flag hflag => exact absurd (Switch.isFlag_iff.mp hflag).1 harity
                | opened _ hnext => exact .opened hletter harity hnext
              · rw [if_neg hletters] at hgiven
                cases hgiven
                exact .assigned hletter harity hletters
            · rintro ⟨_, _, new, hcluster, hreads, hadd⟩
              cases hcluster with
              | flag hletter' hflag _ =>
                  exact absurd (Switch.isFlag_iff.mp (hsame _ hletter' ▸ hflag)).1 harity
              | assigned hletter' _ hletters =>
                  obtain rfl := hsame _ hletter'
                  rw [if_neg hletters]
                  exact ⟨_, _, new, .assigned harity, hreads, hadd⟩
              | opened hletter' _ hnext =>
                  obtain rfl := hsame _ hletter'
                  rw [if_pos rfl]
                  exact ⟨_, _, new, .opened harity hnext, hreads, hadd⟩

/-! ## Arguments -/

theorem read_letters {c : Char} (hc : c ≠ '-') (p : Progress) (rest : Text) :
    p.read ('-' :: c :: rest) = p.readLetters (c :: rest) := by
  unfold read
  split
  case h_1 heq => exact absurd (List.cons.inj (List.cons.inj heq).2).1 hc
  case h_2 heq =>
    cases heq
    rfl
  case h_3 hletters => exact absurd rfl (hletters c rest)

theorem read_value {arg : Text} (h : ∀ c rest, arg ≠ '-' :: c :: rest) (p : Progress) :
    p.read arg = p.readValue arg := by
  unfold read
  split
  case h_1 => exact absurd rfl (h _ _)
  case h_2 => exact absurd rfl (h _ _)
  case h_3 => rfl

/-- A switch is read only where the one before it can be settled, and then as if that were. -/
theorem readSwitch_eq_ok_iff_settle {value : Option Text} :
    p.readSwitch s value = .ok p' ↔
      ∃ settled, p.settle = .ok settled ∧ readSwitch ⟨settled, none⟩ s value = .ok p' := by
  have hsettle : ∀ settled, settle ⟨settled, none⟩ = .ok settled := fun _ => rfl
  cases value with
  | none =>
      simp only [readSwitch]
      split
      case isTrue => simp only [addBare_eq_ok_iff, hsettle, Except.ok.injEq, exists_eq_left']
      case isFalse => simp only [addOpen_eq_ok_iff, hsettle, Except.ok.injEq, exists_eq_left']
  | some v =>
      simp only [readSwitch]
      split
      case isTrue => simp
      case isFalse => simp only [addValued_eq_ok_iff, hsettle, Except.ok.injEq, exists_eq_left']

theorem readLetters_eq_ok_iff_settle {c : Char} {letters : Text} :
    p.readLetters (c :: letters) = .ok p' ↔
      ∃ settled, p.settle = .ok settled ∧ readLetters ⟨settled, none⟩ (c :: letters) = .ok p' := by
  have hsettle : ∀ settled, settle ⟨settled, none⟩ = .ok settled := fun _ => rfl
  cases hswitch : Switch.ofLetter? c with
  | none => simp [readLetters, hswitch]
  | some s =>
      by_cases harity : s.arity = .bare
      · simp only [readLetters_cons_eq_ok_iff hswitch harity, addBare_eq_ok_iff, hsettle,
          Except.ok.injEq, exists_eq_left']
        constructor
        · rintro ⟨next, ⟨settled, hsettled, hbare⟩, hread⟩
          exact ⟨settled, hsettled, next, hbare, hread⟩
        · rintro ⟨settled, hsettled, next, hbare, hread⟩
          exact ⟨next, ⟨settled, hsettled, hbare⟩, hread⟩
      · simp only [readLetters_cons_of_not_bare hswitch harity]
        exact readSwitch_eq_ok_iff_settle

theorem readWord_eq_ok_iff_settle {body : Text} :
    p.readWord body = .ok p' ↔
      ∃ settled, p.settle = .ok settled ∧ readWord ⟨settled, none⟩ body = .ok p' := by
  constructor
  · intro h
    obtain ⟨s, value, hread, rfl⟩ := exists_of_readWord h
    simp only [readWord_eq]
    exact readSwitch_eq_ok_iff_settle.mp hread
  · rintro ⟨settled, hsettle, h⟩
    obtain ⟨s, value, hread, rfl⟩ := exists_of_readWord h
    rw [readWord_eq]
    exact readSwitch_eq_ok_iff_settle.mpr ⟨settled, hsettle, hread⟩

theorem exists_of_isSwitchLike {arg : Text} (h : isSwitchLike arg = true) :
    ∃ c rest, arg = '-' :: c :: rest := by
  unfold isSwitchLike at h
  split at h
  case h_1 c rest => exact ⟨c, rest, rfl⟩
  case h_2 => cases h

/-- An argument that is written like a switch settles the one before it. -/
theorem read_eq_ok_iff_settle {arg : Text} (harg : isSwitchLike arg = true) :
    p.read arg = .ok p' ↔
      ∃ settled, p.settle = .ok settled ∧ read ⟨settled, none⟩ arg = .ok p' := by
  obtain ⟨c, rest, rfl⟩ := exists_of_isSwitchLike harg
  by_cases hc : c = '-'
  · subst hc
    exact readWord_eq_ok_iff_settle
  · simp only [read_letters hc]
    exact readLetters_eq_ok_iff_settle

/-- Reading a word or a cluster leads to what its rule says. -/
theorem read_leads_iff {arg : Text} {rest : List Text} (harg : isSwitchLike arg = true)
    (hend : arg ≠ "--".toList) :
    (∃ p', read ⟨settled, none⟩ arg = .ok p' ∧ p'.Leads rest settings) ↔
      Leads ⟨settled, none⟩ (arg :: rest) settings := by
  obtain ⟨c, letters, rfl⟩ := exists_of_isSwitchLike harg
  rw [leads_settled_iff]
  by_cases hc : c = '-'
  · subst hc
    constructor
    · rintro ⟨p', hread, hleads⟩
      obtain ⟨s, value, hswitch, rfl⟩ := exists_of_readWord hread
      obtain ⟨v, left, new, hgiven, hreads, hadd⟩ := readSwitch_leads_iff.mp ⟨p', hswitch, hleads⟩
      exact ⟨_, .of_given hgiven hreads, hadd⟩
    · rintro ⟨settings, hreads, hadd⟩
      rcases hreads.cons_cases with ⟨harg, -⟩ | ⟨s, value, v, left, new, harg, hgiven, hrest, rfl⟩ |
        ⟨_, _, _, _, _, harg, hletters, -⟩
      · exact absurd harg hend
      · obtain ⟨p', hread, hleads⟩ := readSwitch_leads_iff.mpr ⟨v, left, new, hgiven, hrest, hadd⟩
        cases harg
        exact ⟨p', (readWord_eq _ s value).trans hread, hleads⟩
      · cases harg
        exact absurd rfl hletters.ne_dash
  · rw [read_letters hc, readLetters_leads_iff]
    constructor
    · rintro ⟨front, left, new, hcluster, hreads, hadd⟩
      exact ⟨_, .cluster hcluster hreads, hadd⟩
    · rintro ⟨settings, hreads, hadd⟩
      rcases hreads.cons_cases with ⟨harg, -⟩ | ⟨s, _, _, _, _, harg, -⟩ |
        ⟨_, _, front, left, new, harg, hcluster, hrest, rfl⟩
      · exact absurd harg hend
      · cases harg
        exact absurd rfl hc
      · cases harg
        exact ⟨front, left, new, hcluster, hrest, hadd⟩

/-- A value is taken by the switch that waits for one. -/
theorem readValue_leads_iff {arg : Text} {rest : List Text} (harg : isSwitchLike arg = false) :
    (∃ p', p.readValue arg = .ok p' ∧ p'.Leads rest settings) ↔ p.Leads (arg :: rest) settings := by
  have hvalue : ∀ new, ¬ Reads attachedValue (arg :: rest) new := fun new hreads =>
    Bool.false_ne_true (harg.symm.trans (hreads.head_isSwitchLike arg rfl))
  obtain ⟨settled, pending⟩ := p
  rcases pending with _ | ⟨s, _ | v⟩
  · refine iff_of_false (by rintro ⟨_, ⟨⟩, _⟩) ?_
    rw [leads_settled_iff]
    exact fun ⟨new, hreads, _⟩ => hvalue new hreads
  · rw [leads_opened_iff]
    constructor
    · rintro ⟨p', ⟨⟩, hleads⟩
      obtain ⟨new, hreads, hadd⟩ := leads_valued_iff.mp hleads
      exact ⟨arg, rest, new, .value harg, hreads, hadd⟩
    · rintro ⟨v, left, new, hnext, hreads, hadd⟩
      cases hnext with
      | value _ => exact ⟨_, rfl, leads_valued_iff.mpr ⟨new, hreads, hadd⟩⟩
      | standIn _ hnext => exact absurd hreads (hvalue new)
  · refine iff_of_false (by rintro ⟨_, ⟨⟩, _⟩) ?_
    rw [leads_valued_iff]
    exact fun ⟨new, hreads, _⟩ => hvalue new hreads

/-! ## All arguments -/

theorem readAll_cons_eq_ok_iff {arg : Text} (hend : arg ≠ "--".toList) {rest : List Text} :
    p.readAll (arg :: rest) = .ok settings ↔
      ∃ p', p.read arg = .ok p' ∧ p'.readAll rest = .ok settings := by
  rw [readAll, if_neg hend]
  exact bind_eq_ok_iff

/-- Where nothing more makes settings, the reader is done when the open switch is settled. -/
theorem settle_eq_ok_iff {args : List Text} (hargs : ∀ next ∈ args.head?, isSwitchLike next = true)
    (hnone : ∀ new, Reads attachedValue args new ↔ new = []) :
    p.settle = .ok settings ↔ p.Leads args settings := by
  rw [leads_iff_settle hargs]
  simp only [leads_settled_iff, hnone, exists_eq_left]
  constructor
  · exact fun h => ⟨settings, h, rfl⟩
  · rintro ⟨_, h, ⟨⟩⟩
    exact h

/-- Reading arguments comes where the grammar leads. -/
theorem readAll_eq_ok_iff {args : List Text} :
    p.readAll args = .ok settings ↔ p.Leads args settings := by
  induction args generalizing p with
  | nil => exact settle_eq_ok_iff nofun fun _ => reads_nil_iff
  | cons arg rest ih =>
      by_cases hend : arg = "--".toList
      · subst hend
        have hdash : ∀ next ∈ ("--".toList :: rest).head?, isSwitchLike next = true := by
          rintro _ ⟨⟩
          rfl
        rw [readAll, if_pos rfl]
        by_cases hrest : rest = []
        · rw [if_pos hrest]
          exact settle_eq_ok_iff hdash fun _ => reads_end_iff.trans (and_iff_right hrest)
        · rw [if_neg hrest, leads_iff_settle hdash]
          refine iff_of_false nofun ?_
          rintro ⟨_, -, hleads⟩
          obtain ⟨_, hreads, -⟩ := leads_settled_iff.mp hleads
          exact hrest (reads_end_iff.mp hreads).1
      · rw [readAll_cons_eq_ok_iff hend]
        simp only [ih]
        cases harg : isSwitchLike arg with
        | false =>
            rw [read_value (isSwitchLike_eq_false_iff.mp harg)]
            exact readValue_leads_iff harg
        | true =>
            have hhead : ∀ next ∈ (arg :: rest).head?, isSwitchLike next = true := by
              rintro _ ⟨⟩
              exact harg
            rw [leads_iff_settle hhead]
            constructor
            · rintro ⟨p', hread, hleads⟩
              obtain ⟨settled, hsettle, hread⟩ := (read_eq_ok_iff_settle harg).mp hread
              exact ⟨settled, hsettle, (read_leads_iff harg hend).mp ⟨p', hread, hleads⟩⟩
            · rintro ⟨settled, hsettle, hleads⟩
              obtain ⟨p', hread, hleads⟩ := (read_leads_iff harg hend).mpr hleads
              exact ⟨p', (read_eq_ok_iff_settle harg).mpr ⟨settled, hsettle, hread⟩, hleads⟩

end Progress

/-! ## Options -/

/-- Arguments lead to options just when they can be read, nothing in them excludes something else,
and structured data is asked for with the bindings only. -/
theorem ofArgs_eq_ok_iff {args : List Text} {o : Options} : Options.ofArgs args = .ok o ↔
    ∃ settled, Progress.start.readAll args = .ok settled ∧ clashes settled = false ∧
      (gives settled .json && !gives settled .dryRun) = false ∧ o = Options.ofSettings settled := by
  rw [Options.ofArgs, bind_eq_ok_iff]
  refine exists_congr fun settled => and_congr_right fun _ => ?_
  cases clashes settled with
  | true => simp
  | false =>
      cases gives settled .json && !gives settled .dryRun <;> simp [pure, Except.pure, eq_comm]

theorem companion_iff {settings : List Setting} :
    (gives settings .json && !gives settings .dryRun) = false ↔
      (gives settings .json = true → gives settings .dryRun = true) := by
  cases gives settings .json <;> cases gives settings .dryRun <;> decide

/-- The parser that reads from left to right. -/
def CommandParser.fromLeft : CommandParser where
  parse := Options.ofArgs
  attached := attachedValue
  isValue := takesValue
  parse_eq_ok_iff := by
    intro args o
    rw [ofArgs_eq_ok_iff]
    simp only [Progress.readAll_eq_ok_iff, Progress.start, Progress.leads_settled_iff,
      addSettings_eq_ok_iff, List.nil_append]
    constructor
    · rintro ⟨_, ⟨settings, hreads, rfl, honce, -, hvalues⟩, hclashes, hjson, rfl⟩
      exact ⟨_, hreads, ⟨honce, fun setting hmem _ => hvalues setting hmem, hclashes,
        companion_iff.mp hjson⟩, rfl⟩
    · rintro ⟨settings, hreads, ⟨honce, hvalues, hclashes, hjson⟩, rfl⟩
      refine ⟨settings, ⟨settings, hreads, rfl, honce, fun _ _ => rfl, fun setting hmem => ?_⟩,
        hclashes, companion_iff.mpr hjson, rfl⟩
      by_cases harity : setting.1.arity = .bare
      · exact takesValue_of_bare harity setting.2
      · exact hvalues setting hmem harity

end Hotkeys.CommandLine
