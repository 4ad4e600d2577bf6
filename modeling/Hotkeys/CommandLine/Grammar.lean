import Hotkeys.CommandLine.Options

/-!
# The grammar of the command line

A library reads the command line.  What is relied on is written down here as a grammar: `Reads` says
which arguments make which settings of the switches, and `Admissible` which settings may stand
together.  A `CommandParser` is any function that accepts these arguments and no others, and that
answers the options of their settings.  How it goes about that, and what it says when it stops, is
left open.
-/

set_option autoImplicit false

namespace Hotkeys.CommandLine

/-! ## Switches on the command line -/

/-- Whether an argument is written like a switch: it begins with `-` and goes on. -/
def isSwitchLike : Text → Bool
  | '-' :: _ :: _ => true
  | _ => false

namespace Switch

/-- A switch written in full. -/
def spelled (s : Switch) : Text :=
  '-' :: '-' :: s.word.toList

/-- Whether a switch sets something by being there.  The two that are answered with a text instead
of a run are not among them. -/
def isFlag (s : Switch) : Bool :=
  s.arity = .bare && s != .help && s != .version

end Switch

/-- What an open switch takes of the arguments behind it: its value, and the arguments that are
left. -/
inductive TakesNext (s : Switch) : List Text → Text → List Text → Prop
  /-- The next argument is the value unless it is written like a switch. -/
  | value {v : Text} {rest : List Text} (hvalue : isSwitchLike v = false) :
      TakesNext s (v :: rest) v rest
  /-- Where the next argument is written like a switch, or there is none, the value may have a
  stand-in. -/
  | standIn {v : Text} {rest : List Text} (harity : s.arity = .optional v)
      (hnext : ∀ next ∈ rest.head?, isSwitchLike next = true) : TakesNext s rest v rest

/-! ## The grammar -/

/-- The settings that a cluster of letters makes, where `attached` is the value that letters make
behind that of a switch with a value, and the arguments that are left of those behind the
cluster. -/
inductive ReadsCluster (attached : Text → Text) :
    Text → List Text → List Setting → List Text → Prop
  /-- There are no more letters. -/
  | done {rest : List Text} : ReadsCluster attached [] rest [] rest
  /-- A letter of a flag is one of several. -/
  | flag {s : Switch} {c : Char} {letters : Text} {rest left : List Text} {front : List Setting}
      (hletter : s.letter? = some c) (hflag : s.isFlag = true)
      (hletters : ReadsCluster attached letters rest front left) :
      ReadsCluster attached (c :: letters) rest ((s, []) :: front) left
  /-- The letters behind that of a switch with a value are its value. -/
  | assigned {s : Switch} {c : Char} {letters : Text} {rest : List Text}
      (hletter : s.letter? = some c) (harity : s.arity ≠ .bare) (hletters : letters ≠ []) :
      ReadsCluster attached (c :: letters) rest [(s, attached letters)] rest
  /-- A switch with a value is open if its letter is the last one. -/
  | opened {s : Switch} {c : Char} {v : Text} {rest left : List Text}
      (hletter : s.letter? = some c) (harity : s.arity ≠ .bare)
      (hnext : TakesNext s rest v left) : ReadsCluster attached [c] rest [(s, v)] left

/-- The settings that arguments make.  No rule is for a word or a letter of no switch, for an
argument that is the value of no switch, or for anything behind `--`. -/
inductive Reads (attached : Text → Text) : List Text → List Setting → Prop
  /-- There are no more arguments. -/
  | done : Reads attached [] []
  /-- The last argument may be `--`. -/
  | ended : Reads attached ["--".toList] []
  /-- A flag is written in full. -/
  | flag {s : Switch} {rest : List Text} {settings : List Setting} (hflag : s.isFlag = true)
      (hrest : Reads attached rest settings) :
      Reads attached (s.spelled :: rest) ((s, []) :: settings)
  /-- A value is written behind a switch and `=`. -/
  | assigned {s : Switch} {v : Text} {rest : List Text} {settings : List Setting}
      (harity : s.arity ≠ .bare) (hrest : Reads attached rest settings) :
      Reads attached ((s.spelled ++ '=' :: v) :: rest) ((s, v) :: settings)
  /-- A switch with a value is open if it is written in full. -/
  | opened {s : Switch} {v : Text} {rest left : List Text} {settings : List Setting}
      (harity : s.arity ≠ .bare) (hnext : TakesNext s rest v left)
      (hrest : Reads attached left settings) :
      Reads attached (s.spelled :: rest) ((s, v) :: settings)
  /-- Letters are clustered behind one `-`. -/
  | cluster {c : Char} {letters : Text} {rest left : List Text} {front settings : List Setting}
      (hletters : ReadsCluster attached (c :: letters) rest front left)
      (hrest : Reads attached left settings) :
      Reads attached (('-' :: c :: letters) :: rest) (front ++ settings)

/-- Which settings may stand together, where `isValue` says which values the switches take. -/
structure Admissible (isValue : Switch → Text → Bool) (settings : List Setting) : Prop where
  /-- No switch is repeated. -/
  once : (settings.map Prod.fst).Nodup
  /-- The values are such as the switches take. -/
  values : ∀ setting ∈ settings, setting.1.arity ≠ .bare → isValue setting.1 setting.2 = true
  /-- None excludes another. -/
  compatible : clashes settings = false
  /-- Structured data is asked for with the bindings only. -/
  companion : gives settings .json = true → gives settings .dryRun = true

/-- A reader of the command line. -/
structure CommandParser where
  /-- The options that arguments ask for. -/
  parse : List Text → Except Stop Options
  /-- The value that letters make behind that of a switch with a value. -/
  attached : Text → Text
  /-- Whether a switch takes a value. -/
  isValue : Switch → Text → Bool
  /-- Arguments are accepted just when they make settings that may stand together. -/
  parse_eq_ok_iff : ∀ args o, parse args = .ok o ↔
    ∃ settings, Reads attached args settings ∧ Admissible isValue settings ∧
      o = Options.ofSettings settings

end Hotkeys.CommandLine
