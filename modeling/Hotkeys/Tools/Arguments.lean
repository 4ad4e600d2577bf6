import Hotkeys.Text.Numeral

/-!
# Arguments of tools

How the options among the arguments of a tool are read: letters behind a dash, which may share one,
and words behind two dashes, which may be cut short.
-/

set_option autoImplicit false

namespace Hotkeys.Tools

/-- The options that a tool knows. -/
structure Options where
  /-- The letters.  A `:` follows one that takes a value, and a `?` one that may take one. -/
  letters : String
  /-- Words for letters. -/
  words : List (String × Char)
  /-- Whether the first argument that is no option ends them. -/
  stopping : Bool
  deriving DecidableEq, Repr

/-- Whether an option takes a value. -/
inductive Wanted where
  /-- It takes none. -/
  | none
  /-- It takes one. -/
  | value
  /-- It may take one that is written right behind it. -/
  | maybe
  deriving DecidableEq, Repr

/-- An option that was given. -/
structure Choice where
  /-- Its letter. -/
  letter : Char
  /-- Its value, or nothing. -/
  value : Text
  deriving DecidableEq, Repr

/-- Why options cannot be read. -/
inductive OptionFault where
  /-- There is no such letter. -/
  | letter (c : Char)
  /-- There is no such word. -/
  | word (w : Text)
  /-- A word may stand for several ones. -/
  | vague (w : Text) (words : List String)
  /-- A letter lacks its value. -/
  | lacking (c : Char)
  /-- A word lacks its value. -/
  | wordLacking (w : String)
  /-- A word has a value that it does not take. -/
  | excess (w : String)
  deriving DecidableEq, Repr

/-- What is wrong with options. -/
def OptionFault.message : OptionFault → Text
  | .letter c => "invalid option -- '".toList ++ [c, '\'']
  | .word w => "unrecognized option '".toList ++ w ++ ['\'']
  | .vague w words =>
    "option '".toList ++ w ++ "' is ambiguous; possibilities:".toList ++
      words.flatMap fun word => " '--".toList ++ word.toList ++ ['\'']
  | .lacking c => "option requires an argument -- '".toList ++ [c, '\'']
  | .wordLacking w => "option '--".toList ++ w.toList ++ "' requires an argument".toList
  | .excess w => "option '--".toList ++ w.toList ++ "' doesn't allow an argument".toList

/-- Options and the arguments that are none. -/
structure Arguments where
  /-- The options, in order. -/
  choices : List Choice
  /-- The other arguments. -/
  operands : List Text
  deriving DecidableEq, Repr

/-- Whether a letter stands for an option, and whether that takes a value. -/
def Options.wanted? (o : Options) (c : Char) : Option Wanted :=
  match o.letters.toList.dropWhile (· != c) with
  | [] => none
  | _ :: ':' :: _ => if c = ':' || c = '?' then none else some .value
  | _ :: '?' :: _ => if c = ':' || c = '?' then none else some .maybe
  | _ => if c = ':' || c = '?' || c = '-' then none else some .none

/-- The word that a text stands for, with its letter. -/
def Options.word? (o : Options) (t : Text) : Except OptionFault (String × Char) :=
  let all := o.words ++ [("help", '-'), ("version", '-')]
  let shown := "--".toList ++ t
  match all.find? (fun w => w.1.toList == t), all.filter fun w => Text.beginsWith w.1.toList t with
  | some w, _ => .ok w
  | none, [] => .error (.word shown)
  | none, w :: ws =>
    if ws.all fun other => other.2 == w.2 then .ok w
    else .error (.vague shown ((w :: ws).map Prod.fst))

/-- Reads arguments; `bound` is at least the number of their letters and of themselves. -/
def Options.readFrom (o : Options) : (bound : Nat) → List Text → Except OptionFault Arguments
  | 0, args => .ok { choices := [], operands := args }
  | bound + 1, args => do
    let add (letter : Char) (value : Text) (rest : List Text) : Except OptionFault Arguments := do
      let a ← readFrom o bound rest
      return { a with choices := { letter, value } :: a.choices }
    match args with
    | [] => return { choices := [], operands := [] }
    | ['-', '-'] :: rest => return { choices := [], operands := rest }
    | ('-' :: '-' :: written) :: rest =>
      let (word, value) : Text × Option Text :=
        match Text.splitFirst '=' written with
        | some (word, value) => (word, some value)
        | none => (written, none)
      let (name, letter) ← o.word? word
      match (o.wanted? letter).getD .none, value, rest with
      | .none, none, rest => add letter [] rest
      | .none, some _, _ => .error (.excess name)
      | .maybe, value, rest => add letter (value.getD []) rest
      | .value, some value, rest => add letter value rest
      | .value, none, value :: rest => add letter value rest
      | .value, none, [] => .error (.wordLacking name)
    | ('-' :: c :: cs) :: rest =>
      let more : List Text := if cs.isEmpty then rest else ('-' :: cs) :: rest
      match o.wanted? c, cs, rest with
      | none, _, _ => .error (.letter c)
      | some .none, _, _ => add c [] more
      | some .maybe, _, _ => add c cs rest
      | some .value, [], value :: rest => add c value rest
      | some .value, [], [] => .error (.lacking c)
      | some .value, cs, rest => add c cs rest
    | arg :: rest =>
      if o.stopping then return { choices := [], operands := arg :: rest }
      else
        let a ← readFrom o bound rest
        return { a with operands := arg :: a.operands }

/-- Reads arguments. -/
def Options.read (o : Options) (args : List Text) : Except OptionFault Arguments :=
  o.readFrom (args.flatten.length + args.length + 1) args

namespace Arguments

/-- Whether the option of a letter was given. -/
def has (a : Arguments) (letter : Char) : Bool :=
  a.choices.any fun o => o.letter == letter

/-- Whether the option of one of some letters was given. -/
def hasOne (a : Arguments) (letters : String) : Bool :=
  letters.toList.any a.has

/-- The values of the option of a letter, in order. -/
def values (a : Arguments) (letter : Char) : List Text :=
  (a.choices.filter fun o => o.letter == letter).map Choice.value

/-- The last value of the option of a letter. -/
def value? (a : Arguments) (letter : Char) : Option Text :=
  (a.values letter).getLast?

end Arguments

end Hotkeys.Tools
