import Hotkeys.Host.Files
import Hotkeys.Shell.Dialect
import Hotkeys.Text.Numeral

/-!
# Conditions

The conditions that the test command decides: about texts, numbers and files.  Conditions are read
and decided from left to right; with up to four words, the place of a word tells what it means.
-/

set_option autoImplicit false

namespace Hotkeys.Shell

open Hotkeys.Host (Files Node)

/-! ## Operators -/

/-- Whether a character is one that numbers may stand behind. -/
def isNumberBlank (c : Char) : Bool :=
  " \t\n\r\x0b\x0c".toList.contains c

/-- The value of a whole number with a sign or without, between blanks.  Not every dialect lets
the end of a line follow. -/
def wholeNumber? (d : Dialect) (t : Text) : Option Int :=
  let mayFollow (c : Char) : Bool :=
    match d with
    | .plain => isNumberBlank c
    | .bash => c == ' ' || c == '\t'
  match ((t.dropWhile isNumberBlank).reverse.dropWhile mayFollow).reverse with
  | '-' :: digits => (Text.numeral? 10 digits).map fun n => -(Int.ofNat n)
  | t => (Text.signedNumeral? 10 t).map Int.ofNat

/-- Compares two numbers, if the operator does that. -/
def compareNumbers (operator : String) (a b : Int) : Option Bool :=
  match operator with
  | "-eq" => some (a == b)
  | "-ne" => some (a != b)
  | "-lt" => some (decide (a < b))
  | "-le" => some (decide (a ≤ b))
  | "-gt" => some (decide (b < a))
  | "-ge" => some (decide (b ≤ a))
  | _ => none

/-- Whether the place of one path is another one's, or there is only something at the first. -/
def compareFiles (files : Files) (operator : String) (a b : Text) : Option Bool :=
  let place (path : Text) : Option Host.Place :=
    match files.lookUp path with
    | .ok (place, _) => some place
    | .error _ => none
  match operator with
  | "-ef" => some ((place a).isSome && place a == place b)
  | "-nt" => some ((place a).isSome && (place b).isNone)
  | "-ot" => some ((place a).isNone && (place b).isSome)
  | _ => none

/-- Compares two texts, if the operator does that. -/
def compareTexts (operator : String) (a b : Text) : Option Bool :=
  match operator with
  | "=" => some (a == b)
  | "!=" => some (a != b)
  | "<" => some (decide (a < b))
  | ">" => some (decide (b < a))
  | _ => none

/-- Whether a word is an operator between two operands. -/
def isBetween (t : Text) : Bool :=
  let operator := String.ofList t
  (compareNumbers operator 0 0).isSome || (compareTexts operator [] []).isSome ||
    ["-ef", "-nt", "-ot"].contains operator

/-- Whether what a path leads to is as an operator wants it, if the operator is about files. -/
def checkFile (files : Files) (operator : String) (path : Text) : Option Bool :=
  let found (looked : Except Host.SystemError (Host.Place × Node)) : Option Node :=
    match looked with
    | .ok (_, node) => some node
    | .error _ => none
  let node := found (files.lookUp path)
  match operator with
  | "-e" | "-r" | "-w" => some node.isSome
  | "-f" => some (node.any Node.isFile)
  | "-d" => some (node == some .directory)
  | "-c" =>
    some (node.any fun n =>
      match n with
      | .device _ => true
      | _ => false)
  | "-p" =>
    some (node.any fun n =>
      match n with
      | .stream _ => true
      | _ => false)
  | "-h" | "-L" =>
    some ((found (files.lookAt path)).any fun n =>
      match n with
      | .link _ => true
      | _ => false)
  | "-s" =>
    some (node.any fun n =>
      match n with
      | .file content _ => !content.isEmpty
      | .directory | .tool _ => true
      | .device _ | .stream _ | .link _ => false)
  | "-x" =>
    some (node.any fun n =>
      match n with
      | .file _ executable => executable
      | .directory | .tool _ => true
      | .device _ | .stream _ | .link _ => false)
  | "-O" | "-G" => some node.isSome
  | "-b" | "-S" | "-u" | "-g" | "-k" | "-t" => some false
  | _ => none

/-- What an operator says of one operand, if it takes one. -/
def decideOne (files : Files) (operator : String) (operand : Text) : Option Bool :=
  match operator with
  | "-n" => some !operand.isEmpty
  | "-z" => some operand.isEmpty
  | name => checkFile files name operand

/-- Why a condition cannot be decided. -/
inductive ConditionFault where
  /-- An operand is no number. -/
  | notNumber (t : Text)
  /-- Something is missing behind a word. -/
  | missing (t : Text)
  /-- A word should not stand where it stands. -/
  | unexpected (t : Text)
  /-- A parenthesis is not closed. -/
  | unclosed
  /-- A word is no operator for one operand. -/
  | notOne (t : Text)
  /-- A word is no operator between two operands. -/
  | notBetween (t : Text)
  /-- There are more words than there should be. -/
  | extra (t : Text)
  deriving DecidableEq, Repr

namespace ConditionFault

/-- The fault in the words of an interpreter. -/
def message (d : Dialect) (f : ConditionFault) : Text :=
  match d, f with
  | .plain, .notNumber t => "Illegal number: ".toList ++ t
  | .plain, .missing t => t ++ ": argument expected".toList
  | .plain, .unclosed => "closing paren expected".toList
  | .plain, .unexpected t | .plain, .notOne t | .plain, .notBetween t | .plain, .extra t =>
    (if t.isEmpty then [] else t ++ ": ".toList) ++ "unexpected operator".toList
  | .bash, .notNumber t => t ++ ": integer expression expected".toList
  | .bash, .missing _ => "argument expected".toList
  | .bash, .unclosed => "\x60)' expected".toList
  | .bash, .notOne t => t ++ ": unary operator expected".toList
  | .bash, .notBetween t => t ++ ": binary operator expected".toList
  | .bash, .unexpected _ | .bash, .extra _ => "too many arguments".toList

/-- The fault in the words of the program that tests conditions. -/
def toolMessage (f : ConditionFault) : Text :=
  let quoted (t : Text) : Text := '\'' :: t ++ ['\'']
  match f with
  | .notNumber t => "invalid integer ".toList ++ quoted t
  | .missing t => "missing argument after ".toList ++ quoted t
  | .unclosed => "')' expected".toList
  | .notOne t => quoted t ++ ": unary operator expected".toList
  | .notBetween t => quoted t ++ ": binary operator expected".toList
  | .unexpected t | .extra t => "extra argument ".toList ++ quoted t

end ConditionFault

/-- Decides a condition with an operator between two operands. -/
def decideTwo (d : Dialect) (files : Files) (a operator b : Text) :
    Except ConditionFault Bool :=
  let name := String.ofList operator
  match compareTexts name a b, compareFiles files name a b with
  | some answer, _ | none, some answer => .ok answer
  | none, none =>
    match wholeNumber? d a, wholeNumber? d b with
    | some m, some n => .ok ((compareNumbers name m n).getD false)
    | none, _ => .error (.notNumber a)
    | _, none => .error (.notNumber b)

/-! ## Reading -/

/-- What a word means at the place where an operand or an operator can stand. -/
inductive Role where
  /-- There is no word. -/
  | nothing
  /-- It is an operand. -/
  | operand
  /-- It is an operator for one operand. -/
  | one
  /-- It is an operator between two operands. -/
  | between
  /-- It is `!`. -/
  | negation
  /-- It is `-a`. -/
  | conjunction
  /-- It is `-o`. -/
  | disjunction
  /-- It is an opening parenthesis. -/
  | opening
  /-- It is a closing parenthesis. -/
  | closing
  deriving DecidableEq, Repr

/-- What the first of some words means.  An operator for one operand is itself an operand where
none follows it, or where an operator between two operands does. -/
def roleOf (files : Files) : List Text → Role
  | [] => .nothing
  | t :: rest =>
    let name := String.ofList t
    if (decideOne files name []).isSome then
      match rest with
      | [] => .operand
      | [_] => .one
      | next :: _ => if isBetween next then .operand else .one
    else if isBetween t then .between
    else
      match name with
      | "!" => .negation
      | "-a" => .conjunction
      | "-o" => .disjunction
      | "(" => if rest.isEmpty then .operand else .opening
      | ")" => .closing
      | _ => .operand

/-- A decision and the words that are left, the first of which was the last to be read. -/
abbrev Decision := Except ConditionFault (Bool × List Text)

mutual

/-- Decides conditions joined by `-o`; `bound` is at least the number of words. -/
def decideAny (files : Files) : (bound : Nat) → Role → List Text → Decision
  | 0, _, ts => .ok (false, ts)
  | bound + 1, role, ts => do
    let (first, ts) ← decideEvery files bound role ts
    if roleOf files ts.tail = .disjunction then
      let rest := ts.drop 2
      let (others, ts) ← decideAny files bound (roleOf files rest) rest
      return (first || others, ts)
    else return (first, ts)

/-- Decides conditions joined by `-a`. -/
def decideEvery (files : Files) : (bound : Nat) → Role → List Text → Decision
  | 0, _, ts => .ok (false, ts)
  | bound + 1, role, ts => do
    let (first, ts) ← decideNot files bound role ts
    if roleOf files ts.tail = .conjunction then
      let rest := ts.drop 2
      let (others, ts) ← decideEvery files bound (roleOf files rest) rest
      return (first && others, ts)
    else return (first, ts)

/-- Decides a condition behind any number of `!`. -/
def decideNot (files : Files) : (bound : Nat) → Role → List Text → Decision
  | 0, _, ts => .ok (false, ts)
  | bound + 1, role, ts =>
    if role = .negation then do
      let next := roleOf files ts.tail
      let (answer, ts) ←
        decideNot files bound next (if next = .nothing then ts else ts.tail)
      return (!answer, ts)
    else decideSingle files bound role ts

/-- Decides a condition without `!`, `-a` and `-o` outside of parentheses. -/
def decideSingle (files : Files) : (bound : Nat) → Role → List Text → Decision
  | 0, _, ts => .ok (false, ts)
  | bound + 1, role, ts =>
    match role, ts with
    | .nothing, _ | _, [] => .ok (false, ts)
    | .opening, _ :: rest =>
      if roleOf files rest = .closing then .ok (false, rest)
      else do
        let (answer, ts) ← decideAny files bound (roleOf files rest) rest
        if roleOf files ts.tail = .closing then return (answer, ts.tail)
        else .error .unclosed
    | .one, operator :: rest =>
      match rest with
      | [] => .error (.missing operator)
      | operand :: _ =>
        .ok ((decideOne files (String.ofList operator) operand).getD false, rest)
    | _, a :: rest =>
      match roleOf files rest, rest with
      | .between, operator :: b :: more => do
        return (← decideTwo .plain files a operator b, b :: more)
      | .between, operator :: [] => .error (.missing operator)
      | _, _ => .ok (!a.isEmpty, a :: rest)

end

/-- Decides what words say that are read with the first one in a role. -/
def decideFrom (files : Files) (role : Role) (ts : List Text) : Except ConditionFault Bool := do
  let (answer, ts) ← decideAny files (4 * ts.length + 4) role ts
  match ts with
  | operator :: _ :: _ => .error (.unexpected operator)
  | _ => return answer

/-- Decides a condition. -/
def decideCondition (files : Files) : List Text → Except ConditionFault Bool
  | [] => .ok false
  | [a, operator, b] =>
    if isBetween operator then decideFrom files .operand [a, operator, b]
    else if a = ['('] && b = [')'] then decideFrom files (roleOf files [operator]) [operator]
    else if a = ['!'] then (decideCondition files [operator, b]).map (!·)
    else decideFrom files (roleOf files [a, operator, b]) [a, operator, b]
  | [a, b, c, d] =>
    if a = ['('] && d = [')'] then decideFrom files (roleOf files [b, c]) [b, c]
    else if a = ['!'] then (decideCondition files [b, c, d]).map (!·)
    else decideFrom files (roleOf files [a, b, c, d]) [a, b, c, d]
  | ts => decideFrom files (roleOf files ts) ts

end Hotkeys.Shell
