import Hotkeys.Shell.Condition

/-!
# Conditions by the number of words

Outside of the standard interpreter, the number of words of a condition tells how it is read: with
up to four of them the place of a word tells its meaning, and only longer conditions are read from
left to right.
-/

set_option autoImplicit false

namespace Hotkeys.Shell

open Hotkeys.Host (Files)

/-- What decides conditions: the files, and which names have values. -/
structure Ground where
  /-- The files. -/
  files : Files
  /-- Whether a name has a value, where that can be asked for. -/
  isSet : Option (Text → Bool)

namespace Ground

/-- What an operator says of one operand, if it takes one. -/
def one (g : Ground) (operator : Text) (operand : Text) : Option Bool :=
  match operator, g.isSet with
  | ['-', 'v'], some isSet => some (isSet operand)
  | ['-', 'N'], some _ => some (g.files.contains operand)
  | ['-', 'o'], some _ => some false
  | ['-', _], _ => decideOne g.files (String.ofList operator) operand
  | _, _ => none

/-- What an operator says of two operands, if it stands between two. -/
def two (g : Ground) (a operator b : Text) : Option (Except ConditionFault Bool) :=
  if operator = "==".toList then some (.ok (a == b))
  else if (operator = ['<'] || operator = ['>']) && g.isSet.isNone then none
  else if isBetween operator then
    some (decideTwo (if g.isSet.isSome then .bash else .plain) g.files a operator b)
  else none

mutual

/-- Decides conditions joined by `-o`; `bound` is at least the number of words. -/
def any (g : Ground) (last : Text) : (bound : Nat) → List Text → Decision
  | 0, ts => .ok (false, ts)
  | bound + 1, ts => do
    let (first, ts) ← every g last bound ts
    match ts with
    | ['-', 'o'] :: rest =>
      let (others, ts) ← any g last bound rest
      return (first || others, ts)
    | _ => return (first, ts)

/-- Decides conditions joined by `-a`. -/
def every (g : Ground) (last : Text) : (bound : Nat) → List Text → Decision
  | 0, ts => .ok (false, ts)
  | bound + 1, ts => do
    let (first, ts) ← single g last bound ts
    match ts with
    | ['-', 'a'] :: rest =>
      let (others, ts) ← every g last bound rest
      return (first && others, ts)
    | _ => return (first, ts)

/-- Decides a single condition. -/
def single (g : Ground) (last : Text) : (bound : Nat) → List Text → Decision
  | 0, ts => .ok (false, ts)
  | bound + 1, ts =>
    match ts with
    | [] => .error (.missing last)
    | ['!'] :: rest => do
      let (answer, rest) ← single g last bound rest
      return (!answer, rest)
    | ['('] :: rest => do
      let (answer, rest) ← any g last bound rest
      match rest with
      | [')'] :: rest => return (answer, rest)
      | _ => .error .unclosed
    | a :: rest =>
      let between : Option Decision :=
        match rest with
        | operator :: b :: more =>
          (g.two a operator b).map fun answer => answer.map fun answer => (answer, more)
        | _ => none
      match between, (g.one a []).isSome, rest with
      | some decision, _, _ => decision
      | none, true, operand :: more => .ok ((g.one a operand).getD false, more)
      | none, true, [] => .error (.missing last)
      | none, false, _ => .ok (!a.isEmpty, rest)

end

/-- Decides a condition of two words. -/
def ofTwo (g : Ground) (lenient : Bool) (a b : Text) : Except ConditionFault Bool :=
  if a = ['!'] then .ok b.isEmpty
  else
    match g.one a b with
    | some answer => .ok answer
    | none => if lenient || Text.beginsWith a ['-'] && a.length = 2 then .error (.notOne a)
      else .error (.missing b)

/-- Decides a condition of three words. -/
def ofThree (g : Ground) (lenient : Bool) (a b c : Text) : Except ConditionFault Bool :=
  match g.two a b c with
  | some answer => answer
  | none =>
    if a = ['!'] then (g.ofTwo lenient b c).map (!·)
    else if a = ['('] && c = [')'] then .ok !b.isEmpty
    else if b = ['-', 'a'] then .ok (!a.isEmpty && !c.isEmpty)
    else if b = ['-', 'o'] then .ok (!a.isEmpty || !c.isEmpty)
    else .error (.notBetween b)

/-- Decides a condition of any number of words. -/
def ofMany (g : Ground) (ts : List Text) : Except ConditionFault Bool := do
  let (answer, rest) ← g.any (ts.getLast?.getD []) (4 * ts.length + 4) ts
  match rest with
  | [] => return answer
  | t :: _ => .error (.extra t)

/-- Decides a condition.  With `lenient`, any first word of two passes for an operator. -/
def decide (g : Ground) (lenient : Bool) (ts : List Text) : Except ConditionFault Bool :=
  match ts with
  | [] => .ok false
  | [a] => .ok !a.isEmpty
  | [a, b] => g.ofTwo lenient a b
  | [a, b, c] => g.ofThree lenient a b c
  | [a, b, c, d] =>
    if a = ['!'] then (g.ofThree lenient b c d).map (!·)
    else if a = ['('] && d = [')'] then g.ofTwo lenient b c
    else g.ofMany ts
  | ts => g.ofMany ts

end Ground

end Hotkeys.Shell
