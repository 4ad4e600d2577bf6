import Hotkeys.Shell.Cursor

/-!
# Trials

The conditions between double brackets, which the dialect with more to offer reads as a command of
their own: words in them are not cut, and signs of comparison need no quotes.
-/

set_option autoImplicit false

namespace Hotkeys.Shell

/-- A condition between double brackets. -/
inductive Trial where
  /-- About one word, with an operator in front of it. -/
  | one (operator : Text) (operand : Word)
  /-- About two words, with an operator between them. -/
  | two (first : Word) (operator : Text) (second : Word)
  /-- Holds if the other one does not. -/
  | negated (t : Trial)
  /-- Holds if both hold. -/
  | both (first second : Trial)
  /-- Holds if one of them holds. -/
  | either (first second : Trial)
  deriving Repr

namespace Trial

/-- The text of a word that is not quoted. -/
def bareText? : Word → Option Text
  | [.literal false t] => some t
  | _ => none

/-- Whether a word is an operator in front of an operand. -/
def isOneOperator (t : Text) : Bool :=
  match t with
  | ['-', c] => "abcdefghknoprstuvwxzGLNORS".toList.contains c
  | _ => false

/-- Whether a word is an operator between two operands. -/
def isTwoOperator (t : Text) : Bool :=
  ["=", "==", "!=", "=~", "-eq", "-ne", "-lt", "-le", "-gt", "-ge", "-nt", "-ot", "-ef"].any
    fun operator => t == operator.toList

/-- The operator between two operands at a position, and the position behind it. -/
def operatorAt? (c : Cursor) : Option (Text × Cursor) :=
  match c.token with
  | .word w => ((bareText? w).filter isTwoOperator).map fun t => (t, c.next)
  | .redirect 0 .read => some (['<'], c.next)
  | .redirect 1 .write => some (['>'], c.next)
  | _ => none

/-- The word of a form that is compared with: everything up to a blank. -/
def formAt (c : Cursor) (r : Reader) : Word × Cursor :=
  let r := r.atToken
  let form := r.text.takeWhile fun ch => !(ch == ' ' || ch == '\t' || ch == '\n')
  let behind := Cursor.ofReader { r with text := r.text.drop form.length }
  (if form.isEmpty then [] else wordInside c.rest.dialect .nothing form, behind)

mutual

/-- Reads conditions joined by `||`. -/
def parseEither : (bound : Nat) → Cursor → Except Misfit (Trial × Cursor)
  | 0, c => unexpected c false none
  | bound + 1, c => do
    let (first, c) ← parseBoth bound c
    let c := c.skipNewlines bound
    if c.token = .orElse then
      let (second, c) ← parseEither bound c.next
      return (.either first second, c)
    else return (first, c)

/-- Reads conditions joined by `&&`. -/
def parseBoth : (bound : Nat) → Cursor → Except Misfit (Trial × Cursor)
  | 0, c => unexpected c false none
  | bound + 1, c => do
    let (first, c) ← parseSingle bound c
    let c := c.skipNewlines bound
    if c.token = .andThen then
      let (second, c) ← parseBoth bound c.next
      return (.both first second, c)
    else return (first, c)

/-- Reads a single condition. -/
def parseSingle : (bound : Nat) → Cursor → Except Misfit (Trial × Cursor)
  | 0, c => unexpected c false none
  | bound + 1, c => do
    let c := c.skipNewlines bound
    match c.token with
    | .openParen =>
      let (inner, c) ← parseEither bound c.next
      if c.token = .closeParen then return (inner, c.next) else unexpected c false none
    | .word w =>
      let next := c.next
      if bareText? w = some ['!'] then
        let (inner, c) ← parseSingle bound next
        return (.negated inner, c)
      else
        match operatorAt? next, next.token with
        | some (operator, d), _ =>
          if operator = "=~".toList then
            let (form, d) := formAt next next.rest
            return (.two w operator form, d)
          else
            match d.token with
            | .word second => return (.two w operator second, d.next)
            | _ => unexpected d false none
        | none, .word operand =>
          match (bareText? w).filter isOneOperator, bareText? operand with
          | _, some [']', ']'] => return (.one "-n".toList w, next)
          | some operator, _ => return (.one operator operand, next.next)
          | none, _ => unexpected next false none
        | none, _ => return (.one "-n".toList w, next)
    | _ => unexpected c false none

end

/-- Reads a condition and the brackets behind it. -/
def parse (bound : Nat) (c : Cursor) : Except Misfit (Trial × Cursor) := do
  let (t, c) ← parseEither bound c
  match c.token with
  | .word [.literal false [']', ']']] => return (t, c.next)
  | _ => unexpected c false none

end Trial

end Hotkeys.Shell
