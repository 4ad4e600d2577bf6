import Hotkeys.Shell.CountedCondition
import Hotkeys.Shell.Printing
import Hotkeys.Text.Regex
import Hotkeys.Tools.Copying

/-!
# Values

The tools that print what their arguments are worth: texts, numbers and conditions.
-/

set_option autoImplicit false

namespace Hotkeys.Tools

open Hotkeys.Text (Regex)

/-! ## Texts -/

/-- Prints its arguments. -/
def echo : Body := fun args w =>
  w.put (Shell.printLine .bash .both args)

/-- Prints its arguments after a pattern. -/
def printf : Body := fun args w =>
  let args :=
    match args with
    | ['-', '-'] :: rest => rest
    | args => args
  match args with
  | [] => w.lackOperand 1
  | format :: args =>
    let printed := Shell.printFormat false format args
    let w := printed.faults.foldl (fun w fault => w.complain 1 fault.toolMessage) w
    let w := w.put printed.bytes
    match printed.stopped with
    | some fault => w.complain 1 fault.toolMessage
    | none => w

/-- How often a line is printed by the tool that prints it again and again: as often as anybody
will want to read it. -/
def manyTimes : Nat := 2000

/-- Prints a line again and again. -/
def yes : Body :=
  withOptions { letters := "", words := [], stopping := false } 1 fun a w =>
    let line := if a.operands.isEmpty then ['y'] else Text.join [' '] a.operands
    w.print (List.replicate manyTimes (line ++ ['\n'])).flatten

/-- Prints a text, if there are no operands. -/
def constant (t : String) : Body :=
  withOptions { letters := "", words := [], stopping := false } 1 fun a w =>
    match a.operands with
    | [] => w.print (t.toList ++ ['\n'])
    | extra :: _ => w.extraOperand 1 extra

/-- Prints the numbers and the name of the user. -/
def id : Body :=
  withOptions
    { letters := "aGgnruzZ"
      words := [("user", 'u'), ("group", 'g'), ("groups", 'G'), ("name", 'n'), ("real", 'r')]
      stopping := false } 1 fun a w =>
    match a.operands.filter fun user => user != "root".toList && user != ['0'] with
    | user :: _ => w.complain 1 (quoted user ++ ": no such user".toList)
    | [] =>
      let shown :=
        if a.hasOne "ugG" then if a.has 'n' then "root\n" else "0\n"
        else "uid=0(root) gid=0(root) groups=0(root)\n"
      w.print shown.toList

/-- Waits, which takes no time here. -/
def sleep : Body :=
  withOptions { letters := "", words := [], stopping := false } 1 fun a w =>
    let isTime (t : Text) : Bool :=
      let digits := t.takeWhile fun c => c.isDigit || c == '.'
      let rest := t.drop digits.length
      !digits.isEmpty && digits != ['.'] && ["", "s", "m", "h", "d"].any fun s => rest == s.toList
    match a.operands, a.operands.find? fun t => !isTime t && t != "infinity".toList with
    | [], _ => w.lackOperand 1
    | _, some t => w.misuse 1 ("invalid time interval ".toList ++ quoted t)
    | _, none => w

/-- Prints the values of the environment. -/
def printenv : Body :=
  withOptions { letters := "0", words := [("null", '0')], stopping := true } 2 fun a w =>
    let finish := if a.has '0' then ['\x00'] else ['\n']
    if a.operands.isEmpty then
      w.print (w.env.flatMap fun e => e.1 ++ '=' :: e.2 ++ finish)
    else
      a.operands.foldl (fun w name =>
        match (w.env.find? fun e => e.1 == name).map Prod.snd with
        | some value => w.print (value ++ finish)
        | none => w.withCode 1) w

/-! ## Conditions -/

/-- Tests a condition. -/
def test : Body := fun args w =>
  match Shell.Ground.decide { files := w.files, isSet := none } false args with
  | .ok answer => w.withCode (if answer then 0 else 1)
  | .error fault => w.complain 2 fault.toolMessage

/-- Tests a condition in brackets. -/
def bracket : Body := fun args w =>
  if args.getLast? = some [']'] then test args.dropLast w
  else w.complain 2 "missing ']'".toList

/-! ## Numbers -/

/-- A decimal number, as a whole number of parts, and how many digits stand behind its point. -/
def decimal? (t : Text) : Option (Int × Nat) :=
  let (negative, digits) : Bool × Text :=
    match t with
    | '-' :: cs => (true, cs)
    | '+' :: cs => (false, cs)
    | cs => (false, cs)
  let parts : Option (Text × Text) :=
    match Text.splitFirst '.' digits with
    | some (whole, decimals) => some (whole, decimals)
    | none => some (digits, [])
  parts.bind fun (whole, decimals) =>
    (Text.numeral? 10 (whole ++ decimals)).map fun n =>
      (if negative then -(Int.ofNat n) else Int.ofNat n, decimals.length)

/-- A number of parts as it is written with some digits behind its point. -/
def shownDecimal (places : Nat) (n : Int) : Text :=
  let digits := Text.ofNat n.natAbs
  let digits := List.replicate (places + 1 - digits.length) '0' ++ digits
  let whole := digits.take (digits.length - places)
  (if n < 0 then ['-'] else []) ++ whole ++
    if places = 0 then [] else '.' :: digits.drop (digits.length - places)

/-- Prints numbers. -/
def seq : Body := fun args =>
  let guarded := args.map fun arg =>
    match arg with
    | '-' :: c :: _ => if c.isDigit || c = '.' then '\x00' :: arg else arg
    | _ => arg
  withOptions
    { letters := "f:s:w", words := [("format", 'f'), ("separator", 's'), ("equal-width", 'w')]
      stopping := true } 1 (fun a w =>
    let operands := a.operands.map fun t => t.dropWhile (· == '\x00')
    match operands.find? fun t => (decimal? t).isNone, operands with
    | _, [] => w.lackOperand 1
    | some t, _ => w.misuse 1 ("invalid floating point argument: ".toList ++ quoted t)
    | none, _ :: _ :: _ :: extra :: _ => w.extraOperand 1 extra
    | none, operands =>
      let numbers := operands.filterMap decimal?
      let places := (numbers.map Prod.snd).foldl max 0
      let scaled := numbers.map fun n => n.1 * Int.ofNat (Nat.pow 10 (places - n.2))
      let one : Int := Int.ofNat (Nat.pow 10 places)
      let (first, step, last) : Int × Int × Int :=
        match scaled with
        | [last] => (one, one, last)
        | [first, last] => (first, one, last)
        | first :: step :: last :: _ => (first, step, last)
        | [] => (one, one, 0)
      if step = 0 then
        w.misuse 1 ("invalid Zero increment value: ".toList ++ quoted (operands.getD 1 []))
      else
        let count : Nat :=
          if 0 < step then if last < first then 0 else ((last - first) / step).toNat + 1
          else if first < last then 0 else ((first - last) / -step).toNat + 1
        let shown := (List.range (min count 100000)).map fun k =>
          shownDecimal places (first + step * Int.ofNat k)
        let width := (shown.map List.length).foldl max 0
        let even (t : Text) : Text :=
          match t with
          | '-' :: cs => '-' :: List.replicate (width - t.length) '0' ++ cs
          | cs => List.replicate (width - cs.length) '0' ++ cs
        let shown := if a.has 'w' then shown.map even else shown
        let separator := (a.value? 's').getD ['\n']
        if shown.isEmpty then w else w.print (Text.join separator shown ++ ['\n'])) guarded

/-! ## Expressions -/

/-- Why an expression has no value. -/
inductive ExprFault where
  /-- Something is missing behind a word. -/
  | missing (word : Text)
  /-- A word does not belong there. -/
  | unexpected (word : Text)
  /-- A parenthesis is missing behind a word. -/
  | unclosed (word : Text)
  /-- A text is no number. -/
  | notNumber
  /-- Something is divided by zero. -/
  | byZero
  /-- A text is no regular expression. -/
  | form (fault : Text.RegexFault)
  deriving DecidableEq, Repr

/-- Why an expression has no value, in words. -/
def ExprFault.message : ExprFault → Text
  | .missing word => "syntax error: missing argument after ".toList ++ quoted word
  | .unexpected word => "syntax error: unexpected argument ".toList ++ quoted word
  | .unclosed word => "syntax error: expecting ')' after ".toList ++ quoted word
  | .notNumber => "non-integer argument".toList
  | .byZero => "division by zero".toList
  | .form fault => fault.message.toList

/-- A value and the words behind its expression, with the word before them. -/
abbrev ExprResult := Except ExprFault (Text × Text × List Text)

/-- The whole number that a text is. -/
def whole? (t : Text) : Option Int :=
  match t with
  | '-' :: cs => (Text.numeral? 10 cs).map fun n => -(Int.ofNat n)
  | cs => (Text.numeral? 10 cs).map Int.ofNat

/-- A whole number as it is written. -/
def shownWhole (n : Int) : Text :=
  shownDecimal 0 n

/-- Whether a value counts as nothing. -/
def isNothing (t : Text) : Bool :=
  t.isEmpty || whole? t == some 0

/-- What an operator makes of two values. -/
def combine (operator a b : Text) : Except ExprFault Text :=
  let truth (holds : Bool) : Except ExprFault Text := .ok (if holds then ['1'] else ['0'])
  let compared (o : Ordering) : Bool :=
    match String.ofList operator with
    | "<" => o == .lt
    | "<=" => o != .gt
    | "=" | "==" => o == .eq
    | "!=" => o != .eq
    | ">=" => o != .lt
    | _ => o == .gt
  match String.ofList operator with
  | "|" => .ok (if isNothing a then if isNothing b then ['0'] else b else a)
  | "&" => .ok (if isNothing a || isNothing b then ['0'] else a)
  | "+" | "-" | "*" | "/" | "%" =>
    match whole? a, whole? b with
    | some x, some y =>
      match String.ofList operator with
      | "+" => .ok (shownWhole (x + y))
      | "-" => .ok (shownWhole (x - y))
      | "*" => .ok (shownWhole (x * y))
      | "/" => if y = 0 then .error .byZero else .ok (shownWhole (x.tdiv y))
      | _ => if y = 0 then .error .byZero else .ok (shownWhole (x.tmod y))
    | _, _ => .error .notNumber
  | ":" =>
    match Regex.parse .basic b with
    | .error fault => .error (.form fault)
    | .ok (r, groups) =>
      match Regex.matchStart false r a with
      | some m => .ok (if groups = 0 then Text.ofNat m.matched.length else m.group 1)
      | none => .ok (if groups = 0 then ['0'] else [])
  | _ =>
    match whole? a, whole? b with
    | some x, some y => truth (compared (compare x y))
    | _, _ => truth (compared (compare (Text.Utf8.encode a) (Text.Utf8.encode b)))

/-- The operators, those that bind least first. -/
def exprLevels : List (List String) :=
  [["|"], ["&"], ["<", "<=", "=", "==", "!=", ">=", ">"], ["+", "-"], ["*", "/", "%"], [":"]]

mutual

/-- Reads an expression of some levels of operators; `bound` is at least the number of words. -/
def readExpr : (bound : Nat) → List (List String) → (before : Text) → List Text → ExprResult
  | 0, _, before, _ => .error (.missing before)
  | bound + 1, [], before, ts => readOperand bound before ts
  | bound + 1, level :: levels, before, ts => do
    let (value, before, ts) ← readExpr bound levels before ts
    readMore bound level levels value before ts

/-- Reads what operators of one level add to a value. -/
def readMore : (bound : Nat) → List String → List (List String) → (value before : Text) →
    List Text → ExprResult
  | 0, _, _, value, before, ts => .ok (value, before, ts)
  | bound + 1, level, levels, value, before, ts =>
    match ts with
    | operator :: rest =>
      if level.any fun o => operator == o.toList then do
        let (other, before, rest) ← readExpr bound levels operator rest
        readMore bound level levels (← combine operator value other) before rest
      else .ok (value, before, operator :: rest)
    | [] => .ok (value, before, [])

/-- Reads an operand. -/
def readOperand : (bound : Nat) → (before : Text) → List Text → ExprResult
  | 0, before, _ => .error (.missing before)
  | bound + 1, before, ts => do
    match ts with
    | [] => .error (.missing before)
    | word :: rest =>
      match String.ofList word, rest with
      | "(", rest =>
        let (value, before, rest) ← readExpr bound exprLevels word rest
        match rest with
        | [')'] :: rest => return (value, [')'], rest)
        | [] => .error (.unclosed before)
        | other :: _ => .error (.unexpected other)
      | ")", _ => .error (.unexpected word)
      | "+", t :: rest => return (t, t, rest)
      | "length", t :: rest =>
        let (value, before, rest) ← readOperand bound word (t :: rest)
        return (Text.ofNat value.length, before, rest)
      | "match", t :: rest =>
        let (a, before, rest) ← readOperand bound word (t :: rest)
        let (b, before, rest) ← readOperand bound before rest
        return (← combine [':'] a b, before, rest)
      | "index", t :: rest =>
        let (a, before, rest) ← readOperand bound word (t :: rest)
        let (b, before, rest) ← readOperand bound before rest
        let place := (a.takeWhile fun c => !b.contains c).length
        return (Text.ofNat (if place = a.length then 0 else place + 1), before, rest)
      | "substr", t :: rest =>
        let (a, before, rest) ← readOperand bound word (t :: rest)
        let (first, before, rest) ← readOperand bound before rest
        let (size, before, rest) ← readOperand bound before rest
        let part : Text :=
          match whole? first, whole? size with
          | some f, some n => if f ≤ 0 || n ≤ 0 then [] else (a.drop (f.toNat - 1)).take n.toNat
          | _, _ => []
        return (part, before, rest)
      | _, rest => return (word, word, rest)

end

/-- Prints the value of an expression. -/
def expr : Body := fun args w =>
  let args :=
    match args with
    | ['-', '-'] :: rest => rest
    | args => args
  if args.isEmpty then w.lackOperand 2
  else
    match readExpr (20 * args.length + 20) exprLevels [] (args.map Text.Utf8.spread) with
    | .error fault => w.complain 2 (Text.Utf8.gather fault.message)
    | .ok (_, _, extra :: _) =>
      w.complain 2 (Text.Utf8.gather (ExprFault.unexpected extra).message)
    | .ok (value, _, []) =>
      (w.put (Text.Utf8.bytes (value ++ ['\n']))).withCode (if isNothing value then 1 else 0)

end Hotkeys.Tools
