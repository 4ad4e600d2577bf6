import Hotkeys.Shell.Dialect
import Hotkeys.Shell.Values
import Hotkeys.Text.Numeral

/-!
# Arithmetic

Arithmetic expressions on words of 64 bits: how they are read, and what they are worth.  Names
stand for the numbers that they have as values, and may be given new ones.
-/

set_option autoImplicit false

namespace Hotkeys.Shell

/-! ## Expressions -/

/-- An operator between two expressions. -/
inductive Operator where
  /-- The operator `||`. -/
  | either
  /-- The operator `&&`. -/
  | both
  /-- The operator `|`. -/
  | bitOr
  /-- The operator `^`. -/
  | bitXor
  /-- The operator `&`. -/
  | bitAnd
  /-- The operator `==`. -/
  | equal
  /-- The operator `!=`. -/
  | unequal
  /-- The operator `<`. -/
  | less
  /-- The operator `<=`. -/
  | lessOrEqual
  /-- The operator `>`. -/
  | greater
  /-- The operator `>=`. -/
  | greaterOrEqual
  /-- The operator `<<`. -/
  | shiftLeft
  /-- The operator `>>`. -/
  | shiftRight
  /-- The operator `+`. -/
  | plus
  /-- The operator `-`. -/
  | minus
  /-- The operator `*`. -/
  | times
  /-- The operator `/`. -/
  | divide
  /-- The operator `%`. -/
  | modulo
  /-- The operator `**`. -/
  | power
  deriving DecidableEq, Repr

/-- An operator in front of an expression. -/
inductive Sign where
  /-- The sign `+`. -/
  | plus
  /-- The sign `-`. -/
  | minus
  /-- The sign `!`. -/
  | negation
  /-- The sign `~`. -/
  | complement
  deriving DecidableEq, Repr

/-- What is wrong with an expression, and what is written from there on. -/
inductive ArithmeticFault where
  /-- Something else should stand there. -/
  | expecting (what : String) (token : Text)
  /-- What stands there breaks a rule of the language that has more to offer. -/
  | broken (rule : String) (token : Text)
  /-- A number is divided by zero. -/
  | division (token : Text)
  /-- The value of a name is no number. -/
  | notNumber (value : Text)
  /-- A name has no value where one is needed. -/
  | missing (name : Text)
  /-- Something is wrong with the expression that the value of a name is. -/
  | inside (value : Text) (f : ArithmeticFault)
  deriving DecidableEq, Repr

/-- An arithmetic expression. -/
inductive Expression where
  /-- A number. -/
  | number (n : Int64)
  /-- The number that a name has as its value. -/
  | name (n : Text)
  /-- An expression behind a sign. -/
  | signed (sign : Sign) (e : Expression)
  /-- Two expressions with an operator between them; `token` is what is written from the second
  one on. -/
  | binary (operator : Operator) (a b : Expression) (token : Text)
  /-- Two expressions, the first of which counts for nothing. -/
  | behind (a b : Expression)
  /-- A name whose value is moved by a step, before it is taken or after. -/
  | moved (name : Text) (step : Int64) (before : Bool)
  /-- One of two expressions, as a condition says. -/
  | choice (condition yes no : Expression)
  /-- Gives a name a value, which the operator makes of the old one. -/
  | assign (name : Text) (operator : Option Operator) (e : Expression)
  /-- What is written wrong; it counts when everything before it has been worked out. -/
  | fault (f : ArithmeticFault)
  deriving Repr

/-! ## Reading -/

/-- The greatest number. -/
def greatestNumber : Nat := 9223372036854775807

/-- A number as a word; one that is too great becomes the greatest. -/
def wordOfNat (n : Nat) : Int64 :=
  Int64.ofInt (min n greatestNumber)

/-- The digits of a number at the beginning of a text, and what follows. -/
def digitsIn (base : Nat) (t : Text) : Text × Text :=
  let isDigit (c : Char) := (Text.digitValue? c).any fun d => decide (d < base)
  (t.takeWhile isDigit, t.dropWhile isDigit)

/-- The number at the beginning of a text, and what follows.  A zero in front makes it octal, a
zero and an `x` hexadecimal. -/
def numberIn (t : Text) : Option (Nat × Text) :=
  let read (base : Nat) (t : Text) : Option (Nat × Text) :=
    let (digits, rest) := digitsIn base t
    (Text.numeral? base digits).map fun n => (n, rest)
  match t with
  | '0' :: x :: rest =>
    if x = 'x' || x = 'X' then (read 16 rest).orElse fun _ => some (0, x :: rest)
    else read 8 t
  | _ => read 10 t

/-- The operators and other signs as they are written, the longer ones first. -/
def signs (d : Dialect) : List Text :=
  let more := if d.isBash then ["++", "--", "**", ","] else []
  (["<<=", ">>="] ++ more ++
    ["&&", "||", "==", "!=", "<=", ">=", "<<", ">>", "+=", "-=", "*=", "/=", "%=", "&=", "|=",
      "^=", "+", "-", "*", "/", "%", "<", ">", "&", "|", "^", "=", "?", ":", "(", ")", "!",
      "~"]).map String.toList

/-- Whether a character separates the parts of an expression. -/
def isGap (c : Char) : Bool :=
  " \t\n".toList.contains c

/-- The name at the beginning of a text, and what follows. -/
def nameIn (t : Text) : Option (Text × Text) :=
  match t.dropWhile isGap with
  | [] => none
  | c :: cs =>
    if c.isAlpha || c == '_' then
      some (c :: cs.takeWhile Text.isAsciiWord, cs.dropWhile Text.isAsciiWord)
    else none

/-- The sign that a text begins with, and what follows.  A double sign that no name follows is a
single one. -/
def signIn (d : Dialect) (t : Text) : Option (String × Text) :=
  let t := t.dropWhile isGap
  (signs d).findSome? fun sign =>
    (Text.after? sign t).bind fun rest =>
      if (sign = ['+', '+'] || sign = ['-', '-']) && (nameIn rest).isNone then none
      else some (String.ofList sign, rest)

/-- The operators of a level.  Those of a higher level bind more strongly. -/
def operatorAt (level : Nat) (sign : String) : Option Operator :=
  match level, sign with
  | 0, "||" => some .either
  | 1, "&&" => some .both
  | 2, "|" => some .bitOr
  | 3, "^" => some .bitXor
  | 4, "&" => some .bitAnd
  | 5, "==" => some .equal
  | 5, "!=" => some .unequal
  | 6, "<" => some .less
  | 6, "<=" => some .lessOrEqual
  | 6, ">" => some .greater
  | 6, ">=" => some .greaterOrEqual
  | 7, "<<" => some .shiftLeft
  | 7, ">>" => some .shiftRight
  | 8, "+" => some .plus
  | 8, "-" => some .minus
  | 9, "*" => some .times
  | 9, "/" => some .divide
  | 9, "%" => some .modulo
  | 10, "**" => some .power
  | _, _ => none

/-- The number of levels. -/
def levels : Nat := 11

/-- How a sign gives a name a value: with no operator, or with one. -/
def assignment? (sign : String) : Option (Option Operator) :=
  match sign with
  | "=" => some none
  | "<<=" => some (some .shiftLeft)
  | ">>=" => some (some .shiftRight)
  | "+=" => some (some .plus)
  | "-=" => some (some .minus)
  | "*=" => some (some .times)
  | "/=" => some (some .divide)
  | "%=" => some (some .modulo)
  | "&=" => some (some .bitAnd)
  | "|=" => some (some .bitOr)
  | "^=" => some (some .bitXor)
  | _ => none

/-- A part of an expression and what follows it. -/
abbrev Parsed := Expression × Text

/-- A fault, which nothing follows. -/
def faulty (f : ArithmeticFault) : Parsed :=
  (.fault f, [])

/-- The complaint that something else should stand at the beginning of a text. -/
def misplaced (what : String) (t : Text) : Parsed :=
  faulty (.expecting what (t.dropWhile isGap))

/-- The complaint about what stands behind an expression that should have come to its end. -/
def overlong (d : Dialect) (what : String) (t : Text) : Parsed :=
  let t := t.dropWhile isGap
  if d.isBash && !t.isEmpty && (signIn d t).isNone && (nameIn t).isNone && (numberIn t).isNone then
    faulty (.broken "syntax error: invalid arithmetic operator" t)
  else misplaced what t

/-- The value of a digit of a base. -/
def basedDigit? (base : Nat) (c : Char) : Option Nat :=
  if c.isDigit then some (c.toNat - '0'.toNat)
  else if c.isLower then some (c.toNat - 'a'.toNat + 10)
  else if c.isUpper then some (c.toNat - 'A'.toNat + if base ≤ 36 then 10 else 36)
  else if c = '@' then some 62
  else if c = '_' then some 63
  else none

/-- The number that digits of a base are, or what is wrong with them. -/
def basedNumber (base : Nat) (digits : Text) : Except String Nat :=
  digits.foldlM (fun n c =>
    match basedDigit? base c with
    | some digit =>
      if digit < base then .ok (n * base + digit) else .error "value too great for base"
    | none => .error "invalid number") 0

/-- The number that a whole text is, where its base may be written in front, or what is wrong with
it. -/
def writtenNumber (t : Text) : Except String Nat :=
  match Text.splitFirst '#' t, t with
  | some (base, digits), _ => do
    let base ← basedNumber 10 base
    if base < 2 || 64 < base then .error "invalid arithmetic base"
    else if digits.isEmpty then .error "invalid integer constant"
    else basedNumber base digits
  | none, '0' :: x :: digits =>
    if x = 'x' || x = 'X' then basedNumber 16 digits else basedNumber 8 (x :: digits)
  | none, digits => basedNumber 10 digits

/-- Reads the number at the beginning of a text, if there is one. -/
def parseNumber? (d : Dialect) (t : Text) : Option Parsed :=
  if d.isBash then
    let inNumber (c : Char) : Bool := Text.isAsciiWord c || c == '#' || c == '@'
    if t.head?.any Char.isDigit then
      let token := t.takeWhile inNumber
      match writtenNumber token with
      | .ok n => some (.number (Int64.ofInt n), t.drop token.length)
      | .error rule => some (faulty (.inside token (.broken rule token)))
    else none
  else (numberIn t).map fun r => (.number (wordOfNat r.1), r.2)

mutual

/-- Reads expressions with commas between them; `bound` limits how deep and how far. -/
def parseExpression (d : Dialect) : (bound : Nat) → Text → Parsed
  | 0, t => misplaced "primary" t
  | bound + 1, t =>
    let (first, rest) := parseAssignment d bound t
    match signIn d rest with
    | some (",", rest) =>
      let (second, rest) := parseExpression d bound rest
      (.behind first second, rest)
    | _ => (first, rest)

/-- Reads an expression without commas. -/
def parseAssignment (d : Dialect) : (bound : Nat) → Text → Parsed
  | 0, t => misplaced "primary" t
  | bound + 1, t =>
    let assigned (t : Text) : Option (Option Operator × Text) :=
      (signIn d t).bind fun s => (assignment? s.1).map fun operator => (operator, s.2)
    match (nameIn t).bind fun n => (assigned n.2).map fun a => (n.1, a) with
    | some (name, operator, rest) =>
      let (e, rest) := parseAssignment d bound rest
      (.assign name operator e, rest)
    | none =>
      let (e, rest) := parseTernary d bound t
      if d.isBash && (assigned rest).isSome then
        let rule := "attempted assignment to non-variable"
        (.behind e (.fault (.broken rule (rest.dropWhile isGap))), [])
      else (e, rest)

/-- Reads a condition and, if there is a `?` behind it, what it chooses from. -/
def parseTernary (d : Dialect) : (bound : Nat) → Text → Parsed
  | 0, t => misplaced "primary" t
  | bound + 1, t =>
    let (condition, rest) := parseLevel d bound 0 t
    match signIn d rest with
    | some ("?", rest) =>
      let lacking (t : Text) : Bool := d.isBash && (t.all isGap || Text.beginsWith t [':'])
      let missing (t : Text) : Parsed := faulty (.broken "expression expected" t)
      let rest := rest.dropWhile isGap
      let (yes, rest) := if lacking rest then missing rest else parseExpression d bound rest
      match signIn d rest with
      | some (":", rest) =>
        let (no, rest) :=
          if d.isBash && rest.all isGap then missing [] else parseTernary d bound rest
        (.choice condition yes no, rest)
      | _ =>
        let (no, rest) := overlong d "':'" rest
        (.choice condition yes no, rest)
    | _ => (condition, rest)

/-- Reads operands with the operators of a level between them. -/
def parseLevel (d : Dialect) : (bound level : Nat) → Text → Parsed
  | 0, _, t => misplaced "primary" t
  | bound + 1, level, t =>
    if levels ≤ level then parsePrimary d bound t
    else
      let (first, rest) := parseLevel d bound (level + 1) t
      parseMore d bound level first rest

/-- Reads what follows the first operand of a level. -/
def parseMore (d : Dialect) : (bound level : Nat) → Expression → Text → Parsed
  | 0, _, first, rest => (first, rest)
  | bound + 1, level, first, text =>
    match (signIn d text).bind fun s => (operatorAt level s.1).map fun op => (op, s.2) with
    | some (operator, rest) =>
      let (second, behind) :=
        parseLevel d bound (if operator = .power then level else level + 1) rest
      parseMore d bound level (.binary operator first second (rest.dropWhile isGap)) behind
    | none => (first, text)

/-- Reads an operand without operators around it. -/
def parsePrimary (d : Dialect) : (bound : Nat) → Text → Parsed
  | 0, t => misplaced "primary" t
  | bound + 1, t =>
    match parseNumber? d (t.dropWhile isGap), nameIn t, signIn d t with
    | some number, _, _ => number
    | none, some (name, rest), _ =>
      let stepped (sign : String) : Option Text :=
        if d.isBash then Text.after? sign.toList (rest.dropWhile isGap) else none
      match stepped "++", stepped "--" with
      | some rest, _ => (.moved name 1 false, rest)
      | none, some rest => (.moved name (-1) false, rest)
      | none, none => (.name name, rest)
    | none, none, some ("(", rest) =>
      let (e, rest) := parseExpression d bound rest
      match signIn d rest with
      | some (")", rest) => (e, rest)
      | _ =>
        let (missing, rest) := overlong d "')'" rest
        (.behind e missing, rest)
    | none, none, some (sign, rest) =>
      let stepped (step : Int64) : Parsed :=
        match nameIn rest with
        | some (name, rest) => (.moved name step true, rest)
        | none => parsePrimary d bound rest
      let signed (sign : Sign) : Parsed :=
        let (e, rest) := parsePrimary d bound rest
        (.signed sign e, rest)
      match sign with
      | "++" => stepped 1
      | "--" => stepped (-1)
      | "+" => signed .plus
      | "-" => signed .minus
      | "!" => signed .negation
      | "~" => signed .complement
      | _ => misplaced "primary" t
    | none, none, none => misplaced "primary" t

end

/-- The expression that a whole text is.  Where there is more to offer, nothing at all is zero. -/
def Expression.ofText (d : Dialect) (t : Text) : Expression :=
  if d.isBash && t.all isGap then .number 0
  else
    let (e, rest) := parseExpression d ((levels + 5) * (t.length + 1)) t
    if rest.all isGap then e else .behind e (overlong d "EOF" rest).1

/-- What is written from the last part of an expression on; `bound` is at least its length. -/
def lastPart (d : Dialect) : (bound : Nat) → Text → Text
  | 0, t => t
  | bound + 1, t =>
    let t := t.dropWhile isGap
    let rest :=
      match parseNumber? d t, nameIn t, signIn d t with
      | some (.number _, rest), _, _ => rest
      | _, some (_, rest), _ => rest
      | _, _, some (_, rest) => rest
      | _, _, _ => t.drop 1
    if rest.all isGap then t else lastPart d bound rest

/-- The fault in words; `source` is the expression as it is written.  A fault at its end is found
in the last part of it. -/
def ArithmeticFault.message (d : Dialect) (source : Text) : ArithmeticFault → Text
  | .expecting what token =>
    if d.isBash then
      about token
        (match what with
        | "EOF" => "syntax error in expression"
        | "')'" => "missing \x60)'"
        | "':'" => "\x60:' expected for conditional expression"
        | _ => "syntax error: operand expected")
    else
      "arithmetic expression: expecting ".toList ++ what.toList ++ ": \"".toList ++ source ++ ['"']
  | .broken rule token => about token rule
  | .division token =>
    if d.isBash then about token "division by 0"
    else "arithmetic expression: division by zero: \"".toList ++ source ++ ['"']
  | .notNumber value =>
    if d.isBash then
      value ++ ": syntax error: operand expected (error token is \"".toList ++ value ++
        "\")".toList
    else "Illegal number: ".toList ++ value
  | .missing name => name ++ ": unbound variable".toList
  | .inside value f => f.message d value
where
  /-- A complaint about a part of the expression. -/
  about (token : Text) (what : String) : Text :=
    let token := if token.isEmpty then lastPart d (source.length + 1) source else token
    source.dropWhile isGap ++ ": ".toList ++ what.toList ++ " (error token is \"".toList ++
      token ++ "\")".toList

/-- Whether a fault is the end of a script. -/
def ArithmeticFault.endsScript : ArithmeticFault → Bool
  | .missing _ => true
  | .inside _ f => f.endsScript
  | _ => false

/-! ## Worth -/

/-- The number of a truth value. -/
def truth (b : Bool) : Int64 :=
  if b then 1 else 0

/-- A number multiplied with itself; `bound` is at least the number of digits of `n` in base two. -/
def wordPower : (bound : Nat) → (a : Int64) → (n : Nat) → Int64
  | 0, _, _ => 1
  | bound + 1, a, n =>
    let rest := if n < 2 then 1 else wordPower bound (a * a) (n / 2)
    if n % 2 = 1 then a * rest else rest

/-- What an operator makes of two numbers; `token` is what is written from the second one on. -/
def Operator.apply (operator : Operator) (token : Text) (a b : Int64) :
    Except ArithmeticFault Int64 :=
  match operator with
  | .either => .ok (truth (a != 0 || b != 0))
  | .both => .ok (truth (a != 0 && b != 0))
  | .bitOr => .ok (a ||| b)
  | .bitXor => .ok (a ^^^ b)
  | .bitAnd => .ok (a &&& b)
  | .equal => .ok (truth (a == b))
  | .unequal => .ok (truth (a != b))
  | .less => .ok (truth (decide (a < b)))
  | .lessOrEqual => .ok (truth (decide (a ≤ b)))
  | .greater => .ok (truth (decide (b < a)))
  | .greaterOrEqual => .ok (truth (decide (b ≤ a)))
  | .shiftLeft => .ok (a <<< b)
  | .shiftRight => .ok (a >>> b)
  | .plus => .ok (a + b)
  | .minus => .ok (a - b)
  | .times => .ok (a * b)
  | .divide => if b = 0 then .error (.division token) else .ok (a / b)
  | .modulo => if b = 0 then .error (.division token) else .ok (a % b)
  | .power =>
    if b < 0 then .error (.broken "exponent less than 0" [])
    else .ok (wordPower 64 a b.toInt.toNat)

/-- What a sign makes of a number. -/
def Sign.apply (sign : Sign) (a : Int64) : Int64 :=
  match sign with
  | .plus => a
  | .minus => -a
  | .negation => truth (a == 0)
  | .complement => ~~~a

/-- The number that a value is; no value counts as zero. -/
def numberOf (value : Option Text) : Except ArithmeticFault Int64 :=
  let t := value.getD []
  let body := t.dropWhile isGap
  let (minus, body) :=
    match body with
    | '-' :: rest => (true, rest)
    | '+' :: rest => (false, rest)
    | _ => (false, body)
  match numberIn body with
  | some (n, rest) =>
    if rest.all isGap then .ok (if minus then -(wordOfNat n) else wordOfNat n)
    else .error (.notNumber t)
  | none => if t.all isGap then .ok 0 else .error (.notNumber t)

/-- A number as it is written. -/
def textOfNumber (n : Int64) : Text :=
  if n.toInt < 0 then '-' :: Text.ofNat n.toInt.natAbs else Text.ofNat n.toInt.toNat

/-- What is wrong in an expression that does not count. -/
def Expression.fault? : Expression → Option ArithmeticFault
  | .number _ | .name _ | .moved .. => none
  | .signed _ e | .assign _ _ e => e.fault?
  | .binary _ a b _ | .behind a b => a.fault? <|> b.fault?
  | .choice condition yes no => condition.fault? <|> yes.fault? <|> no.fault?
  | .fault f => some f

/-- Goes on unless something is wrong in an expression that does not count. -/
def Expression.passOver (e : Expression) : Except ArithmeticFault Unit :=
  match e.fault? with
  | some f => .error f
  | none => .ok ()

/-- What an expression is worth, and the values behind it.  `number` reads the value of a name. -/
def Expression.value (number : Text → Values → Except ArithmeticFault Int64) :
    Expression → Values → Except ArithmeticFault (Int64 × Values)
  | .number n, values => .ok (n, values)
  | .name n, values => do return (← number n values, values)
  | .signed sign e, values => do
    let (a, values) ← e.value number values
    return (sign.apply a, values)
  | .binary .both a b _, values => do
    let (m, values) ← a.value number values
    if m = 0 then
      b.passOver
      return (0, values)
    else
      let (n, values) ← b.value number values
      return (truth (n != 0), values)
  | .binary .either a b _, values => do
    let (m, values) ← a.value number values
    if m != 0 then
      b.passOver
      return (1, values)
    else
      let (n, values) ← b.value number values
      return (truth (n != 0), values)
  | .binary operator a b token, values => do
    let (m, values) ← a.value number values
    let (n, values) ← b.value number values
    return (← operator.apply token m n, values)
  | .behind a b, values => do
    let (_, values) ← a.value number values
    b.value number values
  | .moved target step before, values => do
    let n ← number target values
    return (if before then n + step else n, values.set target (textOfNumber (n + step)))
  | .choice condition yes no, values => do
    let (m, values) ← condition.value number values
    if m != 0 then
      let result ← yes.value number values
      no.passOver
      return result
    else
      yes.passOver
      no.value number values
  | .assign target operator e, values => do
    let (n, values) ← e.value number values
    let n ←
      match operator with
      | none => pure n
      | some operator => operator.apply [] (← number target values) n
    return (n, values.set target (textOfNumber n))
  | .fault f, _ => .error f

/-- The number that the value of a name is, where it may be an expression with more names in it.
`depth` bounds how far names lead to others; `needed` says whether every name needs a value. -/
def numberBehind (d : Dialect) (needed : Bool) :
    (depth : Nat) → Text → Values → Except ArithmeticFault Int64
  | 0, name, values => numberOf (values.get? name)
  | depth + 1, name, values =>
    let value := values.get? name
    match d, numberOf value with
    | .plain, result => result
    | .bash, .ok n => if needed && value.isNone then .error (.missing name) else .ok n
    | .bash, .error _ =>
      let text := value.getD []
      match (Expression.ofText d text).value (numberBehind d needed depth) values with
      | .ok (n, _) => .ok n
      | .error f => .error (.inside text f)

/-- How far names may lead to others. -/
def nameDepth : Nat := 64

/-- What the expression that a text is is worth, and the values behind it. -/
def arithmetic (d : Dialect) (needed : Bool) (t : Text) (values : Values) :
    Except ArithmeticFault (Int64 × Values) :=
  (Expression.ofText d t).value (numberBehind d needed nameDepth) values

end Hotkeys.Shell
