import Hotkeys.Host.Files
import Hotkeys.Shell.Arithmetic

/-!
# Printing

What the commands that print make of their arguments: escapes behind backslashes, and the places
in a format where arguments go in.
-/

set_option autoImplicit false

namespace Hotkeys.Shell

open Hotkeys.Host (Bytes)

/-! ## Escapes -/

/-- The value of an octal digit. -/
def octal? (c : Char) : Option Nat :=
  if '0' ≤ c && c ≤ '7' then some (c.toNat - '0'.toNat) else none

/-- The value of up to `most` octal digits and what follows them. -/
def octals (value : Nat) : (most : Nat) → Text → Nat × Text
  | 0, t => (value, t)
  | _, [] => (value, [])
  | most + 1, c :: cs =>
    match octal? c with
    | some d => octals (value * 8 + d) most cs
    | none => (value, c :: cs)

/-- The byte that a letter behind a backslash stands for. -/
def escapeByte? (c : Char) : Option UInt8 :=
  match c with
  | 'a' => some 7
  | 'b' => some 8
  | 't' => some 9
  | 'n' => some 10
  | 'v' => some 11
  | 'f' => some 12
  | 'r' => some 13
  | 'e' => some 27
  | '\\' => some 92
  | _ => none

/-- The bytes of an escape that gives the number of a byte or of a character, whose backslash stands
before `c`, and what follows it. -/
def numberedBytes? (c : Char) (cs : Text) : Option (Bytes × Text) :=
  let coded (most : Nat) : Option (Nat × Text) :=
    let digits := (cs.take most).takeWhile fun c => (Text.digitValue? c).any fun d => d < 16
    (Text.numeral? 16 digits).map fun n => (n, cs.drop digits.length)
  match c with
  | 'x' => (coded 2).map fun r => ([UInt8.ofNat r.1], r.2)
  | 'u' => (coded 4).map fun r => (Text.Utf8.encode [Char.ofNat r.1], r.2)
  | 'U' => (coded 8).map fun r => (Text.Utf8.encode [Char.ofNat r.1], r.2)
  | _ => none

/-- How the octal number of a byte is written behind a backslash. -/
inductive OctalStyle where
  /-- With up to three digits, the first of which may be a zero. -/
  | plain
  /-- With a zero and up to three digits behind it. -/
  | zeroed
  /-- In both ways. -/
  | both
  deriving DecidableEq, Repr

/-- The bytes of an escape whose backslash stands before `c`, and what follows it.  Where octal
numbers are plain, a quote needs an escape; with `more`, there are escapes for any number. -/
def escapeBytes (more : Bool) (style : OctalStyle) (c : Char) (cs : Text) : Bytes × Text :=
  let asWritten : Bytes × Text :=
    match (numberedBytes? c cs).filter fun _ => more with
    | some found => found
    | none => (Text.Utf8.encode ['\\', c], cs)
  match escapeByte? c, octal? c with
  | some b, _ => ([b], cs)
  | none, some d =>
    if style = .zeroed && c != '0' then asWritten
    else
      let (value, rest) := if style != .plain && c = '0' then octals 0 3 cs else octals d 2 cs
      ([UInt8.ofNat value], rest)
  | none, none => if c = '"' && style = .plain then ([34], cs) else asWritten

/-- A text with its escapes resolved, and whether one of them ends everything.  `bound` is at least
its length. -/
def unescapeIn (more : Bool) (style : OctalStyle) : (bound : Nat) → Text → Bytes × Bool
  | 0, _ => ([], false)
  | _, [] => ([], false)
  | bound + 1, '\\' :: c :: cs =>
    if c = 'c' then ([], true)
    else
      let (first, rest) := escapeBytes more style c cs
      let (others, stopped) := unescapeIn more style bound rest
      (first ++ others, stopped)
  | bound + 1, c :: cs =>
    let (others, stopped) := unescapeIn more style bound cs
    (Text.Utf8.encode [c] ++ others, stopped)

/-- A text with its escapes resolved, and whether one of them ends everything. -/
def unescapeBytes (more : Bool) (style : OctalStyle) (t : Text) : Bytes × Bool :=
  unescapeIn more style (t.length + 1) t

/-! ## Lines -/

/-- How a line is printed: whether it is kept open, and whether escapes are resolved. -/
structure LineStyle where
  /-- Whether no newline follows. -/
  isOpen : Bool
  /-- Whether escapes are resolved. -/
  escapes : Bool
  deriving DecidableEq, Repr

/-- The style that letters of a flag ask for, if all of them do. -/
def LineStyle.letters (s : LineStyle) : Text → Option LineStyle
  | [] => some s
  | 'n' :: cs => { s with isOpen := true }.letters cs
  | 'e' :: cs => { s with escapes := true }.letters cs
  | 'E' :: cs => { s with escapes := false }.letters cs
  | _ => none

/-- The style that flags in front of arguments ask for, and the arguments behind them. -/
def LineStyle.flags (s : LineStyle) : List Text → LineStyle × List Text
  | [] => (s, [])
  | arg :: args =>
    match arg with
    | '-' :: c :: cs =>
      match s.letters (c :: cs) with
      | some s => s.flags args
      | none => (s, arg :: args)
    | _ => (s, arg :: args)

/-- What arguments print on a line. -/
def LineStyle.print (s : LineStyle) (more : Bool) (style : OctalStyle) (args : List Text) :
    Bytes :=
  let line := Text.join [' '] args
  let ending : Bytes := if s.isOpen then [] else [10]
  if s.escapes then
    let (printed, stopped) := unescapeBytes more style line
    if stopped then printed else printed ++ ending
  else Text.Utf8.encode line ++ ending

/-- What arguments print on a line of their own.  In the standard interpreter escapes are resolved,
and only a first `-n` is a flag; elsewhere `octals` says how numbers are written. -/
def printLine (d : Dialect) (octals : OctalStyle) (args : List Text) : Bytes :=
  match d, args with
  | .plain, ['-', 'n'] :: rest =>
    LineStyle.print { isOpen := true, escapes := true } false .both rest
  | .plain, _ => LineStyle.print { isOpen := false, escapes := true } false .both args
  | .bash, _ =>
    let (style, args) := LineStyle.flags { isOpen := false, escapes := false } args
    style.print true octals args

/-! ## Formats -/

/-- A number in a place. -/
inductive Measure where
  /-- It is not given. -/
  | absent
  /-- It is given. -/
  | given (n : Nat)
  /-- It is the next argument. -/
  | argument
  deriving DecidableEq, Repr

/-- A place where an argument goes in. -/
structure Slot where
  /-- The signs in front. -/
  flags : Text
  /-- How wide it is at least. -/
  width : Measure
  /-- How many digits or bytes it takes. -/
  precision : Measure
  /-- What the argument is printed as. -/
  letter : Char
  deriving DecidableEq, Repr

/-- A part of a format. -/
inductive FormatPart where
  /-- Bytes that stand for themselves. -/
  | bytes (b : Bytes)
  /-- The place of an argument. -/
  | slot (p : Slot)
  /-- Something that is no place. -/
  | fault (directive : Text)
  deriving DecidableEq, Repr

/-- The measure at the beginning of a text, and what follows it. -/
def measureIn (t : Text) : Measure × Text :=
  match t with
  | '*' :: rest => (.argument, rest)
  | _ =>
    match Text.numeral? 10 (t.takeWhile Char.isDigit) with
    | some n => (.given n, t.dropWhile Char.isDigit)
    | none => (.absent, t)

/-- The part behind a percent sign, and what follows it. -/
def slotIn (more : Bool) (t : Text) : FormatPart × Text :=
  let isFlag (c : Char) : Bool := "#-+ 0".toList.contains c
  let (width, rest) := measureIn (t.dropWhile isFlag)
  let (precision, rest) :=
    match rest with
    | '.' :: rest =>
      match measureIn rest with
      | (.absent, rest) => (.given 0, rest)
      | found => found
    | _ => (.absent, rest)
  match rest with
  | [] => (.fault [], [])
  | c :: rest =>
    if "diouxXcsb".toList.contains c || more && c = 'q' then
      (.slot { flags := t.takeWhile isFlag, width, precision, letter := c }, rest)
    else
      (.fault ('%' :: t.take (t.length - rest.length)), [])

/-- The parts of a format.  `bound` is at least its length. -/
def formatParts (more : Bool) : (bound : Nat) → Text → List FormatPart
  | 0, _ => []
  | _, [] => []
  | bound + 1, '\\' :: c :: cs =>
    let (bytes, rest) := escapeBytes more .plain c cs
    .bytes bytes :: formatParts more bound rest
  | bound + 1, '%' :: '%' :: cs => .bytes [37] :: formatParts more bound cs
  | bound + 1, '%' :: cs =>
    let (part, rest) := slotIn more cs
    part :: formatParts more bound rest
  | bound + 1, c :: cs => .bytes (Text.Utf8.encode [c]) :: formatParts more bound cs

/-! ## Arguments -/

/-- What is wrong with printing. -/
inductive PrintFault where
  /-- An argument should be a number. -/
  | notNumber (arg : Text)
  /-- An argument is more than a number. -/
  | partly (arg : Text)
  /-- An argument is a number that is too great. -/
  | tooGreat (arg : Text)
  /-- A place in a format means nothing; it may be cut off. -/
  | directive (t : Text)
  deriving DecidableEq, Repr

namespace PrintFault

/-- The fault in the words of an interpreter. -/
def message (d : Dialect) (f : PrintFault) : Text :=
  match d, f with
  | .plain, .notNumber arg => arg ++ ": expected numeric value".toList
  | .plain, .partly arg => arg ++ ": not completely converted".toList
  | .plain, .tooGreat arg => arg ++ ": Numerical result out of range".toList
  | .plain, .directive [] => "missing format character".toList
  | .plain, .directive t => t ++ ": invalid directive".toList
  | .bash, .notNumber arg | .bash, .partly arg =>
    arg ++
      (match arg with
      | '0' :: c :: _ =>
        if c.isDigit then ": invalid octal number"
        else if c = 'x' then ": invalid hex number"
        else ": invalid number"
      | _ => ": invalid number").toList
  | .bash, .tooGreat arg => "warning: ".toList ++ arg ++ ": Numerical result out of range".toList
  | .bash, .directive [] => "\x60%': missing format character".toList
  | .bash, .directive t =>
    '\x60' :: t.drop (t.length - 1) ++ "': invalid format character".toList

/-- The fault in the words of the program that prints. -/
def toolMessage (f : PrintFault) : Text :=
  let quoted (t : Text) : Text := '\'' :: t ++ ['\'']
  match f with
  | .notNumber arg => quoted arg ++ ": expected a numeric value".toList
  | .partly arg => quoted arg ++ ": value not completely converted".toList
  | .tooGreat arg => quoted arg ++ ": Numerical result out of range".toList
  | .directive t => (if t.isEmpty then ['%'] else t) ++ ": invalid conversion specification".toList

end PrintFault

/-- A text as it could be written in a script. -/
def quotedWord (t : Text) : Text :=
  let isPlain (c : Char) : Bool := c.isAlphanum || "_@%+=:,./-".toList.contains c
  if t.isEmpty then ['\'', '\'']
  else if t.any fun c => c == '\n' then
    "$'".toList ++ t.flatMap (fun c =>
      if c = '\n' then ['\\', 'n'] else if c = '\'' then ['\\', '\''] else [c]) ++ ['\'']
  else t.flatMap fun c => if isPlain c || 127 < c.toNat then [c] else ['\\', c]

/-- Bytes with others put in front, or behind if `left`, until there are `width` of them. -/
def padTo (width : Nat) (left : Bool) (filler : UInt8) (b : Bytes) : Bytes :=
  let padding := List.replicate (width - b.length) filler
  if left then b ++ padding else padding ++ b

/-- The number that an argument is, and what is wrong with it. -/
def numberArgument (arg : Text) : Int64 × List PrintFault :=
  let quoted : Option UInt8 :=
    match arg with
    | '\'' :: c :: _ | '"' :: c :: _ => (Text.Utf8.encode [c]).head?
    | _ => none
  match quoted with
  | some b => (wordOfNat b.toNat, [])
  | none =>
    let body := arg.dropWhile isGap
    let (minus, body) :=
      match body with
      | '-' :: rest => (true, rest)
      | '+' :: rest => (false, rest)
      | _ => (false, body)
    match numberIn body with
    | none =>
      (0, if arg.isEmpty then [] else [.notNumber arg])
    | some (n, rest) =>
      let word := if minus then -(wordOfNat n) else wordOfNat n
      if !rest.isEmpty then (word, [.partly arg])
      else if greatestNumber < n then (word, [.tooGreat arg])
      else (word, [])

/-- The digits of a number in a place. -/
def digitsFor (letter : Char) (n : Int64) : Text :=
  let unsigned := n.toUInt64.toNat
  match letter with
  | 'o' => Nat.toDigits 8 unsigned
  | 'x' => Text.ofNatHex unsigned
  | 'X' => (Text.ofNatHex unsigned).map Char.toUpper
  | 'u' => Text.ofNat unsigned
  | _ => Text.ofNat n.toInt.natAbs

/-- What is printed in front of the digits of a number. -/
def signFor (p : Slot) (n : Int64) (digits : Text) : Text :=
  match p.letter with
  | 'd' | 'i' =>
    if n.toInt < 0 then ['-']
    else if p.flags.contains '+' then ['+']
    else if p.flags.contains ' ' then [' ']
    else []
  | 'x' => if p.flags.contains '#' && n != 0 then ['0', 'x'] else []
  | 'X' => if p.flags.contains '#' && n != 0 then ['0', 'X'] else []
  | 'o' => if p.flags.contains '#' && digits.head? != some '0' then ['0'] else []
  | _ => []

/-- A number as it is printed in a place. -/
def printNumber (p : Slot) (width : Nat) (precision : Option Nat) (n : Int64) : Bytes :=
  let digits := digitsFor p.letter n
  let digits := List.replicate (precision.getD 1 - digits.length) '0' ++ digits
  let sign := signFor p n digits
  let left := p.flags.contains '-'
  let zeros :=
    if p.flags.contains '0' && !left && precision.isNone then
      width - sign.length - digits.length
    else 0
  padTo width left 32 (Text.Utf8.encode (sign ++ List.replicate zeros '0' ++ digits))

/-- An argument as it is printed in a place, and what is wrong with it. -/
def printArgument (more : Bool) (p : Slot) (width : Nat) (precision : Option Nat)
    (arg : Text) : Bytes × List PrintFault :=
  let cut (b : Bytes) : Bytes :=
    match precision with
    | some n => b.take n
    | none => b
  let padded (b : Bytes) : Bytes := padTo width (p.flags.contains '-') 32 b
  match p.letter with
  | 's' => (padded (cut (Text.Utf8.encode arg)), [])
  | 'b' => (padded (cut (unescapeBytes more .both arg).1), [])
  | 'q' => (padded (Text.Utf8.encode (quotedWord arg)), [])
  | 'c' => (padded ((Text.Utf8.encode arg ++ [0]).take 1), [])
  | _ =>
    let (n, faults) := numberArgument arg
    (printNumber p width precision n, faults)

/-- The number that a measure is, what is wrong with it, and the arguments that are left. -/
def Measure.read (m : Measure) (args : List Text) :
    Option Nat × List PrintFault × List Text :=
  match m with
  | .absent => (none, [], args)
  | .given n => (some n, [], args)
  | .argument =>
    let (n, faults) := numberArgument (args.headD [])
    (some n.toInt.toNat, faults, args.tail)

/-- A part of what printing came to. -/
inductive PrintedPart where
  /-- Something was printed. -/
  | bytes (b : Bytes)
  /-- Something was wrong with an argument. -/
  | fault (f : PrintFault)
  deriving DecidableEq, Repr

/-- What printing came to. -/
structure Printed where
  /-- What was printed and what was wrong with arguments, in order. -/
  parts : List PrintedPart
  /-- What was wrong with the format, after which nothing is printed. -/
  stopped : Option PrintFault
  deriving DecidableEq, Repr

namespace Printed

/-- What was printed. -/
def bytes (p : Printed) : Bytes :=
  p.parts.flatMap fun part =>
    match part with
    | .bytes b => b
    | .fault _ => []

/-- What was wrong with arguments. -/
def faults (p : Printed) : List PrintFault :=
  p.parts.filterMap fun part =>
    match part with
    | .bytes _ => none
    | .fault f => some f

/-- What printing came to with other parts in front. -/
def behind (p : Printed) (parts : List PrintedPart) : Printed :=
  { p with parts := parts ++ p.parts }

end Printed

/-- Prints the parts of a format once; the answer holds the arguments that are left. -/
def printOnce (more : Bool) : List FormatPart → List Text → Printed × List Text
  | [], args => ({ parts := [], stopped := none }, args)
  | .bytes b :: parts, args =>
    let (printed, args) := printOnce more parts args
    (printed.behind [.bytes b], args)
  | .slot p :: parts, args =>
    let (width, widthFaults, args) := p.width.read args
    let (precision, precisionFaults, args) := p.precision.read args
    let (bytes, faults) := printArgument more p (width.getD 0) precision (args.headD [])
    if p.letter = 'b' && (unescapeBytes more .both (args.headD [])).2 then
      ({ parts := [.bytes bytes], stopped := none }, [])
    else
      let (printed, rest) := printOnce more parts args.tail
      let faults := (widthFaults ++ precisionFaults ++ faults).map PrintedPart.fault
      (printed.behind (faults ++ [.bytes bytes]), rest)
  | .fault t :: _, args => ({ parts := [], stopped := some (.directive t) }, args)

/-- Prints the parts of a format as often as the arguments last; `bound` is at least their
number. -/
def printAll (more : Bool) (parts : List FormatPart) : (bound : Nat) → List Text → Printed
  | 0, _ => { parts := [], stopped := none }
  | bound + 1, args =>
    let (printed, rest) := printOnce more parts args
    if rest.isEmpty || rest.length == args.length || printed.stopped.isSome then printed
    else (printAll more parts bound rest).behind printed.parts

/-- What a format and arguments print.  With `more`, there are more escapes and places. -/
def printFormat (more : Bool) (format : Text) (args : List Text) : Printed :=
  printAll more (formatParts more (format.length + 1) format) (args.length + 1) args

end Hotkeys.Shell
