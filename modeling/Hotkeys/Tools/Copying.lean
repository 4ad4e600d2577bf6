import Hotkeys.Tools.Work

/-!
# Copying

The tools that copy files to their output: all of them, their beginning or their end, with numbers
or backwards, and the ones that count them or copy to several places.
-/

set_option autoImplicit false

namespace Hotkeys.Tools

open Hotkeys.Host (Bytes Files SystemError)

/-! ## Sizes -/

/-- The factor that a suffix of a number stands for. -/
def factorOf? (suffix : Text) : Option Nat :=
  match String.ofList suffix with
  | "" => some 1
  | "b" => some 512
  | "kB" | "KB" => some 1000
  | "k" | "K" | "KiB" => some 1024
  | "MB" => some 1000000
  | "M" | "MiB" => some 1048576
  | "GB" => some 1000000000
  | "G" | "GiB" => some 1073741824
  | _ => none

/-- The size that a text is, with a suffix or without. -/
def size? (t : Text) : Option Nat :=
  let digits := t.takeWhile Char.isDigit
  match Text.numeral? 10 digits, factorOf? (t.drop digits.length) with
  | some n, some factor => some (n * factor)
  | _, _ => none

/-! ## Whole files -/

/-- A byte with those that cannot be shown written with signs. -/
def visible (b : UInt8) : Bytes :=
  let low (b : UInt8) : Bytes :=
    if b < 32 then [94, b + 64] else if b = 127 then [94, 63] else [b]
  if b = 10 || b = 9 then [b]
  else if b < 128 then low b
  else [77, 45] ++ low (b - 128)

/-- A number in front of a line, filled up to a width. -/
def lineNumber (width n : Nat) : Bytes :=
  let digits := Text.ofNat n
  Text.Utf8.encode (List.replicate (width - digits.length) ' ' ++ digits)

/-- A line as it is copied, given the number of the next line. -/
def catLine (a : Arguments) (n : Nat) (line : Bytes) : Bytes × Nat :=
  let isBlank := line = [10]
  let numbered := a.has 'b' && !isBlank || a.has 'n' && !a.has 'b'
  let shown := if a.hasOne "vAet" then line.flatMap visible else line
  let replacing (flags : String) (byte : UInt8) (sign : Bytes) (shown : Bytes) : Bytes :=
    if a.hasOne flags then shown.flatMap fun b => if b = byte then sign else [b] else shown
  let shown := replacing "EAe" 10 [36, 10] (replacing "TAt" 9 [94, 73] shown)
  (if numbered then lineNumber 6 n ++ [9] ++ shown else shown, if numbered then n + 1 else n)

/-- Lines without those that are blank behind another blank one. -/
def squeeze : (blank : Bool) → List Bytes → List Bytes
  | _, [] => []
  | blank, line :: lines =>
    if blank && line = [10] then squeeze true lines
    else line :: squeeze (line = [10]) lines

/-- The lines of bytes, each with its end. -/
def wholeLines : Bytes → List Bytes
  | [] => []
  | b :: bs =>
    if b = 10 then [10] :: wholeLines bs
    else
      match wholeLines bs with
      | [] => [[b]]
      | line :: lines => (b :: line) :: lines

/-- Copies files. -/
def cat : Body :=
  withOptions
    { letters := "AbeEnstTuv"
      words := [("show-all", 'A'), ("number-nonblank", 'b'), ("show-ends", 'E'), ("number", 'n'),
        ("squeeze-blank", 's'), ("show-tabs", 'T'), ("show-nonprinting", 'v')]
      stopping := false } 1 fun a w =>
    if a.choices.isEmpty then overFiles 1 a.operands (fun _ content w => w.put content) w
    else
      let (content, w) := contents 1 a.operands w
      let lines := wholeLines content
      let lines := if a.has 's' then squeeze false lines else lines
      (lines.foldl (fun (s : Work × Nat) line =>
        let (shown, n) := catLine a s.2 line
        (s.1.put shown, n)) (w, 1)).1

/-- Copies files, the last line first. -/
def tac : Body :=
  withOptions { letters := "", words := [], stopping := false } 1 fun a w =>
    (if a.operands.isEmpty then [['-']] else a.operands).foldl (fun w operand =>
      match w.readOperand operand with
      | (.ok content, w) => w.put (wholeLines content).reverse.flatten
      | (.error .isDirectory, w) =>
        w.complain 1 (named operand ++ ": read error: Is a directory".toList)
      | (.error e, w) =>
        w.refuse 1 ("failed to open ".toList ++ quoted operand ++ " for reading".toList) e) w

/-- Writes to the file at a path, which may be a stream of the tool itself. -/
def Work.writeTo (w : Work) (path : Text) (adding : Bool) (bytes : Bytes) :
    Except SystemError Work :=
  match w.files.streamAt? path with
  | some 1 => .ok (w.put bytes)
  | some 2 => .ok { w with written := (.errors, bytes) :: w.written }
  | _ => do
    let files ← w.files.update path fun old => if adding then old ++ bytes else bytes
    return { w with files }

/-- Copies what can be read to the output and to files. -/
def tee : Body :=
  withOptions
    { letters := "aip?", words := [("append", 'a'), ("ignore-interrupts", 'i')], stopping := false }
    1 fun a w =>
    let content := w.rest
    let w := { w with rest := [] }.put content
    a.operands.foldl (fun w operand =>
      match w.writeTo operand (a.has 'a') content with
      | .ok w => w
      | .error e => w.refuse 1 (named operand) e) w

/-! ## Parts of files -/

/-- The beginning of bytes, counted in lines or bytes; all but that much of the end, if `but`. -/
def beginning (inBytes but : Bool) (n : Nat) (content : Bytes) : Bytes :=
  if inBytes then content.take (if but then content.length - n else n)
  else
    let lines := wholeLines content
    (lines.take (if but then lines.length - n else n)).flatten

/-- The end of bytes, counted in lines or bytes; from a position on, if `fromStart`. -/
def ending (inBytes fromStart : Bool) (n : Nat) (content : Bytes) : Bytes :=
  if inBytes then content.drop (if fromStart then n - 1 else content.length - n)
  else
    let lines := wholeLines content
    (lines.drop (if fromStart then n - 1 else lines.length - n)).flatten

/-- Arguments with a number behind a dash in the place of the option that it stands for. -/
def withCount (args : List Text) : List Text :=
  match args with
  | ('-' :: c :: cs) :: rest =>
    let digits := (c :: cs).takeWhile Char.isDigit
    if digits.isEmpty then args
    else if digits.length = cs.length + 1 then ['-', 'n'] :: digits :: rest
    else args
  | _ => args

/-- Copies a part of every file, with the names of files in front if there are several. -/
def copyParts (a : Arguments) (part : Bytes → Bytes) (w : Work) : Work :=
  let operands := if a.operands.isEmpty then [['-']] else a.operands
  let headed := a.has 'v' || 1 < operands.length && !a.has 'q'
  (operands.foldl (fun (s : Work × Bool) operand =>
    let (w, first) := s
    let shown := if operand = ['-'] then "standard input".toList else operand
    let heading :=
      if headed then
        (if first then [] else ['\n']) ++ "==> ".toList ++ shown ++ " <==\n".toList
      else []
    match w.readOperand operand with
    | (.ok content, w) => ((w.print heading).put (part content), false)
    | (.error .isDirectory, w) =>
      ((w.print heading).complain 1
        ("error reading ".toList ++ quoted operand ++ ": Is a directory".toList), false)
    | (.error e, w) =>
      (w.refuse 1 ("cannot open ".toList ++ quoted operand ++ " for reading".toList) e, first))
    (w, true)).1

/-- The options of the tools that copy parts of files. -/
def partOptions : Options :=
  { letters := "n:c:qvfFs:z"
    words := [("lines", 'n'), ("bytes", 'c'), ("quiet", 'q'), ("silent", 'q'), ("verbose", 'v'),
      ("follow", 'f'), ("sleep-interval", 's'), ("zero-terminated", 'z')]
    stopping := false }

/-- Goes on with the number that tells how much is copied, and whether that is in bytes. -/
def withAmount (a : Arguments) (work : Bool → Char → Nat → Work → Work) (w : Work) : Work :=
  match (a.choices.filter fun o => o.letter == 'n' || o.letter == 'c').getLast? with
  | none => work false ' ' 10 w
  | some o =>
    let inBytes := o.letter == 'c'
    let (sign, digits) : Char × Text :=
      match o.value with
      | '-' :: t => ('-', t)
      | '+' :: t => ('+', t)
      | t => (' ', t)
    match size? digits with
    | some n => work inBytes sign n w
    | none =>
      w.complain 1 ("invalid number of ".toList ++ (if inBytes then "bytes" else "lines").toList ++
        ": ".toList ++ quoted o.value)

/-- Copies the beginning of files. -/
def head : Body := fun args =>
  withOptions partOptions 1 (fun a =>
    withAmount a fun inBytes sign n => copyParts a (beginning inBytes (sign == '-') n))
    (withCount args)

/-- Copies the end of files. -/
def tail : Body := fun args =>
  let args :=
    match args with
    | ('+' :: c :: cs) :: rest => if c.isDigit then ['-', 'n'] :: ('+' :: c :: cs) :: rest else args
    | _ => withCount args
  withOptions partOptions 1 (fun a =>
    withAmount a fun inBytes sign n => copyParts a (ending inBytes (sign == '+') n)) args

/-! ## Changed lines -/

/-- Copies lines, each backwards. -/
def rev : Body :=
  withOptions { letters := "", words := [], stopping := false } 1 fun a w =>
    (if a.operands.isEmpty then [['-']] else a.operands).foldl (fun w operand =>
      match w.readOperand operand with
      | (.ok content, w) =>
        w.print ((Text.terminatedLines (Text.Utf8.decodeLossy content)).flatMap fun line =>
          (Text.chomp line).reverse ++ if line.getLast? = some '\n' then ['\n'] else [])
      | (.error e, w) => w.refuse 1 ("cannot open ".toList ++ operand) e) w

/-- Copies lines with numbers in front of them. -/
def nl : Body :=
  withOptions
    { letters := "b:w:s:v:i:n:"
      words := [("body-numbering", 'b'), ("number-width", 'w'), ("number-separator", 's'),
        ("starting-line-number", 'v'), ("line-increment", 'i'), ("number-format", 'n')]
      stopping := false } 1 fun a w =>
    let number (letter : Char) (standard : Nat) : Nat :=
      ((a.value? letter).bind (Text.numeral? 10)).getD standard
    let width := number 'w' 6
    let separator := Text.Utf8.encode ((a.value? 's').getD ['\t'])
    let style := (a.value? 'b').getD ['t']
    let (content, w) := contents 1 a.operands w
    ((byteLines content).foldl (fun (s : Work × Nat) line =>
      if style = ['a'] || style = ['t'] && !line.isEmpty then
        (s.1.put (lineNumber width s.2 ++ separator ++ line ++ [10]), s.2 + number 'i' 1)
      else
        (s.1.put (List.replicate (width + separator.length) 32 ++ line ++ [10]), s.2))
      (w, number 'v' 1)).1

/-! ## Counting -/

/-- What a file amounts to: its lines, its words, its letters, its bytes and its longest line. -/
structure Amounts where
  /-- Its lines. -/
  lines : Nat
  /-- Its words. -/
  words : Nat
  /-- Its letters. -/
  letters : Nat
  /-- Its bytes. -/
  bytes : Nat
  /-- The length of its longest line. -/
  longest : Nat
  deriving DecidableEq, Repr

namespace Amounts

/-- What bytes amount to. -/
def ofBytes (content : Bytes) : Amounts :=
  let text := Text.Utf8.letters content
  let isGap (c : Char) : Bool := " \t\n\r\x0b\x0c".toList.contains c
  { lines := (content.filter (· == 10)).length
    words := ((Text.splitOn isGap text).filter fun t => !t.isEmpty).length
    letters := text.length
    bytes := content.length
    longest := ((Text.splitOn (· == '\n') text).map List.length).foldl max 0 }

/-- What two files amount to together. -/
def add (a b : Amounts) : Amounts :=
  { lines := a.lines + b.lines
    words := a.words + b.words
    letters := a.letters + b.letters
    bytes := a.bytes + b.bytes
    longest := max a.longest b.longest }

/-- The amounts that are asked for, in order. -/
def asked (a : Arguments) (n : Amounts) : List Nat :=
  let all := !a.hasOne "lwcmL"
  (if all || a.has 'l' then [n.lines] else []) ++ (if all || a.has 'w' then [n.words] else []) ++
    (if a.has 'm' then [n.letters] else []) ++ (if all || a.has 'c' then [n.bytes] else []) ++
    (if a.has 'L' then [n.longest] else [])

end Amounts

/-- Counts files. -/
def wc : Body :=
  withOptions
    { letters := "clmwL"
      words := [("bytes", 'c'), ("chars", 'm'), ("lines", 'l'), ("words", 'w'),
        ("max-line-length", 'L')]
      stopping := false } 1 fun a w =>
    let operands := if a.operands.isEmpty then [['-']] else a.operands
    let (counted, w) := operands.foldl (fun (s : List (Amounts × Text) × Work) operand =>
      match s.2.readOperand operand with
      | (.ok content, w) => (s.1 ++ [(Amounts.ofBytes content, operand)], w)
      | (.error e, w) =>
        let w := w.refuse 1 (named operand) e
        if e = .isDirectory then (s.1 ++ [(Amounts.ofBytes [], operand)], w) else (s.1, w)) ([], w)
    let total := (counted.map Prod.fst).foldl Amounts.add (Amounts.ofBytes [])
    let columns := (total.asked a).length
    let width :=
      if columns ≤ 1 && operands.length ≤ 1 then 1
      else if operands.contains ['-'] then 7
      else (Text.ofNat total.bytes).length
    let row (n : Amounts) (name : Text) : Text :=
      let cells := (n.asked a).map fun n =>
        let digits := Text.ofNat n
        List.replicate (width - digits.length) ' ' ++ digits
      Text.join [' '] cells ++ name ++ ['\n']
    let w := counted.foldl (fun w c =>
      w.print (row c.1 (if a.operands.isEmpty then [] else ' ' :: c.2))) w
    if operands.length ≤ 1 then w else w.print (row total " total".toList)

end Hotkeys.Tools
