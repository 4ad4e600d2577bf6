import Hotkeys.Shell.Builtin.Names

/-!
# Reading lines

The builtin commands that read what is left of a stream into names.
-/

set_option autoImplicit false

namespace Hotkeys.Shell

open Hotkeys.Host (Bytes)

/-! ## Lines -/

/-- The bytes of a line and those behind it, and whether the line has an end.  A backslash hides
what follows it, unless the line is `raw`. -/
def takeLine (raw : Bool) (ending : UInt8) : (escaped : Bool) → Bytes → Bytes × Bool × Bytes
  | _, [] => ([], false, [])
  | escaped, b :: bs =>
    if b = ending && !escaped then ([], true, bs)
    else
      let (line, ends, rest) := takeLine raw ending (b = 92 && !escaped && !raw) bs
      (b :: line, ends, rest)

/-- The letters of a line, and for each whether a backslash hid it. -/
def lineLetters (raw : Bool) : Text → List (Bool × Char)
  | [] => []
  | '\\' :: c :: cs =>
    if raw then (false, '\\') :: lineLetters raw (c :: cs)
    else if c = '\n' then lineLetters raw cs
    else (true, c) :: lineLetters raw cs
  | c :: cs => if raw || c != '\\' then (false, c) :: lineLetters raw cs else lineLetters raw cs

/-- Shares letters among names, field by field; the last name takes all that is left. -/
def shareLetters (separators : Text) : (names : List Text) → List (Bool × Char) → State → State
  | [], _, st => st
  | name :: names, letters, st =>
    let isSeparator (l : Bool × Char) : Bool := !l.1 && separators.contains l.2
    let isBlank (l : Bool × Char) : Bool := isSeparator l && isGap l.2
    let letters := letters.dropWhile isBlank
    if names.isEmpty then
      st.set name ((letters.reverse.dropWhile isBlank).reverse.map Prod.snd)
    else
      let rest := (letters.dropWhile fun l => !isSeparator l).dropWhile isBlank
      let rest :=
        match rest with
        | l :: more => if isSeparator l then more else rest
        | [] => []
      shareLetters separators names rest
        (st.set name ((letters.takeWhile fun l => !isSeparator l).map Prod.snd))

/-- The words that separators leave of letters. -/
def wordsOfLetters (separators : Text) (letters : List (Bool × Char)) : List Text :=
  let segments := letters.map fun l => Segment.text l.1 (!l.1) [l.2]
  (fieldsOf separators segments).map fun f => f.map Prod.snd

/-! ## How to read -/

/-- How a line is read. -/
structure ReadStyle where
  /-- Whether backslashes stand for themselves. -/
  raw : Bool
  /-- What is shown before. -/
  prompt : Text
  /-- The byte at the end of the line. -/
  ending : UInt8
  /-- How many characters are read at most. -/
  most : Option Nat
  /-- The stream. -/
  stream : Nat
  /-- The name of a list that takes all words. -/
  list : Option Text
  deriving DecidableEq, Repr

/-- Reads flags; the answer holds the arguments behind them, or a letter that is none. -/
def ReadStyle.ofArgs (d : Dialect) : (bound : Nat) → ReadStyle → List Text →
    Except Char (ReadStyle × List Text)
  | 0, s, args => .ok (s, args)
  | bound + 1, s, args =>
    match args with
    | ['-', '-'] :: rest => .ok (s, rest)
    | ('-' :: c :: cs) :: rest =>
      let more : List Text := if cs.isEmpty then rest else ('-' :: cs) :: rest
      let (value, behind) : Text × List Text :=
        if cs.isEmpty then (rest.headD [], rest.drop 1) else (cs, rest)
      match d.isBash, c with
      | _, 'r' => ofArgs d bound { s with raw := true } more
      | _, 'p' => ofArgs d bound { s with prompt := value } behind
      | true, 'e' | true, 's' => ofArgs d bound s more
      | true, 'a' => ofArgs d bound { s with list := some value } behind
      | true, 'd' =>
        ofArgs d bound { s with ending := (Text.Utf8.encode value).headD 0 } behind
      | true, 'n' | true, 'N' => ofArgs d bound { s with most := Text.numeral? 10 value } behind
      | true, 'u' => ofArgs d bound { s with stream := (Text.numeral? 10 value).getD 0 } behind
      | true, 'i' | true, 't' => ofArgs d bound s behind
      | _, _ => .error c
    | args => .ok (s, args)

/-! ## Commands -/

/-- Reads a line into names. -/
def runRead : Builtin := fun line args st => do
  let style : ReadStyle :=
    { raw := false, prompt := [], ending := 10, most := none, stream := 0, list := none }
  match ReadStyle.ofArgs st.dialect (args.flatten.length + args.length + 1) style args with
  | .error c => refuseFlag "read" line c st
  | .ok (style, names) =>
    let single := names.isEmpty && st.dialect.isBash
    let names := if single then ["REPLY".toList] else names
    if names.isEmpty then .error "arg count".toList
    else
      match names.find? fun name => !isName name with
      | some name => st.refuseName line name name
      | none =>
        let left := st.left style.stream
        let (bytes, ends, rest) : Bytes × Bool × Bytes :=
          match style.most with
          | some n => (left.take n, decide (n ≤ left.length), left.drop n)
          | none => takeLine style.raw style.ending false left
        let letters := lineLetters style.raw (Text.Utf8.decodeLossy bytes)
        let st := st.readUpTo style.stream rest
        let status := if ends then 0 else 1
        match style.list, names.find? st.fixed.contains with
        | some list, _ =>
          .ok ((st.setList list (wordsOfLetters st.separators letters)).withStatus status)
        | none, some name => st.refuseChange line name
        | none, none =>
          let separators := if single then [] else st.separators
          .ok ((shareLetters separators names letters st).withStatus status)

/-- Reads all lines into a list. -/
def runMapfile : Builtin := fun _ args st =>
  let (letters, names) := takeFlags args
  let lines := Text.terminatedLines (Text.Utf8.decodeLossy st.input)
  let lines := if letters.contains 't' then lines.map Text.chomp else lines
  .ok (((st.readUpTo 0 []).setList (names.headD "MAPFILE".toList) lines).withStatus 0)

end Hotkeys.Shell
