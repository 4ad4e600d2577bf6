import Hotkeys.Text.CharSet
import Hotkeys.Tools.Copying

/-!
# Lines

The tools that change files line by line: putting lines in order, dropping repeated ones, copying
parts of them, putting them side by side, and replacing their letters.
-/

set_option autoImplicit false

namespace Hotkeys.Tools

open Hotkeys.Host (Bytes)

/-! ## Order -/

/-- How parts of lines are compared. -/
structure KeyStyle where
  /-- As numbers. -/
  numeric : Bool
  /-- Without regard to capitals. -/
  folded : Bool
  /-- Without the blanks in front. -/
  trimmed : Bool
  /-- The greatest one first. -/
  reversed : Bool
  deriving DecidableEq, Repr

/-- A part of lines that they are compared by: from a field and a letter on, to a field and a
letter. -/
structure SortKey where
  /-- The first field, counted from one. -/
  field : Nat
  /-- The first letter in it, counted from one. -/
  letter : Nat
  /-- The last field, if the part does not go to the end. -/
  lastField : Option Nat
  /-- The last letter in it; zero means all of it. -/
  lastLetter : Nat
  /-- How it is compared. -/
  style : KeyStyle
  deriving DecidableEq, Repr

/-- The style that letters say. -/
def KeyStyle.with (s : KeyStyle) (letters : Text) : KeyStyle :=
  { numeric := s.numeric || letters.any fun c => "nghV".toList.contains c
    folded := s.folded || letters.contains 'f'
    trimmed := s.trimmed || letters.contains 'b'
    reversed := s.reversed || letters.contains 'r' }

/-- A field and a letter, with what follows them. -/
def position? (t : Text) : Option (Nat × Nat × Text) :=
  let field := t.takeWhile Char.isDigit
  let rest := t.drop field.length
  match Text.numeral? 10 field, rest with
  | some f, '.' :: more =>
    let letter := more.takeWhile Char.isDigit
    (Text.numeral? 10 letter).map fun l => (f, l, more.drop letter.length)
  | some f, rest => some (f, 0, rest)
  | none, _ => none

/-- The part that a text names.  Its own style counts, if it has one. -/
def SortKey.ofText? (whole : KeyStyle) (t : Text) : Option SortKey :=
  let (first, last) : Text × Option Text :=
    match Text.splitFirst ',' t with
    | some (first, last) => (first, some last)
    | none => (t, none)
  match position? first with
  | none => none
  | some (field, letter, letters) =>
    let own : KeyStyle := { numeric := false, folded := false, trimmed := false, reversed := false }
    match last.map position? with
    | some none => none
    | some (some (lastField, lastLetter, more)) =>
      let letters := letters ++ more
      some { field, letter := max letter 1, lastField := some lastField, lastLetter
             style := if letters.isEmpty then whole else own.with letters }
    | none =>
      some { field, letter := max letter 1, lastField := none, lastLetter := 0
             style := if letters.isEmpty then whole else own.with letters }

/-- The fields of a line.  Without a separator, blanks begin a field and belong to it. -/
def sortFields (separator : Option Char) (line : Text) : List Text :=
  match separator with
  | some c => (Text.splitOn (· == c) line).zipIdx.map fun f => if f.2 = 0 then f.1 else c :: f.1
  | none => go line
where
  /-- The fields of a line that blanks begin. -/
  go : Text → List Text
    | [] => []
    | c :: cs =>
      let isGap (c : Char) : Bool := c == ' ' || c == '\t'
      match go cs, cs with
      | [], _ => [[c]]
      | first :: rest, d :: _ =>
        if isGap d && !isGap c then [c] :: first :: rest else (c :: first) :: rest
      | first :: rest, [] => [c] :: first :: rest

/-- The part of a line that a key names. -/
def SortKey.part (k : SortKey) (separator : Option Char) (line : Text) : Text :=
  let fields := sortFields separator line
  let size (fs : List Text) : Nat := fs.flatten.length
  let lead := if separator.isSome && 1 < k.field then 1 else 0
  let start := size (fields.take (k.field - 1)) + lead + (k.letter - 1)
  let finish :=
    match k.lastField with
    | none => line.length
    | some f =>
      if k.lastLetter = 0 then size (fields.take f)
      else
        size (fields.take (f - 1)) + (if separator.isSome && 1 < f then 1 else 0) + k.lastLetter
  (line.take finish).drop start

/-- The number that a text begins with, in billionths. -/
def leadingNumber (t : Text) : Int :=
  let t := t.dropWhile fun c => c == ' ' || c == '\t'
  let (negative, t) : Bool × Text :=
    match t with
    | '-' :: cs => (true, cs)
    | cs => (false, cs)
  let whole := t.takeWhile Char.isDigit
  let decimals : Text :=
    match t.drop whole.length with
    | '.' :: cs => (cs.takeWhile Char.isDigit).take 9
    | _ => []
  let digits := whole ++ decimals ++ List.replicate (9 - decimals.length) '0'
  let n : Int := Int.ofNat ((Text.numeral? 10 digits).getD 0)
  if negative then -n else n

/-- The order of two texts by their bytes. -/
def compareTexts (a b : Text) : Ordering :=
  compare (Text.Utf8.encode a) (Text.Utf8.encode b)

/-- The order of two parts of lines. -/
def KeyStyle.compare (s : KeyStyle) (a b : Text) : Ordering :=
  let prepare (t : Text) : Text :=
    let t := if s.trimmed then t.dropWhile fun c => c == ' ' || c == '\t' else t
    if s.folded then t.map Char.toUpper else t
  let order :=
    if s.numeric then Ord.compare (leadingNumber a) (leadingNumber b)
    else compareTexts (prepare a) (prepare b)
  if s.reversed then order.swap else order

/-- The order of two lines by keys, the first of which that tells them apart counts. -/
def compareKeys (separator : Option Char) (a b : Text) : List SortKey → Ordering
  | [] => .eq
  | k :: ks =>
    (k.style.compare (k.part separator a) (k.part separator b)).then (compareKeys separator a b ks)

/-- Lines without those that count as the same as the one before. -/
def dropSame (same : Text → Text → Bool) : List Text → List Text
  | [] => []
  | [line] => [line]
  | a :: b :: rest =>
    if same a b then dropSame same (a :: rest) else a :: dropSame same (b :: rest)
termination_by lines => lines.length

/-- Puts lines in order. -/
def sort : Body :=
  withOptions
    { letters := "bdfghiMnRrVcCk:mo:sS:t:uzT:"
      words := [("ignore-leading-blanks", 'b'), ("ignore-case", 'f'), ("numeric-sort", 'n'),
        ("human-numeric-sort", 'h'), ("reverse", 'r'), ("version-sort", 'V'), ("check", 'c'),
        ("key", 'k'), ("merge", 'm'), ("output", 'o'), ("stable", 's'), ("field-separator", 't'),
        ("unique", 'u')]
      stopping := false } 2 fun a w =>
    let own : KeyStyle := { numeric := false, folded := false, trimmed := false, reversed := false }
    let style := own.with (a.choices.map Choice.letter)
    let separator := (a.value? 't').bind List.head?
    let keys := (a.values 'k').map (SortKey.ofText? style)
    let keys := keys.filterMap id
    let (content, w) :=
      (if a.operands.isEmpty then [['-']] else a.operands).foldl (fun (s : Bytes × Work) operand =>
        match s.2.readOperand operand with
        | (.ok content, w) =>
          (s.1 ++ content ++ if endsLine content then [] else [10], w)
        | (.error .isDirectory, w) =>
          (s.1, w.complain 2 ("read failed: ".toList ++ named operand ++ ": Is a directory".toList))
        | (.error e, w) => (s.1, w.refuse 2 ("cannot read: ".toList ++ named operand) e)) ([], w)
    let byKeys (x y : Text) : Ordering :=
      if keys.isEmpty then style.compare x y else compareKeys separator x y keys
    let full (x y : Text) : Ordering :=
      if a.hasOne "su" then byKeys x y
      else
        (byKeys x y).then
          (if style.reversed then (compareTexts x y).swap else compareTexts x y)
    let lines := textLines content
    let sorted := lines.mergeSort fun x y => (full x y).isLE
    let sorted := if a.has 'u' then dropSame (fun x y => byKeys x y == .eq) sorted else sorted
    let shown := Text.Utf8.encode (sorted.flatMap fun line => line ++ ['\n'])
    if w.code != 0 then w
    else if a.hasOne "cC" then
      match (lines.zip (lines.drop 1)).zipIdx.find? fun p => full p.1.1 p.1.2 == .gt with
      | some ((_, line), n) =>
        let place := (a.operands.headD ['-']) ++ ':' :: Text.ofNat (n + 2)
        let said := w.complain 1 (place ++ ": disorder: ".toList ++ line)
        if a.has 'C' then w.withCode 1 else said
      | none => w
    else
      match a.value? 'o' with
      | none => w.put shown
      | some path =>
        match w.writeTo path false shown with
        | .ok w => w
        | .error e => w.refuse 2 ("open failed: ".toList ++ named path) e

/-! ## Repetitions -/

/-- Lines that count as the same, each group with its number. -/
def runsOf (same : Text → Text → Bool) : List Text → List (Nat × Text)
  | [] => []
  | line :: lines =>
    match runsOf same lines with
    | [] => [(1, line)]
    | (n, other) :: rest =>
      if same line other then (n + 1, line) :: rest else (1, line) :: (n, other) :: rest

/-- Drops lines that repeat the one before. -/
def uniq : Body :=
  withOptions
    { letters := "cdDuif:s:w:z"
      words := [("count", 'c'), ("repeated", 'd'), ("unique", 'u'), ("ignore-case", 'i'),
        ("skip-fields", 'f'), ("skip-chars", 's'), ("check-chars", 'w')]
      stopping := false } 1 fun a w =>
    let number (letter : Char) : Option Nat := (a.value? letter).bind (Text.numeral? 10)
    let key (line : Text) : Text :=
      let isGap (c : Char) : Bool := c == ' ' || c == '\t'
      let line := (List.range ((number 'f').getD 0)).foldl
        (fun (t : Text) _ => (t.dropWhile isGap).dropWhile fun c => !isGap c) line
      let line := line.drop ((number 's').getD 0)
      let line := (number 'w').elim line line.take
      if a.has 'i' then line.map Char.toLower else line
    let operand := a.operands.headD ['-']
    match a.operands, w.readOperand operand with
    | _ :: _ :: extra :: _, _ => w.extraOperand 1 extra
    | _, (.error e, w) => w.refuse 1 (named operand) e
    | operands, (.ok content, w) =>
      let runs := runsOf (fun x y => key x == key y) (textLines content)
      let runs := runs.filter fun r => !(a.has 'd' && r.1 == 1) && !(a.has 'u' && r.1 != 1)
      let shown := runs.flatMap fun r =>
        let digits := Text.ofNat r.1
        (if a.has 'c' then List.replicate (7 - digits.length) ' ' ++ digits ++ [' '] else []) ++
          r.2 ++ ['\n']
      match operands with
      | _ :: target :: _ =>
        match w.writeTo target false (Text.Utf8.encode shown) with
        | .ok w => w
        | .error e => w.refuse 1 (named target) e
      | _ => w.print shown

/-! ## Parts of lines -/

/-- The ranges of numbers that a text lists. -/
def ranges? (t : Text) : Option (List (Nat × Option Nat)) :=
  (Text.splitOn (fun c => c == ',' || c == ' ') t).mapM fun part =>
    match Text.splitFirst '-' part with
    | none => (Text.numeral? 10 part).bind fun n => if n = 0 then none else some (n, some n)
    | some ([], []) => none
    | some ([], last) => (Text.numeral? 10 last).map fun n => (1, some n)
    | some (first, []) => (Text.numeral? 10 first).map fun n => (n, none)
    | some (first, last) =>
      match Text.numeral? 10 first, Text.numeral? 10 last with
      | some f, some l => if l < f then none else some (f, some l)
      | _, _ => none

/-- Whether a number is in one of some ranges. -/
def isInRanges (ranges : List (Nat × Option Nat)) (n : Nat) : Bool :=
  ranges.any fun r => r.1 ≤ n && r.2.all (n ≤ ·)

/-- Copies parts of lines. -/
def cut : Body :=
  withOptions
    { letters := "b:c:d:f:nszCO:"
      words := [("bytes", 'b'), ("characters", 'c'), ("delimiter", 'd'), ("fields", 'f'),
        ("only-delimited", 's'), ("complement", 'C'), ("output-delimiter", 'O')]
      stopping := false } 1 fun a w =>
    let lists := a.choices.filter fun o => "bcf".toList.contains o.letter
    match lists with
    | [] => w.misuse 1 "you must specify a list of bytes, characters, or fields".toList
    | _ :: _ :: _ => w.misuse 1 "only one type of list may be specified".toList
    | [list] =>
      let delimiter := (a.value? 'd').getD ['\t']
      if 1 < delimiter.length then w.misuse 1 "the delimiter must be a single character".toList
      else
        match ranges? list.value with
        | none =>
          let what := if list.letter = 'f' then "field" else "byte/character"
          w.misuse 1 ("invalid ".toList ++ what.toList ++ " value ".toList ++ quoted list.value)
        | some ranges =>
          let chosen (n : Nat) : Bool := isInRanges ranges n != a.has 'C'
          let choose {α : Type} (parts : List α) : List α :=
            (parts.zipIdx.filter fun p => chosen (p.2 + 1)).map Prod.fst
          let sign := delimiter.headD '\x00'
          let between := (a.value? 'O').getD delimiter
          overFiles 1 a.operands (fun _ content w =>
            (byteLines content).foldl (fun w line =>
              if list.letter = 'f' then
                let text := Text.Utf8.decodeLossy line
                if !text.contains sign then if a.has 's' then w else w.put (line ++ [10])
                else
                  w.print (Text.join between (choose (Text.splitOn (· == sign) text)) ++ ['\n'])
              else w.put (choose line ++ [10])) w) w

/-- Puts lines of files side by side. -/
def paste : Body :=
  withOptions
    { letters := "d:sz", words := [("delimiters", 'd'), ("serial", 's')], stopping := false }
    1 fun a w =>
    let signs := (a.value? 'd').getD ['\t']
    let sign (n : Nat) : Text := if signs.isEmpty then [] else [signs.getD (n % signs.length) '\t']
    let joined (cells : List Text) : Text :=
      (cells.zipIdx.flatMap fun c => (if c.2 = 0 then [] else sign (c.2 - 1)) ++ c.1) ++ ['\n']
    let operands := if a.operands.isEmpty then [['-']] else a.operands
    let (columns, w) := operands.foldl (fun (s : List (List Text) × Work) operand =>
      match s.2.readOperand operand with
      | (.ok content, w) => (s.1 ++ [textLines content], w)
      | (.error e, w) => (s.1, w.refuse 1 (named operand) e)) ([], w)
    if a.has 's' then columns.foldl (fun w column => w.print (joined column)) w
    else
      let height := (columns.map List.length).foldl max 0
      (List.range height).foldl (fun w n =>
        w.print (joined (columns.map fun column => column.getD n []))) w

/-! ## Letters -/

/-- The bytes that a set of letters lists; `bound` is at least its length. -/
def setBytes : (bound : Nat) → Text → Bytes
  | 0, _ => []
  | _, [] => []
  | bound + 1, t =>
    match t with
    | '[' :: ':' :: rest =>
      let name := rest.takeWhile Char.isAlpha
      match rest.drop name.length with
      | ':' :: ']' :: rest =>
        ((List.range 256).filter fun n => Text.isOfClass name (Char.ofNat n)).map UInt8.ofNat ++
          setBytes bound rest
      | _ => 91 :: setBytes bound (':' :: rest)
    | t =>
      let (first, rest) := letter t
      match rest, first with
      | '-' :: c :: cs, [low] =>
        let (last, rest) := letter (c :: cs)
        match last with
        | [high] =>
          (List.range (high.toNat + 1 - low.toNat)).map (fun n => UInt8.ofNat (low.toNat + n)) ++
            setBytes bound rest
        | _ => first ++ setBytes bound rest
      | rest, first => first ++ setBytes bound rest
where
  /-- The bytes of the first letter, and what follows it. -/
  letter : Text → Bytes × Text
    | '\\' :: c :: cs =>
      match c with
      | 'n' => ([10], cs)
      | 't' => ([9], cs)
      | 'r' => ([13], cs)
      | 'a' => ([7], cs)
      | 'b' => ([8], cs)
      | 'f' => ([12], cs)
      | 'v' => ([11], cs)
      | c =>
        let digits := ((c :: cs).takeWhile fun d => '0' ≤ d && d ≤ '7').take 3
        match Text.numeral? 8 digits with
        | some n => ([UInt8.ofNat n], (c :: cs).drop digits.length)
        | none => (Text.Utf8.encode [c], cs)
    | c :: cs => (Text.Utf8.encode [c], cs)
    | [] => ([], [])

/-- Bytes with only one of those of a set that repeat each other. -/
def squeezeBytes (set : Bytes) : Bytes → Bytes
  | [] => []
  | [b] => [b]
  | a :: b :: rest =>
    if a = b && set.contains a then squeezeBytes set (b :: rest)
    else a :: squeezeBytes set (b :: rest)

/-- Replaces letters. -/
def tr : Body :=
  withOptions
    { letters := "cCdst"
      words := [("complement", 'c'), ("delete", 'd'), ("squeeze-repeats", 's'),
        ("truncate-set1", 't')]
      stopping := true } 1 fun a w =>
    let bytes (t : Text) : Bytes := setBytes (t.length + 1) t
    let whole (t : Text) : Bytes :=
      let set := bytes t
      if a.hasOne "cC" then
        ((List.range 256).map UInt8.ofNat).filter fun b => !set.contains b
      else set
    let content := w.rest
    let read := { w with rest := [] }
    match a.operands, a.has 'd', a.has 's' with
    | [], _, _ => w.lackOperand 1
    | [first], true, false =>
      let set := whole first
      read.put (content.filter fun b => !set.contains b)
    | [first], false, true => read.put (squeezeBytes (whole first) content)
    | [first], _, _ =>
      let about := "missing operand after ".toList ++ quoted first
      let why :=
        if a.has 'd' then "Two strings must be given when both deleting and squeezing repeats."
        else "Two strings must be given when translating."
      ((w.complain 1 about).say (why.toList ++ ['\n'])).say
        ("Try '".toList ++ w.name ++ " --help' for more information.\n".toList)
    | [first, second], deleting, squeezing =>
      let wanted := whole first
      if deleting && !squeezing then
        ((w.complain 1 ("extra operand ".toList ++ quoted second)).say
          "Only one string may be given when deleting without squeezing repeats.\n".toList).say
          ("Try '".toList ++ w.name ++ " --help' for more information.\n".toList)
      else if deleting then
        read.put (squeezeBytes (bytes second) (content.filter fun b => !wanted.contains b))
      else
        let given := bytes second
        if given.isEmpty then
          w.complain 1 "when not truncating set1, string2 must be non-empty".toList
        else
          let last := given.getLastD 0
          let moved := content.map fun b =>
            match wanted.reverse.idxOf? b with
            | some n =>
              let index := wanted.length - 1 - n
              if a.has 't' && given.length ≤ index then b else given.getD index last
            | none => b
          read.put (if squeezing then squeezeBytes given moved else moved)
    | _ :: _ :: extra :: _, _, _ => w.extraOperand 1 extra

end Hotkeys.Tools
