import Hotkeys.Shell.Word

/-!
# Lists in braces

In the dialect with more to offer, a word with a list in braces stands for several words: one for
each member of the list, with the same text around it.
-/

set_option autoImplicit false

namespace Hotkeys.Shell

/-- A letter of a word that is not quoted, or another piece of it. -/
inductive Atom where
  /-- A letter. -/
  | letter (c : Char)
  /-- A piece. -/
  | piece (p : Piece)
  deriving DecidableEq, Repr

namespace Atom

/-- The atoms of a word. -/
def ofWord (w : Word) : List Atom :=
  w.flatMap fun p =>
    match p with
    | .literal false t => t.map .letter
    | p => [.piece p]

/-- The word of atoms. -/
def toWord : List Atom → Word
  | [] => []
  | .piece p :: rest => p :: toWord rest
  | .letter c :: rest =>
    match toWord rest with
    | .literal false t :: more => .literal false (c :: t) :: more
    | more => .literal false [c] :: more

/-- The text of atoms that are letters. -/
def text? (atoms : List Atom) : Option Text :=
  atoms.mapM fun a =>
    match a with
    | .letter c => some c
    | .piece _ => none

end Atom

/-- The members between commas up to the brace that closes the list, and what follows it.  The
member in the making is kept backwards. -/
def braceMembers (depth : Nat) (member : List Atom) :
    List Atom → Option (List (List Atom) × List Atom)
  | [] => none
  | a :: rest =>
    if a = .letter '{' then braceMembers (depth + 1) (a :: member) rest
    else if a = .letter '}' then
      match depth with
      | 0 => some ([member.reverse], rest)
      | depth + 1 => braceMembers depth (a :: member) rest
    else if a = .letter ',' && depth = 0 then
      (braceMembers 0 [] rest).map fun r => (member.reverse :: r.1, r.2)
    else braceMembers depth (a :: member) rest

/-- The whole number that a text is. -/
def braceNumber? (t : Text) : Option Int :=
  match t with
  | '-' :: digits => (Text.numeral? 10 digits).map fun n => -(Int.ofNat n)
  | _ => (Text.numeral? 10 t).map Int.ofNat

/-- A number in at least so many digits. -/
def paddedNumber (width : Nat) (n : Int) : Text :=
  let digits := Text.ofNat n.natAbs
  let sign : Text := if n < 0 then ['-'] else []
  sign ++ List.replicate (width - sign.length - digits.length) '0' ++ digits

/-- The texts from one to another, if a text in braces tells that. -/
def braceRange? (t : Text) : Option (List Text) :=
  let between (first last : Text) (stride : Int) : Option (List Text) :=
    let stride : Nat := if stride = 0 then 1 else stride.natAbs
    match braceNumber? first, braceNumber? last, first, last with
    | some a, some b, _, _ =>
      let isPadded (t : Text) : Bool :=
        let digits := if Text.beginsWith t ['-'] then t.drop 1 else t
        decide (1 < digits.length) && Text.beginsWith digits ['0']
      let width := if isPadded first || isPadded last then max first.length last.length else 0
      let count := (b - a).natAbs / stride + 1
      some ((List.range count).map fun (i : Nat) =>
        paddedNumber width (if a ≤ b then a + (i * stride : Nat) else a - (i * stride : Nat)))
    | none, none, [a], [b] =>
      if a.isAlpha && b.isAlpha then
        let (m, n) := (a.toNat, b.toNat)
        let count := (Int.ofNat n - Int.ofNat m).natAbs / stride + 1
        some ((List.range count).map fun i =>
          [Char.ofNat (if m ≤ n then m + i * stride else m - i * stride)])
      else none
    | _, _, _, _ => none
  match Text.splitOn (· == '.') t with
  | [first, [], last] => between first last 1
  | [first, [], last, [], stride] => (braceNumber? stride).bind (between first last)
  | _ => none

/-- The words that atoms stand for; `bound` is at least their number. -/
def braceWords : (bound : Nat) → List Atom → List (List Atom)
  | 0, atoms => [atoms]
  | _, [] => [[]]
  | bound + 1, a :: rest =>
    let plain := (braceWords bound rest).map (a :: ·)
    if a = .letter '{' then
      match braceMembers 0 [] rest with
      | some ([only], behind) =>
        match (Atom.text? only).bind braceRange? with
        | some texts =>
          let endings := braceWords bound behind
          texts.flatMap fun t => endings.map (t.map Atom.letter ++ ·)
        | none => plain
      | some (members, behind) =>
        let endings := braceWords bound behind
        (members.flatMap (braceWords bound)).flatMap fun m => endings.map (m ++ ·)
      | none => plain
    else plain

/-- The words that a word with lists in braces stands for. -/
def Word.unbraced (w : Word) : List Word :=
  let atoms := Atom.ofWord w
  if atoms.contains (.letter '{') then
    (braceWords (atoms.length + 1) atoms).map Atom.toWord
  else [w]

end Hotkeys.Shell
