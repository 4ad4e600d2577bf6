import Hotkeys.Text.Basic

/-!
# UTF-8

The bytes of a text and back.  Decoding runs a machine over the bytes, one at a time; the machine
notices a malformed run at the first byte that rules it out, so that each maximal malformed run
counts once.
-/

set_option autoImplicit false

namespace Hotkeys.Text.Utf8

/-! ## Encoding -/

/-- The bytes of a text. -/
def encode (t : Text) : List UInt8 :=
  t.flatMap String.utf8EncodeChar

/-- The number of bytes of a text. -/
def size (t : Text) : Nat :=
  (encode t).length

/-- Texts in the order of their bytes. -/
def ordered (texts : List Text) : List Text :=
  texts.mergeSort fun a b => (compare (encode a) (encode b)).isLE

/-! ## Decoding -/

/-- A character of which the first bytes have been read. -/
structure Unfinished where
  /-- Bytes that are owed after the next one. -/
  more : Nat
  /-- Least value that the next byte may have. -/
  low : UInt8
  /-- Greatest value that the next byte may have. -/
  high : UInt8
  /-- The bits read so far. -/
  bits : Nat
  deriving DecidableEq, Repr

/-- What the machine has found after a byte: characters, with `none` for a malformed run, and the
character that is still open. -/
abbrev Found := List (Option Char) × Option Unfinished

/-- A byte read between characters. -/
def first (b : UInt8) : Found :=
  if b < 0x80 then ([some (Char.ofNat b.toNat)], none)
  else if b < 0xc2 then ([none], none)
  else if b < 0xe0 then ([], some ⟨0, 0x80, 0xbf, b.toNat - 0xc0⟩)
  else if b = 0xe0 then ([], some ⟨1, 0xa0, 0xbf, 0⟩)
  else if b = 0xed then ([], some ⟨1, 0x80, 0x9f, 0xd⟩)
  else if b < 0xf0 then ([], some ⟨1, 0x80, 0xbf, b.toNat - 0xe0⟩)
  else if b = 0xf0 then ([], some ⟨2, 0x90, 0xbf, 0⟩)
  else if b < 0xf4 then ([], some ⟨2, 0x80, 0xbf, b.toNat - 0xf0⟩)
  else if b = 0xf4 then ([], some ⟨2, 0x80, 0x8f, 4⟩)
  else ([none], none)

/-- A byte read in any state.  A byte that cannot continue the open character ends a malformed run
and is read again as a first byte. -/
def step : Option Unfinished → UInt8 → Found
  | none, b => first b
  | some u, b =>
    if u.low ≤ b ∧ b ≤ u.high then
      let bits := u.bits * 64 + (b.toNat - 0x80)
      match u.more with
      | 0 => ([some (Char.ofNat bits)], none)
      | more + 1 => ([], some ⟨more, 0x80, 0xbf, bits⟩)
    else (none :: (first b).1, (first b).2)

/-- The characters that the machine finds from a state on; an open character at the end is a
malformed run. -/
def found : Option Unfinished → List UInt8 → List (Option Char)
  | none, [] => []
  | some _, [] => [none]
  | u, b :: bs => (step u b).1 ++ found (step u b).2 bs

/-- The text whose bytes these are, or `none` if they are malformed. -/
def decode? (bytes : List UInt8) : Option Text :=
  (found none bytes).mapM id

/-- The text of the bytes with U+FFFD in place of each malformed run. -/
def decodeLossy (bytes : List UInt8) : Text :=
  (found none bytes).map fun c => c.getD '\uFFFD'

/-! ## Bytes as letters -/

/-- Bytes as letters, one for each. -/
def letters (bytes : List UInt8) : Text :=
  bytes.map fun b => Char.ofNat b.toNat

/-- The bytes that letters stand for. -/
def bytes (letters : Text) : List UInt8 :=
  letters.map fun c => UInt8.ofNat c.toNat

/-- A text with each byte of it as a letter. -/
def spread (t : Text) : Text :=
  letters (encode t)

/-- The text whose bytes letters stand for. -/
def gather (letters : Text) : Text :=
  decodeLossy (bytes letters)

end Hotkeys.Text.Utf8
