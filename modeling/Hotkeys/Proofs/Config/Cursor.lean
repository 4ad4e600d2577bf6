import Hotkeys.Config.Scan
import Hotkeys.Proofs.Loops
import Hotkeys.Proofs.Text.Slices

/-!
# Lexing by a cursor

A second way to cut a configuration into tokens: a cursor moves over the bytes of the text and
tokens are sliced out of the text by the places that it was at.  Everything that could go wrong on
the way is checked.  A computation has no value (`none`) if it takes a slice that is out of range or
cuts a character, if it puts the cursor before the start of the token or behind the end of the text,
if it subtracts below zero, or if one of its loops does not end.
-/

set_option autoImplicit false

namespace Hotkeys

open Text.Utf8 (encode size)

namespace Config

/-- What the cursor is about to read. -/
inductive Stage where
  /-- An interpreter line, if there is one. -/
  | shebang
  /-- The lines before the first keybinding. -/
  | globals
  /-- A keybinding line. -/
  | keybinding
  /-- The command body below a keybinding line. -/
  | action
  deriving DecidableEq, Repr

/-- The state between two moves. -/
structure Cursor where
  /-- Where the unfinished token begins. -/
  start : Nat
  /-- Where the next byte is. -/
  pos : Nat
  /-- The line that the unfinished token begins on. -/
  line : Nat
  /-- What comes next, if anything. -/
  stage : Option Stage
  deriving DecidableEq, Repr

/-- A brace fault and the place of the brace to blame. -/
abbrev FaultAt := BraceFault × Nat

namespace Cursor

variable (source : Text)

/-- The cursor before the first byte. -/
def initial : Cursor :=
  { start := 0, pos := 0, line := 1, stage := some .shebang }

/-! ## Moves -/

/-- The cursor at another place, which has to be within the text and not before the start of the
token. -/
def moveTo? (c : Cursor) (pos : Nat) : Option Cursor :=
  if c.start ≤ pos ∧ pos ≤ size source then some { c with pos } else none

/-- The byte at a distance ahead. -/
def byteAt (c : Cursor) (offset : Nat) : Option UInt8 :=
  (encode source)[c.pos + offset]?

/-- Takes the next byte, if there is one. -/
def next? (c : Cursor) : Option (Option UInt8 × Cursor) :=
  match c.byteAt source 0 with
  | none => some (none, c)
  | some b => (c.moveTo? source (c.pos + 1)).map fun c => (some b, c)

/-- The byte behind the cursor. -/
def previous (c : Cursor) : Option UInt8 := do
  (encode source)[← minus? c.pos 1]?

/-- Goes behind the next newline, or to the end. -/
def skipLine? (c : Cursor) : Option Cursor := do
  let ahead ← Text.slice? source c.pos (size source)
  match Text.placeOf? '\n' ahead with
  | some n => c.moveTo? source (c.pos + (n + 1))
  | none => c.moveTo? source (size source)

/-- Whether the cursor is at a `#` that opens a keybinding line. -/
def atKeybinding (c : Cursor) : Bool :=
  (c.pos == 0 || c.previous source == some Byte.newline) &&
    match c.byteAt source 0 with
    | none => false
    | some b => opensKeybinding b (c.byteAt source 1)

/-! ## Tokens and faults -/

/-- Cuts off the token between the start and the cursor. -/
def emit? (c : Cursor) (kind : TokenKind) : Option (Token × Cursor) := do
  let text ← Text.slice? source c.start c.pos
  let token : Token := { kind, text, line := c.line }
  return (token, { c with line := c.line + text.count '\n', start := c.pos })

/-- Ends with a fault.  Its line and column are told from the text before it. -/
def fail? (c : Cursor) (fault : FaultAt) : Option (BraceError × Cursor) := do
  let before ← Text.slice? source 0 fault.2
  let lineStart := ((Text.lastPlaceOf? '\n' before).map (· + 1)).getD 0
  let column ← minus? fault.2 lineStart
  let place : Position := { line := before.count '\n' + 1, column := column + 1 }
  return ({ fault := fault.1, place }, { c with stage := none })

/-! ## Scanning -/

/-- Takes the byte behind a backslash; a newline only in a command body. -/
def skipEscaped? (c : Cursor) (body : Bool) : Option Cursor :=
  match c.byteAt source 0 with
  | none => some c
  | some b => if b = Byte.newline ∧ body = false then some c else c.moveTo? source (c.pos + 1)

/-- Scans a byte in the group that was opened at a place. -/
def groupRound (opened : Nat) (c : Cursor) :
    Option (Round Cursor (Cursor × Option FaultAt)) := do
  match ← c.next? source with
  | (none, c) => return .done (c, some (.unclosedGroup, opened))
  | (some b, c) =>
    if b = Byte.newline then return .done (c, some (.unclosedGroup, opened))
    else if b = Byte.backslash then return .again (← c.skipEscaped? source false)
    else if b = Byte.opening then return .done (c, some (.nestedOpening, ← minus? c.pos 1))
    else if b = Byte.closing then return .done (c, none)
    else return .again c

/-- Scans the rest of the group that was opened at a place. -/
noncomputable def restOfGroup? (opened : Nat) (c : Cursor) : Option (Cursor × Option FaultAt) :=
  loop? (groupRound source opened) c

/-- Scans what byte `b`, which was just taken, begins. -/
noncomputable def scan? (c : Cursor) (b : UInt8) (body : Bool) :
    Option (Cursor × Option FaultAt) := do
  if b = Byte.backslash then return (← c.skipEscaped? source body, none)
  else if b = Byte.opening then restOfGroup? source (← minus? c.pos 1) c
  else if b = Byte.closing then return (c, some (.strayClosing, ← minus? c.pos 1))
  else return (c, none)

/-- Ends with a fault that was found, and else goes on. -/
def unlessFault : Cursor × Option FaultAt → Round Cursor (Cursor × Option FaultAt)
  | (c, some fault) => .done (c, some fault)
  | (c, none) => .again c

/-- Scans a byte of a keybinding line and what it begins. -/
noncomputable def keybindingRound (c : Cursor) :
    Option (Round Cursor (Cursor × Option FaultAt)) := do
  match ← c.next? source with
  | (none, c) => return .done (c, none)
  | (some b, c) =>
    if b = Byte.newline then return .done (c, none)
    else return unlessFault (← c.scan? source b false)

/-- Scans the rest of a keybinding line. -/
noncomputable def restOfKeybinding? (c : Cursor) : Option (Cursor × Option FaultAt) :=
  loop? (keybindingRound source) c

/-- Scans a byte of a command body and what it begins, unless it opens a keybinding. -/
noncomputable def actionRound (c : Cursor) :
    Option (Round Cursor (Cursor × Option FaultAt)) := do
  if c.atKeybinding source then return .done ({ c with stage := some .keybinding }, none)
  else
    match ← c.next? source with
    | (none, c) => return .done ({ c with stage := none }, none)
    | (some b, c) => return unlessFault (← c.scan? source b true)

/-- Scans the rest of a command body. -/
noncomputable def restOfAction? (c : Cursor) : Option (Cursor × Option FaultAt) :=
  loop? (actionRound source) c

/-- Goes over a line, unless it opens a keybinding or is behind the end. -/
def globalsRound (c : Cursor) : Option (Round Cursor Cursor) := do
  if c.pos < size source ∧ c.atKeybinding source = false then
    return .again (← c.skipLine? source)
  else return .done c

/-- Goes to the first keybinding line, or to the end. -/
noncomputable def skipGlobals? (c : Cursor) : Option Cursor :=
  loop? (globalsRound source) c

/-! ## Stages -/

/-- What a stage can find: a token or the fault that ends the sequence. -/
abbrev Item := Except BraceError Token

/-- Cuts off a token, unless a fault was found in it. -/
def settle? (c : Cursor) (fault : Option FaultAt) (kind : TokenKind) :
    Option (Option Item × Cursor) := do
  match fault with
  | some fault =>
    let (error, c) ← c.fail? source fault
    return (some (.error error), c)
  | none =>
    let (token, c) ← c.emit? source kind
    return (some (.ok token), c)

/-- Goes through one stage. -/
noncomputable def step? (c : Cursor) : Stage → Option (Option Item × Cursor)
  | .shebang => do
    let c := { c with stage := some .globals }
    if Text.beginsWith source "#!".toList then
      (← c.skipLine? source).settle? source none .shebang
    else return (none, c)
  | .globals => do
    let c ← c.skipGlobals? source
    let c := { c with stage := if c.pos < size source then some .keybinding else none }
    if c.start < c.pos then c.settle? source none .globals else return (none, c)
  | .keybinding => do
    let (_, c) ← c.next? source
    let (c, fault) ← c.restOfKeybinding? source
    { c with stage := some .action }.settle? source fault .keybinding
  | .action => do
    let (c, fault) ← c.restOfAction? source
    c.settle? source fault .action

/-- Goes through the next stage, unless there is none or something to tell. -/
noncomputable def stageRound (c : Cursor) : Option (Round Cursor (Option (Item × Cursor))) := do
  match c.stage with
  | none => return .done none
  | some stage =>
    match ← c.step? source stage with
    | (some item, c) => return .done (some (item, c))
    | (none, c) => return .again c

/-- Goes through stages until there is something to tell. -/
noncomputable def nextItem? (c : Cursor) : Option (Option (Item × Cursor)) :=
  loop? (stageRound source) c

/-- Everything from the cursor on. -/
noncomputable def items? (c : Cursor) : Option (List Item) :=
  collect? (nextItem? source) c

/-! ## Where the cursor is -/

/-- The cursor with bytes of the token behind it. -/
def on (c : Cursor) (n : Nat) : Cursor :=
  { c with pos := c.pos + n }

theorem on_on (c : Cursor) (m n : Nat) : (c.on m).on n = c.on (m + n) := by
  unfold on
  rw [Nat.add_assoc]

/-- The cursor is within the text and not before the start of the token: the bytes are those before
it and those behind it. -/
structure Between (source : Text) (c : Cursor) (before behind : List UInt8) : Prop where
  bytes : encode source = before ++ behind
  pos : c.pos = before.length
  start : c.start ≤ c.pos

variable {source : Text} {c : Cursor} {before behind : List UInt8} {b : UInt8}

theorem Between.on (bs : List UInt8) (h : c.Between source before (bs ++ behind)) :
    (c.on bs.length).Between source (before ++ bs) behind := by
  refine ⟨?_, ?_, ?_⟩
  · rw [h.bytes, List.append_assoc]
  · rw [List.length_append, ← h.pos]
    rfl
  · exact Nat.le_trans h.start (Nat.le_add_right _ _)

theorem Between.on_one (h : c.Between source before (b :: behind)) :
    (c.on 1).Between source (before ++ [b]) behind :=
  h.on [b]

theorem byteAt_eq (h : c.Between source before behind) (offset : Nat) :
    c.byteAt source offset = behind[offset]? := by
  unfold byteAt
  rw [h.bytes, h.pos, List.getElem?_append_right (Nat.le_add_right _ _), Nat.add_sub_cancel_left]

/-- The cursor can go as far as there are bytes. -/
theorem moveTo?_on (bs : List UInt8) (h : c.Between source before (bs ++ behind)) :
    c.moveTo? source (c.pos + bs.length) = some (c.on bs.length) := by
  have hsize : c.pos + bs.length ≤ size source := by
    unfold size
    rw [h.bytes, h.pos, List.length_append, List.length_append]
    omega
  have hstart := h.start
  unfold moveTo?
  rw [if_pos ⟨by omega, hsize⟩]
  rfl

theorem moveTo?_on_one (h : c.Between source before (b :: behind)) :
    c.moveTo? source (c.pos + 1) = some (c.on 1) :=
  moveTo?_on [b] h

theorem next?_nil (h : c.Between source before []) : c.next? source = some (none, c) := by
  unfold next?
  rw [byteAt_eq h]
  rfl

theorem next?_cons (h : c.Between source before (b :: behind)) :
    c.next? source = some (some b, c.on 1) := by
  unfold next?
  rw [byteAt_eq h]
  simp only [List.getElem?_cons_zero]
  rw [moveTo?_on_one h]
  rfl

theorem minus?_on (c : Cursor) : minus? (c.on 1).pos 1 = some c.pos :=
  minus?_of_le (Nat.le_add_left 1 c.pos)

theorem skipEscaped?_nil (h : c.Between source before []) (body : Bool) :
    c.skipEscaped? source body = some c := by
  unfold skipEscaped?
  rw [byteAt_eq h]
  rfl

theorem skipEscaped?_cons (h : c.Between source before (b :: behind)) {body : Bool}
    (hb : b ≠ Byte.newline ∨ body = true) : c.skipEscaped? source body = some (c.on 1) := by
  have hnot : ¬ (b = Byte.newline ∧ body = false) := by
    rintro ⟨rfl, rfl⟩
    simp at hb
  unfold skipEscaped?
  rw [byteAt_eq h]
  simp only [List.getElem?_cons_zero]
  rw [if_neg hnot]
  exact moveTo?_on_one h

theorem skipEscaped?_newline (h : c.Between source before (Byte.newline :: behind)) :
    c.skipEscaped? source false = some c := by
  unfold skipEscaped?
  rw [byteAt_eq h]
  rfl

theorem previous_eq (h : c.Between source (before ++ [b]) behind) : c.previous source = some b := by
  have hpos : c.pos = before.length + 1 := by
    rw [h.pos, List.length_append, List.length_singleton]
  unfold previous
  rw [hpos, minus?_of_le (Nat.le_add_left 1 _), Nat.add_sub_cancel]
  simp [h.bytes]

/-- Behind a byte of the same line there is no keybinding. -/
theorem atKeybinding_of_ne (h : c.Between source (before ++ [b]) behind) (hb : b ≠ Byte.newline) :
    c.atKeybinding source = false := by
  have hpos : c.pos ≠ 0 := by
    rw [h.pos, List.length_append, List.length_singleton]
    omega
  unfold atKeybinding
  rw [previous_eq h]
  simp [hpos, hb]

theorem atKeybinding_nil (h : c.Between source before []) : c.atKeybinding source = false := by
  unfold atKeybinding
  rw [byteAt_eq h]
  simp

theorem atKeybinding_newline (h : c.Between source before (Byte.newline :: behind)) :
    c.atKeybinding source = false := by
  unfold atKeybinding
  rw [byteAt_eq h]
  exact Bool.and_false _

end Cursor

/-- A configuration as the cursor cuts it. -/
noncomputable def lex? (source : Text) : Option (List Cursor.Item) :=
  Cursor.initial.items? source

end Config

end Hotkeys
