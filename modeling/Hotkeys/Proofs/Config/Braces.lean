import Hotkeys.Config.Scan
import Hotkeys.Proofs.Config.Parts
import Hotkeys.Proofs.Text.Utf8

/-!
# Braces, line by line

A reference for the brace check: a line is read by itself, from left to right.  The scanner checks
braces by a machine that is told one byte after the other; on the bytes of a line it comes to the
same fault (`fault?_ofGroup`).
-/

set_option autoImplicit false

namespace Hotkeys.Config

/-! ## Reading a line -/

/-- The first fault of what is left of a line, its newline apart, from the byte column `column` on.
A backslash takes the byte behind it out of the reading; `group` is where the open group began. -/
def firstFault : (group : Option Nat) → (column : Nat) → List UInt8 → Option (BraceFault × Nat)
  | group, _, [] => group.map fun opened => (.unclosedGroup, opened)
  | group, column, b :: bs =>
    if b = Byte.backslash then
      match bs with
      | [] => firstFault group (column + 1) []
      | _ :: rest => firstFault group (column + 2) rest
    else
      match group with
      | none =>
        if b = Byte.opening then firstFault (some column) (column + 1) bs
        else if b = Byte.closing then some (.strayClosing, column)
        else firstFault none (column + 1) bs
      | some opened =>
        if b = Byte.closing then firstFault none (column + 1) bs
        else if b = Byte.opening then some (.nestedOpening, column)
        else firstFault (some opened) (column + 1) bs

/-- The first fault of a line and its column.  A keybinding line is read from behind its `#`. -/
def lineFault (line : Text) : Option (BraceFault × Nat) :=
  if isOpener line then firstFault none 2 (Text.Utf8.encode (Text.body line.tail))
  else firstFault none 1 (Text.Utf8.encode (Text.body line))

/-- A fault on line `n`. -/
def faultOn (n : Nat) (fault : BraceFault × Nat) : BraceError :=
  { fault := fault.1, place := ⟨n, fault.2⟩ }

/-- The first fault of lines of which the first is line `n`. -/
def linesFault (n : Nat) (lines : List Text) : Option BraceError :=
  (lines.zipIdx n).findSome? fun (line, n) => (lineFault line).map (faultOn n)

theorem firstFault_hash (column : Nat) (bs : List UInt8) :
    firstFault none column (Byte.hash :: bs) = firstFault none (column + 1) bs := by
  rw [firstFault.eq_def]
  rfl

/-- The `#` of a keybinding line is no brace, so that it makes no difference whether it is read. -/
theorem lineFault_eq (line : Text) :
    lineFault line = firstFault none 1 (Text.Utf8.encode (Text.body line)) := by
  rw [lineFault]
  split
  case isFalse => rfl
  case isTrue hopener =>
    obtain ⟨c, cs, rfl⟩ := exists_of_isOpener hopener
    have hbody : Text.body ('#' :: c :: cs) = '#' :: Text.body (c :: cs) := rfl
    have hbytes : Text.Utf8.encode ('#' :: Text.body (c :: cs)) =
        Byte.hash :: Text.Utf8.encode (Text.body (c :: cs)) := rfl
    rw [hbody, hbytes, firstFault_hash]
    rfl

theorem linesFault_nil (n : Nat) : linesFault n [] = none := rfl

theorem linesFault_cons (n : Nat) (line : Text) (rest : List Text) :
    linesFault n (line :: rest) =
      ((lineFault line).map (faultOn n)).or (linesFault (n + 1) rest) := by
  rw [linesFault, List.zipIdx_cons, List.findSome?_cons]
  cases hfault : lineFault line with
  | none => simp only [hfault, Option.map_none, Option.none_or, linesFault]
  | some fault => simp only [hfault, Option.map_some, Option.some_or]

/-! ## The machine on a line -/

namespace BraceState

/-- The state after bytes of one line, from the place `here` on. -/
def read (here : Position) : BraceState → List UInt8 → Except BraceError BraceState
  | state, [] => .ok state
  | state, b :: bs =>
    match state.step here b with
    | .error e => .error e
    | .ok state => read ⟨here.line, here.column + 1⟩ state bs

/-- The fault that the machine comes to on bytes of one line, if that is all there is. -/
def fault? (here : Position) (state : BraceState) (bs : List UInt8) : Option BraceError :=
  match state.read here bs with
  | .error e => some e
  | .ok state => state.atEnd

/-- The state outside of any group or inside of the one that began at a column of line `n`. -/
def ofGroup (n : Nat) : Option Nat → BraceState
  | none => .outside
  | some opened => .inGroup ⟨n, opened⟩

theorem fault?_cons_of_ok {here : Position} {state next : BraceState} {b : UInt8}
    (hstep : state.step here b = .ok next) (bs : List UInt8) :
    fault? here state (b :: bs) = fault? ⟨here.line, here.column + 1⟩ next bs := by
  rw [fault?, read, hstep]
  rfl

theorem fault?_cons_of_error {here : Position} {state : BraceState} {b : UInt8} {e : BraceError}
    (hstep : state.step here b = .error e) (bs : List UInt8) :
    fault? here state (b :: bs) = some e := by
  rw [fault?, read, hstep]

/-- An escape takes two steps and leads back to where it began. -/
theorem fault?_escape (n : Nat) (group : Option Nat) (column : Nat) {b : UInt8}
    (hb : b ≠ Byte.newline) (bs : List UInt8) :
    fault? ⟨n, column⟩ (ofGroup n group) (Byte.backslash :: b :: bs) =
      fault? ⟨n, column + 2⟩ (ofGroup n group) bs := by
  cases group with
  | none => rfl
  | some opened =>
      have hescape : (inGroup ⟨n, opened⟩).step ⟨n, column⟩ Byte.backslash =
          .ok (.inGroupEscaped ⟨n, opened⟩) := rfl
      have hescaped : (inGroupEscaped ⟨n, opened⟩).step ⟨n, column + 1⟩ b =
          .ok (.inGroup ⟨n, opened⟩) := if_neg hb
      rw [ofGroup, fault?_cons_of_ok hescape, fault?_cons_of_ok hescaped]

/-- The machine comes to the first fault of the reading.  The reading takes an escaped byte at once
and the machine in two steps; the newline that would end an escape is never among the bytes. -/
theorem fault?_ofGroup (n : Nat) (group : Option Nat) (column : Nat) {bs : List UInt8}
    (hbs : Byte.newline ∉ bs) :
    fault? ⟨n, column⟩ (ofGroup n group) bs = (firstFault group column bs).map (faultOn n) := by
  fun_induction firstFault group column bs with
  | case1 column group => cases group <;> rfl
  | case2 group column ih =>
      rw [← ih List.not_mem_nil]
      cases group <;> rfl
  | case3 group column b rest ih =>
      have hb : b ≠ Byte.newline := fun h => hbs (by simp [h])
      rw [fault?_escape n group column hb, ih fun h => hbs (by simp [h])]
  | case4 column bs hescape ih =>
      have hstep : outside.step ⟨n, column⟩ Byte.opening = .ok (.inGroup ⟨n, column⟩) := rfl
      rw [ofGroup, fault?_cons_of_ok hstep]
      exact ih fun h => hbs (List.mem_cons_of_mem _ h)
  | case5 column bs hescape hopening => exact fault?_cons_of_error rfl bs
  | case6 column b bs hescape hopening hclosing ih =>
      have hstep : outside.step ⟨n, column⟩ b = .ok .outside := by
        rw [step, if_neg hescape, if_neg hopening, if_neg hclosing]
      rw [ofGroup, fault?_cons_of_ok hstep]
      exact ih fun h => hbs (List.mem_cons_of_mem _ h)
  | case7 column bs opened hescape ih =>
      have hstep : (inGroup ⟨n, opened⟩).step ⟨n, column⟩ Byte.closing = .ok .outside := rfl
      rw [ofGroup, fault?_cons_of_ok hstep]
      exact ih fun h => hbs (List.mem_cons_of_mem _ h)
  | case8 column bs opened hescape hclosing => exact fault?_cons_of_error rfl bs
  | case9 column b bs hescape opened hclosing hopening ih =>
      have hb : b ≠ Byte.newline := fun h => hbs (by simp [h])
      have hstep : (inGroup ⟨n, opened⟩).step ⟨n, column⟩ b = .ok (.inGroup ⟨n, opened⟩) := by
        rw [step, if_neg hb, if_neg hescape, if_neg hopening, if_neg hclosing]
      rw [ofGroup, fault?_cons_of_ok hstep]
      exact ih fun h => hbs (List.mem_cons_of_mem _ h)

end BraceState

end Hotkeys.Config
