import Hotkeys.Text.Basic

/-!
# Pairs

A keybinding line together with the command body below it, before its groups are expanded.
-/

set_option autoImplicit false

namespace Hotkeys.Config

/-- Whether a text holds a `{` and, somewhere behind the first one, a `}`. -/
def hasGroup (t : Text) : Bool :=
  match Text.splitFirst '{' t with
  | some (_, rest) => rest.contains '}'
  | none => false

/-- A keybinding and its command. -/
structure Pair where
  /-- The keybinding line without its `#` and without blanks. -/
  binding : Text
  /-- The command body. -/
  command : Text
  /-- The line of the keybinding, counted from one. -/
  line : Nat
  deriving DecidableEq, Repr

/-- Whether the binding may have to be expanded. -/
def Pair.hasVariant (p : Pair) : Bool :=
  hasGroup p.binding

end Hotkeys.Config
