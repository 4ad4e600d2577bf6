import Hotkeys.Config.Error
import Hotkeys.X11.Manager

/-!
# Errors of the engine

Why a session cannot be opened, a binding cannot be registered, or the daemon ends.
-/

set_option autoImplicit false

namespace Hotkeys.Engine

/-- What the engine gives up on. -/
inductive Error where
  /-- A configuration that cannot be used. -/
  | config (e : Config.Error)
  /-- A refusal of the grab manager. -/
  | manager (e : X11.ManagerError)
  /-- A chord text that names no chord. -/
  | chord (e : Keys.ChordError)
  /-- A session that has been left. -/
  | detached
  /-- A chord that a session refuses. -/
  | refused (chord : Text)
  /-- A registration that is not there. -/
  | unknownRegistration (id : Nat)
  deriving DecidableEq, Repr

namespace Error

/-- The error in words. -/
def message : Error → Text
  | .config e => e.message
  | .manager e => "Hotkey manager error: ".toList ++ e.message
  | .chord e => "Invalid chord: ".toList ++ e.message
  | .detached => "Engine error: session detached".toList
  | .refused shown => "Engine error: cannot grab ".toList ++ shown
  | .unknownRegistration id => "Engine error: unknown registration ".toList ++ Text.ofNat id

/-- The error as it is shown to the user. -/
def pretty : Error → Text
  | .config e => e.pretty
  | e => e.message

end Error

end Hotkeys.Engine
