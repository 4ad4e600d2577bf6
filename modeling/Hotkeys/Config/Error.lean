import Hotkeys.Config.Excerpt
import Hotkeys.Config.Expansion
import Hotkeys.Host.SystemError

/-!
# Errors of a configuration

Why a configuration cannot be used, and how the reason is told.
-/

set_option autoImplicit false

namespace Hotkeys.Config

open Hotkeys.Host (SystemError)

/-- Why no configuration text could be read. -/
inductive ReadFault where
  /-- The system refused. -/
  | system (e : SystemError)
  /-- The bytes of the file are not UTF-8. -/
  | malformedText
  /-- The path names something that is not a regular file. -/
  | notRegular
  /-- There is no such file. -/
  | notFound
  /-- The environment names no place for configurations. -/
  | noHome
  deriving DecidableEq, Repr

/-- The fault in words. -/
def ReadFault.message : ReadFault → Text
  | .system e => e.message
  | .malformedText => "stream did not contain valid UTF-8".toList
  | .notRegular => "path invalid: not a regular file".toList
  | .notFound => "config file not found".toList
  | .noHome => "neither $XDG_CONFIG_HOME nor $HOME is set".toList

/-- Why a configuration cannot be used. -/
inductive Fault where
  /-- Its text could not be read. -/
  | read (fault : ReadFault)
  /-- Its braces do not match. -/
  | braces (error : BraceError) (excerpt : Text)
  /-- A binding could not be expanded. -/
  | expand (line : Nat) (binding : Text) (error : ExpansionError)
  /-- It has no bindings. -/
  | empty
  deriving DecidableEq, Repr

/-- The fault in words. -/
def Fault.message : Fault → Text
  | .read fault => fault.message
  | .braces error _ => error.fault.message
  | .expand _ binding error =>
    "can't register ".toList ++ binding ++ " keybinding, error (".toList ++ error.message ++ [')']
  | .empty => "config contains no bindings".toList

/-- A fault and the file that it was found in, if there is one. -/
structure Error where
  /-- The file. -/
  path : Option Text
  /-- What is wrong. -/
  fault : Fault
  deriving DecidableEq, Repr

namespace Error

/-- A fault outside of any file. -/
def ofFault (fault : Fault) : Error :=
  { path := none, fault }

/-- The error as one of the file `path`. -/
def withPath (e : Error) (path : Text) : Error :=
  { e with path := some path }

/-- The error in words, without its place. -/
def message (e : Error) : Text :=
  e.fault.message

/-- The place of a fault behind its kind: the path with the numbers behind it, or else a
description that stands for both. -/
def located (path : Option Text) (numbers : List Nat) (described : Text) : Text :=
  match path with
  | some p => " at ".toList ++ p ++ numbers.flatMap fun n => ':' :: Text.ofNat n
  | none => described

/-- The error as it is shown to the user, with its place and an excerpt where there is one. -/
def pretty (e : Error) : Text :=
  match e.fault with
  | .read _ => "Read error".toList ++ located e.path [] [] ++ ": ".toList ++ e.message
  | .braces error excerpt =>
    let place := error.place
    "Config parse error".toList ++
      located e.path [place.line, place.column]
        (" at line ".toList ++ Text.ofNat place.line ++ ", column ".toList ++
          Text.ofNat place.column) ++
      '\n' :: e.message ++ '\n' :: excerpt
  | .expand line _ _ =>
    "Config error".toList ++ located e.path [line] (" at line ".toList ++ Text.ofNat line) ++
      '\n' :: e.message
  | .empty => "Config error".toList ++ located e.path [] [] ++ '\n' :: e.message

end Error

end Hotkeys.Config
