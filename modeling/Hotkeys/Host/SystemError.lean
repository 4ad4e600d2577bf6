import Hotkeys.Text.Numeral

/-!
# System errors

The reasons for which the operating system refuses an operation on files or programs.
-/

set_option autoImplicit false

namespace Hotkeys.Host

/-- A reason for a refusal. -/
inductive SystemError where
  /-- The caller may not do this. -/
  | notPermitted
  /-- A component of the path is missing. -/
  | noEntry
  /-- There is no such device. -/
  | noDevice
  /-- The argument list is too long. -/
  | tooLong
  /-- The file holds no program. -/
  | notExecutable
  /-- The file may not be used this way. -/
  | accessDenied
  /-- The file is in use. -/
  | busy
  /-- The file is there already. -/
  | exists
  /-- A component of the path that has to be a directory is none. -/
  | notDirectory
  /-- The path names a directory. -/
  | isDirectory
  /-- An argument makes no sense. -/
  | invalid
  /-- There is no room left. -/
  | noSpace
  /-- A component of the path is too long. -/
  | nameTooLong
  /-- The directory is not empty. -/
  | notEmpty
  /-- One file leads to another one too often. -/
  | tooManyLevels
  /-- The path cannot be handed to the system, because it contains a NUL. -/
  | nulInPath
  /-- An argument cannot be handed to the system, because it contains a NUL. -/
  | nulInArgument
  deriving DecidableEq, Repr

namespace SystemError

/-- The number that the system gives the reason; `none` if the system is not asked. -/
def number? : SystemError → Option Nat
  | .notPermitted => some 1
  | .noEntry => some 2
  | .noDevice => some 6
  | .tooLong => some 7
  | .notExecutable => some 8
  | .accessDenied => some 13
  | .exists => some 17
  | .notDirectory => some 20
  | .isDirectory => some 21
  | .invalid => some 22
  | .busy => some 26
  | .noSpace => some 28
  | .nameTooLong => some 36
  | .notEmpty => some 39
  | .tooManyLevels => some 40
  | .nulInPath | .nulInArgument => none

/-- The reason in the system's words. -/
def describe : SystemError → String
  | .notPermitted => "Operation not permitted"
  | .noEntry => "No such file or directory"
  | .noDevice => "No such device or address"
  | .tooLong => "Argument list too long"
  | .notExecutable => "Exec format error"
  | .accessDenied => "Permission denied"
  | .exists => "File exists"
  | .notDirectory => "Not a directory"
  | .isDirectory => "Is a directory"
  | .invalid => "Invalid argument"
  | .busy => "Text file busy"
  | .noSpace => "No space left on device"
  | .nameTooLong => "File name too long"
  | .notEmpty => "Directory not empty"
  | .tooManyLevels => "Too many levels of symbolic links"
  | .nulInPath => "file name contained an unexpected NUL byte"
  | .nulInArgument => "nul byte found in provided data"

/-- The reason with its number, if it has one. -/
def message (e : SystemError) : Text :=
  match e.number? with
  | some n => e.describe.toList ++ " (os error ".toList ++ Text.ofNat n ++ [')']
  | none => e.describe.toList

end SystemError

end Hotkeys.Host
