import Hotkeys.Config.Configuration
import Hotkeys.Host.Files

/-!
# Sources

Where a configuration comes from: a file, which is read anew each time, or a text that is at hand
already.
-/

set_option autoImplicit false

namespace Hotkeys.Config

open Hotkeys.Host (Bytes Files)

/-- Where a configuration comes from. -/
inductive Source where
  /-- The file at a path. -/
  | file (path : Text)
  /-- A text. -/
  | memory (text : Text)
  deriving DecidableEq, Repr

namespace Source

/-- Whether the source may have changed since it was read. -/
def isFile : Source → Bool
  | .file _ => true
  | .memory _ => false

/-- The source as it is named in reports. -/
def name : Source → Text
  | .file path => path
  | .memory _ => "<memory>".toList

end Source

/-- The text of bytes that are to be UTF-8. -/
def textOf (bytes : Bytes) : Except ReadFault Text :=
  match Text.Utf8.decode? bytes with
  | some text => .ok text
  | none => .error .malformedText

/-- The text of the file at a path. -/
def readText (files : Files) (path : Text) : Except ReadFault Text :=
  match files.read path with
  | .error e => .error (.system e)
  | .ok bytes => textOf bytes

/-- The configuration of a source as it is now, and what was reported on the way. -/
def load (files : Files) (policy : Policy) : Source → Except Error Configuration × Log
  | .memory text => compile policy text
  | .file path =>
    match readText files path with
    | .error fault => (.error ((Error.ofFault (.read fault)).withPath path), [])
    | .ok text =>
      let (compiled, log) := compile policy text
      (compiled.mapError fun e => e.withPath path, log)

end Hotkeys.Config
