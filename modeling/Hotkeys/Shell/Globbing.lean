import Hotkeys.Host.Files
import Hotkeys.Shell.Pattern

/-!
# Patterns for file names

A field with the signs of a pattern stands for the paths of that form.  Every segment of a path is
compared with a segment of the pattern; a name that begins with a point is only found by a segment
that does.
-/

set_option autoImplicit false

namespace Hotkeys.Shell

open Hotkeys.Text (PatternLetter)

open Hotkeys.Host (Files)

/-- Whether letters hold a sign of a pattern. -/
def hasSigns (letters : List PatternLetter) : Bool :=
  letters.any fun l => !l.1 && "*?[".toList.contains l.2

/-- The segments between slashes. -/
def letterSegments : List PatternLetter → List (List PatternLetter)
  | [] => [[]]
  | l :: ls =>
    match letterSegments ls with
    | [] => [[l]]
    | first :: rest => if l.2 = '/' then [] :: first :: rest else (l :: first) :: rest

/-- The names in the directory that a path ends with; the empty path is the current directory.
With `dots`, the directory itself and the one around it are among them. -/
def namesAt (fs : Files) (dots : Bool) (base : Text) : List Text :=
  match fs.lookUp (if base.isEmpty then ['.'] else base) with
  | .ok (place, .directory) =>
    (if dots then [['.'], ['.', '.']] else []) ++ fs.namesIn place
  | _ => []

/-- Whether a name that begins with a point may be found by a segment. -/
def showsHidden (segment : List PatternLetter) : Bool :=
  match segment with
  | (_, '.') :: _ => true
  | (false, '\\') :: (_, '.') :: _ => true
  | _ => false

/-- The paths that segments find, behind a path that ends with a slash or is empty. -/
def findPaths (fs : Files) (caret dots : Bool) :
    List (List PatternLetter) → (base : Text) → List Text
  | [], base => [base]
  | segment :: rest, base =>
    let names :=
      if hasSigns segment then
        let form := Pattern.ofLetters caret segment
        (namesAt fs dots base).filter fun name =>
          (showsHidden segment || !Text.beginsWith name ['.']) && form.fits name
      else [segment.map Prod.snd]
    names.flatMap fun name =>
      let path := base ++ name
      match rest with
      | [] =>
        match fs.lookAt path with
        | .ok _ => [path]
        | .error _ => []
      | _ => findPaths fs caret dots rest (path ++ ['/'])

/-- What the letters of a field stand for: the paths of their form in order, or themselves. -/
def pathsOf (fs : Files) (caret dots : Bool) (letters : List PatternLetter) : List Text :=
  let itself := [letters.map Prod.snd]
  if hasSigns letters then
    let paths := findPaths fs caret dots (letterSegments letters) []
    if paths.isEmpty then itself else Text.Utf8.ordered paths
  else itself

end Hotkeys.Shell
