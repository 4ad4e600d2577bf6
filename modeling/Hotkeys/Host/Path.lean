import Hotkeys.Text.Basic

/-!
# Paths

Paths as they are written: joining a name to a path, the path of the directory that holds a file,
and lists of directories to search.
-/

set_option autoImplicit false

namespace Hotkeys.Host.Path

/-- Whether a path begins at the root. -/
def isAbsolute (path : Text) : Bool :=
  Text.beginsWith path ['/']

/-- Whether a name says where a file is, so that it is not searched for. -/
def hasPlace (name : Text) : Bool :=
  name.contains '/'

/-- The path of `name` in the directory `base`.  An absolute name stands for itself. -/
def join (base name : Text) : Text :=
  if isAbsolute name || base.isEmpty then name
  else if base.getLast? == some '/' then base ++ name
  else base ++ '/' :: name

/-- Whether a path can only name a directory, because it ends in a slash. -/
def endsInSlash (path : Text) : Bool :=
  path.getLast? == some '/'

/-- A path, read backwards, without the slashes at its end; the slash of the root stays. -/
def dropSlashesBackwards : Text → Text
  | '/' :: rest => if rest.isEmpty then ['/'] else dropSlashesBackwards rest
  | path => path

/-- A path without the slashes at its end; the slash of the root stays. -/
def dropSlashes (path : Text) : Text :=
  (dropSlashesBackwards path.reverse).reverse

/-- A path, read backwards, without the slashes at its end and without segments `.` there.  The
slash of the root stays, and so does a `.` that is the whole path. -/
def trimBackwards : Text → Text
  | '/' :: rest => if rest.isEmpty then ['/'] else trimBackwards rest
  | '.' :: '/' :: rest => if rest.isEmpty then ['/'] else trimBackwards rest
  | path => path

/-- The path of the directory that holds what a path names; `none` for the root and for the empty
path. -/
def parent? (path : Text) : Option Text :=
  let trimmed := trimBackwards path.reverse
  if trimmed.isEmpty || trimmed == ['/'] then none
  else some (trimBackwards (trimmed.dropWhile fun c => c != '/')).reverse

/-- The directories of a search list, between colons. -/
def searchList (list : Text) : List Text :=
  Text.splitOn (· == ':') list

/-- The segments of a path that lead from one directory to the next.  A slash at the end counts as
a segment `.`, because what stands before it has to be a directory. -/
def segments (path : Text) : List Text :=
  let named := (Text.splitOn (· == '/') path).filter fun s => !s.isEmpty
  if endsInSlash path && !named.isEmpty then named ++ [['.']] else named

end Hotkeys.Host.Path
