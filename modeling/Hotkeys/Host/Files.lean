import Hotkeys.Host.Path
import Hotkeys.Host.SystemError
import Hotkeys.Host.Tool
import Hotkeys.Text.Utf8

/-!
# Files

The files that the program can reach, and the operations on them that it uses.  A place is the
list of names that leads from the root to a file; a path is how a place is written, and may lead
through links.
-/

set_option autoImplicit false

namespace Hotkeys.Host

/-! ## Nodes -/

/-- The contents of a file. -/
abbrev Bytes := List UInt8

/-- Where a file is: the names from the root on. -/
abbrev Place := List Text

/-- Something that looks like a file without keeping what is written to it. -/
inductive Device where
  /-- It swallows what is written to it. -/
  | null
  /-- It has no room for anything. -/
  | full
  /-- The terminal, which a run does not have. -/
  | terminal
  deriving DecidableEq, Repr

/-- What a place may hold. -/
inductive Node where
  /-- A directory. -/
  | directory
  /-- A regular file. -/
  | file (content : Bytes) (executable : Bool)
  /-- A program that is part of the system. -/
  | tool (tool : Tool)
  /-- A device. -/
  | device (d : Device)
  /-- A stream of whoever looks there, by its number. -/
  | stream (number : Nat)
  /-- A link to a path. -/
  | link (target : Text)
  deriving DecidableEq, Repr

/-- Whether a node is a regular file. -/
def Node.isFile : Node → Bool
  | .file .. | .tool _ => true
  | .directory | .device _ | .stream _ | .link _ => false

/-- The files in reach. -/
structure Files where
  /-- What each place holds; the root is a directory without being listed. -/
  nodes : List (Place × Node)
  /-- The directory that relative paths begin at. -/
  here : Place
  deriving DecidableEq, Repr

namespace Files

/-! ## Places -/

/-- What a place holds. -/
def get? (fs : Files) (place : Place) : Option Node :=
  if place = [] then some .directory
  else (fs.nodes.find? fun entry => entry.1 == place).map Prod.snd

/-- The files with something else at a place. -/
def put (fs : Files) (place : Place) (node : Node) : Files :=
  { fs with nodes := fs.nodes.filter (fun entry => entry.1 != place) ++ [(place, node)] }

/-- The files without what is at a place and below it. -/
def erase (fs : Files) (place : Place) : Files :=
  { fs with nodes := fs.nodes.filter fun entry => !place.isPrefixOf entry.1 }

/-- The longest name, in bytes. -/
def longestName : Nat := 255

/-- Follows segments from a place on.  Every segment is looked up in a directory; the last one may
be missing there.  Behind a link, `onward` goes on; a link in the last place is only followed if
that is wanted. -/
def walk (fs : Files) (follow : Bool) (onward : Place → List Text → Except SystemError Place)
    (place : Place) : List Text → Except SystemError Place
  | [] => .ok place
  | segment :: rest =>
    match fs.get? place with
    | none => .error .noEntry
    | some .directory =>
      if longestName < Text.Utf8.size segment then .error .nameTooLong
      else if segment = ['.'] then walk fs follow onward place rest
      else if segment = ['.', '.'] then walk fs follow onward place.dropLast rest
      else
        match fs.get? (place ++ [segment]), rest.isEmpty && !follow with
        | some (.link target), false =>
          onward (if Path.isAbsolute target then [] else place) (Path.segments target ++ rest)
        | _, _ => walk fs follow onward (place ++ [segment]) rest
    | some _ => .error .notDirectory

/-- Follows segments from a place on, through a limited number of links. -/
def walkLinks (fs : Files) (follow : Bool) :
    (links : Nat) → Place → List Text → Except SystemError Place
  | 0, place, segments => fs.walk follow (fun _ _ => .error .tooManyLevels) place segments
  | links + 1, place, segments => fs.walk follow (walkLinks fs follow links) place segments

/-- The longest path, in bytes. -/
def longestPath : Nat := 4095

/-- How many links a path may lead through. -/
def mostLinks : Nat := 40

/-- The place that a path leads to, where there may be nothing yet. -/
def locateWith (fs : Files) (follow : Bool) (path : Text) : Except SystemError Place :=
  if path.contains '\x00' then .error .nulInPath
  else if path = [] then .error .noEntry
  else if longestPath < Text.Utf8.size path then .error .nameTooLong
  else
    fs.walkLinks follow mostLinks (if Path.isAbsolute path then [] else fs.here)
      (Path.segments path)

/-- The place that a path leads to, where there may be nothing yet. -/
def locate (fs : Files) (path : Text) : Except SystemError Place :=
  fs.locateWith true path

/-! ## Looking -/

/-- What is at a place that a path leads to. -/
def found (fs : Files) (place : Place) : Except SystemError (Place × Node) :=
  match fs.get? place with
  | some node => .ok (place, node)
  | none => .error .noEntry

/-- What a path leads to. -/
def lookUp (fs : Files) (path : Text) : Except SystemError (Place × Node) := do
  fs.found (← fs.locate path)

/-- What a path leads to, which may be a link. -/
def lookAt (fs : Files) (path : Text) : Except SystemError (Place × Node) := do
  fs.found (← fs.locateWith false path)

/-- Whether a path leads to anything. -/
def contains (fs : Files) (path : Text) : Bool :=
  match fs.lookUp path with
  | .ok _ => true
  | .error _ => false

/-- Whether a path leads to a regular file. -/
def isFile (fs : Files) (path : Text) : Bool :=
  match fs.lookUp path with
  | .ok (_, node) => node.isFile
  | .error _ => false

/-- Whether a path leads to a directory. -/
def isDirectory (fs : Files) (path : Text) : Bool :=
  match fs.lookUp path with
  | .ok (_, node) => node == .directory
  | .error _ => false

/-- What can be read of a node. -/
def contentOf : Node → Except SystemError Bytes
  | .directory => .error .isDirectory
  | .file content _ => .ok content
  | .device .terminal => .error .noDevice
  | .tool _ | .device _ | .stream _ | .link _ => .ok []

/-- The contents of the file at a path. -/
def read (fs : Files) (path : Text) : Except SystemError Bytes := do
  contentOf (← fs.lookUp path).2

/-- The names in a directory. -/
def namesIn (fs : Files) (place : Place) : List Text :=
  fs.nodes.filterMap fun entry =>
    if entry.1.dropLast == place then entry.1.getLast? else none

/-! ## Changing -/

/-- The files after writing to what is at a place; it is made if it is missing.  The new contents
are computed from the old ones. -/
def updateAt (fs : Files) (place : Place) (change : Bytes → Bytes) : Except SystemError Files :=
  match fs.get? place with
  | some .directory => .error .isDirectory
  | some (.file content executable) => .ok (fs.put place (.file (change content) executable))
  | some (.tool _) => .error .busy
  | some (.device .terminal) => .error .noDevice
  | some (.device _) | some (.stream _) | some (.link _) => .ok fs
  | none => .ok (fs.put place (.file (change []) false))

/-- The place of a file that is to be written. -/
def locateFile (fs : Files) (path : Text) : Except SystemError Place := do
  let place ← fs.locate (Path.dropSlashes path)
  if Path.endsInSlash path then .error .isDirectory else return place

/-- The files after writing to the file at a path, which is made if it is missing. -/
def update (fs : Files) (path : Text) (change : Bytes → Bytes) : Except SystemError Files := do
  fs.updateAt (← fs.locateFile path) change

/-- The files after the contents of a file were replaced. -/
def write (fs : Files) (path : Text) (content : Bytes) : Except SystemError Files :=
  fs.update path fun _ => content

/-- The files without the file at a path. -/
def remove (fs : Files) (path : Text) : Except SystemError Files := do
  let (place, node) ← fs.lookAt path
  if node = .directory then .error .isDirectory else return fs.erase place

/-- The files without the empty directory at a path. -/
def removeDirectory (fs : Files) (path : Text) : Except SystemError Files := do
  let (place, node) ← fs.lookAt path
  if node ≠ .directory then .error .notDirectory
  else if !(fs.namesIn place).isEmpty then .error .notEmpty
  else return fs.erase place

/-- The files with what is at a place moved to another one, where nothing is in the way. -/
def relocate (fs : Files) (source target : Place) : Files :=
  let moved := (fs.nodes.filter fun entry => source.isPrefixOf entry.1).map fun entry =>
    (target ++ entry.1.drop source.length, entry.2)
  let kept := fs.nodes.filter fun entry =>
    !source.isPrefixOf entry.1 && !target.isPrefixOf entry.1
  { fs with nodes := kept ++ moved }

/-- The files with what is at a path moved to another one. -/
def rename (fs : Files) (source target : Text) : Except SystemError Files := do
  let (old, node) ← fs.lookAt source
  let new ← fs.locateWith false (Path.dropSlashes target)
  if old = new then return fs
  else if old.isPrefixOf new then .error .invalid
  else
    match fs.get? new with
    | some .directory =>
      if node ≠ .directory then .error .isDirectory
      else if !(fs.namesIn new).isEmpty then .error .notEmpty
      else return fs.relocate old new
    | some _ => if node = .directory then .error .notDirectory else return fs.relocate old new
    | none => return fs.relocate old new

/-- The files with something new at a path. -/
def create (fs : Files) (path : Text) (node : Node) : Except SystemError Files := do
  let place ← fs.locateWith false (Path.dropSlashes path)
  match fs.get? place with
  | some _ => .error .exists
  | none => return fs.put place node

/-- The files with a new directory at a path. -/
def createDirectory (fs : Files) (path : Text) : Except SystemError Files :=
  fs.create path .directory

/-- The files with a directory at a path and at every path that leads to it.  `depth` bounds the
number of directories. -/
def createDirectoriesIn : (depth : Nat) → Files → Text → Except SystemError Unit × Files
  | 0, fs, _ => (.error .noEntry, fs)
  | depth + 1, fs, path =>
    let attempt (fs : Files) (onMissing : Files → Except SystemError Unit × Files) :=
      match fs.createDirectory path with
      | .ok fs => (.ok (), fs)
      | .error .noEntry => onMissing fs
      | .error e => (if fs.isDirectory path then .ok () else .error e, fs)
    if path = [] then (.ok (), fs)
    else
      attempt fs fun fs =>
        match Path.parent? path with
        | none => (.error .noEntry, fs)
        | some parent =>
          match createDirectoriesIn depth fs parent with
          | (.error e, fs) => (.error e, fs)
          | (.ok (), fs) => attempt fs fun fs => (.error .noEntry, fs)

/-- The files with a directory at a path and at every path that leads to it.  Directories that
could be made stay when a later one could not. -/
def createDirectories (fs : Files) (path : Text) : Except SystemError Unit × Files :=
  createDirectoriesIn (path.length + 1) fs path

end Files

end Hotkeys.Host
