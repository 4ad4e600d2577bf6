import Hotkeys.Host.Environment
import Hotkeys.Host.Files

/-!
# Editors

The editor that the user prefers, or else the first of a few that can be found.
-/

set_option autoImplicit false

namespace Hotkeys.CommandLine

open Hotkeys.Host (Environment Files)

/-- Where a program is.  A name with a place is taken as it is; any other name is searched for in
the directories of `search`. -/
def findProgram (files : Files) (search : Option Text) (name : Text) : Option Text :=
  if name = [] then none
  else if Host.Path.hasPlace name then if files.isFile name then some name else none
  else
    search.bind fun list =>
      ((Host.Path.searchList list).map fun directory => Host.Path.join directory name).find?
        files.isFile

/-- The editors that are tried when the preferred one is missing. -/
def usualEditors : List Text :=
  ["nano", "nvim", "vim", "vi"].map String.toList

/-- The editor to use, if there is one. -/
def findEditor (files : Files) (search preferred : Option Text) : Option Text :=
  (preferred.toList ++ usualEditors).findSome? (findProgram files search)

/-- The editor that an environment leads to. -/
def editorOf (files : Files) (env : Environment) : Option Text :=
  findEditor files (env.get? "PATH") (env.get? "EDITOR")

/-- What is said when there is no editor. -/
def noEditorMessage : Text :=
  "no text editor was found (tried $EDITOR, nano, nvim, vim, vi)".toList

end Hotkeys.CommandLine
