import Hotkeys.CommandLine.Switch

/-!
# Arguments of the background process

The process that goes on in the background is started with the same arguments, without the
switches that sent it there or that opened an editor.
-/

set_option autoImplicit false

namespace Hotkeys.CommandLine

/-- The letters of a cluster that are handed on, and whether the next argument is a value.  The
letters `b` and `i` are left out; `c` and `e` take what follows them as it is. -/
def keptLetters : Text → Text × Bool
  | [] => ([], false)
  | 'b' :: rest | 'i' :: rest => keptLetters rest
  | 'c' :: rest => ('c' :: rest, rest.isEmpty)
  | 'e' :: rest => ('e' :: rest, false)
  | c :: rest =>
    let kept := keptLetters rest
    (c :: kept.1, kept.2)

/-- Whether an argument is a word that the next argument is the value of. -/
def awaitsValue (arg : Text) : Bool :=
  ["--config", "--log-level", "--log-filter"].any fun word => arg == word.toList

/-- Whether an argument, alone, sends the process to the background or opens an editor. -/
def isLeftOut (arg : Text) : Bool :=
  ["-b", "--background", "-i", "--interactive"].any fun word => arg == word.toList

/-- What is handed on of an argument that is no value, and whether the next one is a value. -/
def keptOf (arg : Text) : List Text × Bool :=
  if isLeftOut arg then ([], false)
  else
    match arg with
    | '-' :: '-' :: _ => ([arg], awaitsValue arg)
    | '-' :: c :: rest =>
      let kept := keptLetters (c :: rest)
      (if kept.1 = [] then [] else ['-' :: kept.1], kept.2)
    | _ => ([arg], false)

/-- The arguments that are handed on; `isValue` tells whether the first is a value. -/
def handedOn (isValue : Bool) : List Text → List Text
  | [] => []
  | arg :: rest =>
    if isValue then arg :: handedOn false rest
    else
      let kept := keptOf arg
      kept.1 ++ handedOn kept.2 rest

/-- The arguments of the background process. -/
def backgroundArgs (args : List Text) : List Text :=
  handedOn false args

end Hotkeys.CommandLine
