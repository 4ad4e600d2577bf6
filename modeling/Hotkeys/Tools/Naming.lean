import Hotkeys.Tools.Tree

/-!
# Names of files

The tools that print parts of paths, where paths lead, and where programs are.
-/

set_option autoImplicit false

namespace Hotkeys.Tools

open Hotkeys.Host (Files Node Place SystemError)

/-- The path of a place. -/
def pathOf (place : Place) : Text :=
  '/' :: Text.join ['/'] place

/-- What ends a line of paths. -/
def pathEnd (a : Arguments) : Text :=
  if a.has 'z' then ['\x00'] else ['\n']

/-- Prints the last names of paths. -/
def basename : Body :=
  withOptions
    { letters := "as:z", words := [("multiple", 'a'), ("suffix", 's'), ("zero", 'z')]
      stopping := true } 1 fun a w =>
    let strip (suffix name : Text) : Text :=
      let kept := name.length - suffix.length
      if 0 < kept && name.drop kept = suffix then name.take kept else name
    let print (suffix : Text) (w : Work) (path : Text) : Work :=
      w.print (strip suffix (lastName path) ++ pathEnd a)
    match a.operands with
    | [] => w.lackOperand 1
    | path :: rest =>
      if a.hasOne "as" then
        (path :: rest).foldl (print ((a.value? 's').getD [])) w
      else
        match rest with
        | [] => print [] w path
        | [suffix] => print suffix w path
        | _ :: extra :: _ => w.extraOperand 1 extra

/-- Prints paths without their last names. -/
def dirname : Body :=
  withOptions { letters := "z", words := [("zero", 'z')], stopping := false } 1 fun a w =>
    if a.operands.isEmpty then w.lackOperand 1
    else a.operands.foldl (fun w path => w.print (withoutLast path ++ pathEnd a)) w

/-- Prints the places that paths lead to. -/
def realpath : Body :=
  withOptions
    { letters := "eLmPqsz"
      words := [("canonicalize-existing", 'e'), ("canonicalize-missing", 'm'), ("quiet", 'q'),
        ("no-symlinks", 's'), ("strip", 's'), ("zero", 'z')]
      stopping := false } 1 fun a w =>
    if a.operands.isEmpty then w.lackOperand 1
    else
      a.operands.foldl (fun w path =>
        match w.files.locate path with
        | .ok place =>
          if a.has 'e' && (w.files.get? place).isNone then
            if a.has 'q' then w.withCode 1 else w.refuse 1 (named path) .noEntry
          else w.print (pathOf place ++ pathEnd a)
        | .error e => if a.has 'q' then w.withCode 1 else w.refuse 1 (named path) e) w

/-- Prints where links lead. -/
def readlink : Body :=
  withOptions
    { letters := "efmnqsvz"
      words := [("canonicalize", 'f'), ("canonicalize-existing", 'e'),
        ("canonicalize-missing", 'm'), ("no-newline", 'n'), ("quiet", 'q'), ("verbose", 'v'),
        ("zero", 'z')]
      stopping := false } 1 fun a w =>
    if a.operands.isEmpty then w.lackOperand 1
    else
      let finish : Text := if a.has 'n' then [] else pathEnd a
      a.operands.foldl (fun w path =>
        let refuse (e : SystemError) : Work :=
          if a.has 'v' then w.refuse 1 (named path) e else w.withCode 1
        if a.hasOne "fem" then
          match w.files.locate path with
          | .ok place =>
            if a.has 'e' && (w.files.get? place).isNone then refuse .noEntry
            else w.print (pathOf place ++ finish)
          | .error e => refuse e
        else
          match w.files.lookAt path with
          | .ok (_, .link target) => w.print (target ++ finish)
          | .ok _ => refuse .invalid
          | .error e => refuse e) w

/-- The places of the program of a name, along the search list. -/
def programPaths (w : Work) (name : Text) : List Text :=
  let paths :=
    if Host.Path.hasPlace name then [name]
    else
      (Host.Path.searchList ((w.env.get? "PATH").getD Host.standardSearch)).map fun directory =>
        Host.Path.join (if directory.isEmpty then ['.'] else directory) name
  paths.filter fun path =>
    match w.files.lookUp path with
    | .ok (_, .tool _) | .ok (_, .file _ true) => true
    | _ => false

/-- Prints where programs are. -/
def which : Body :=
  withOptions { letters := "as", words := [], stopping := true } 2 fun a w =>
    if a.operands.isEmpty then w.withCode 1
    else
      a.operands.foldl (fun w name =>
        match programPaths w name with
        | [] => w.withCode 1
        | path :: others =>
          let shown := if a.has 'a' then path :: others else [path]
          if a.has 's' then w else w.print (shown.flatMap fun p => p ++ ['\n'])) w

/-- Prints the directory. -/
def pwd : Body :=
  withOptions
    { letters := "LP", words := [("logical", 'L'), ("physical", 'P')], stopping := false } 1
    fun a w =>
    let known := (w.env.get? "PWD").filter fun path =>
      a.has 'L' && (w.files.locate path).toOption == some w.files.here
    w.print (known.getD (pathOf w.files.here) ++ ['\n'])

end Hotkeys.Tools
