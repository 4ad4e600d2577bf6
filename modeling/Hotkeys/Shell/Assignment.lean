import Hotkeys.Shell.Tracing

/-!
# Assignments

How names are given values in front of a command or without one.
-/

set_option autoImplicit false

namespace Hotkeys.Shell

/-- A value that was given to a name. -/
structure Given where
  /-- The name. -/
  name : Text
  /-- The value. -/
  value : Text
  deriving DecidableEq, Repr

/-- An element of a list with its index, if a word gives one. -/
def indexed? (w : Word) : Option (Text × Word) :=
  match w with
  | .literal false ('[' :: t) :: rest =>
    (Text.after? "]=".toList (t.dropWhile (· != ']'))).map fun value =>
      (t.takeWhile (· != ']'),
        if value.isEmpty then rest else Piece.literal false value :: rest)
  | _ => none

/-- Gives a list the elements that words stand for, from an index on. -/
def fillList (r : WordReader) (name : Text) : (index : Nat) → List Word → State → State
  | _, [], st => st
  | index, w :: ws, st =>
    match indexed? w with
    | some (position, value) =>
      let (n, st) := r.number position st
      let (t, st) := r.text value st
      fillList r name (n.toNat + 1) ws (st.set (elementName name n.toNat) t)
    | none =>
      let (fields, st) := r.fields [w] st
      let st := fields.zipIdx.foldl (fun st f => st.set (elementName name (index + f.2)) f.1) st
      fillList r name (index + fields.length) ws st

/-- The elements of a list as they are shown. -/
def shownElements (elements : List (Nat × Text)) : Text :=
  '(' :: Text.join [' '] (elements.map fun e => shownWord e.2) ++ [')']

/-- Gives a name what a setting says, and shows that. -/
def assign (r : WordReader) (channel : Option Nat) (s : Setting) : Reading (List Given) :=
  fun st =>
    let (name, st) := r.place s.name st
    if !st.goesOn then ([], st)
    else
      match s.content with
      | .value w =>
        let (new, st) := r.text w st
        let value := (if s.adding then (st.get? name).getD [] else []) ++ new
        if !st.goesOn then ([], st)
        else
          let st := traceSetting r channel s.name s.adding (shownValue new) (st.set name value)
          ([{ name, value }], st)
      | .list ws =>
        let first := if s.adding then ((elementsOf st.values name).getLast?.elim 0 (·.1 + 1)) else 0
        let st := if s.adding then st else st.setList name []
        let st := fillList r name first ws st
        (if st.goesOn then [{ name, value := (st.get? name).getD [] }] else [],
          traceSetting r channel s.name s.adding (shownElements (elementsOf st.values name)) st)

/-- Gives names values, one after the other; `alone` says that no command follows.  A value that is
to stay ends the script, or at least the line; where there is more to offer, a command that follows
is run all the same. -/
def assignAll (r : WordReader) (channel : Option Nat) (alone : Bool) :
    List Setting → Reading (List Given)
  | [], st => ([], st)
  | s :: rest, st =>
    let base := s.name.takeWhile (· != '[')
    if st.fixed.contains base then
      match st.dialect with
      | .plain =>
        let (_, st) := assign r none s st
        ([], if st.goesOn then st.fail r.line (base ++ ": is read only".toList) else st)
      | .bash =>
        let st := st.complain r.line (base ++ ": readonly variable".toList)
        if alone then ([], { st with status := 1, flow := .skipping })
        else assignAll r channel alone rest st
    else
      let (first, st) := assign r channel s st
      if !st.goesOn then ([], st)
      else
        let (others, st) := assignAll r channel alone rest st
        (first ++ others, st)

/-- The state in which names have the values again that they had before. -/
def restoreValues (before after : State) (names : List Text) : State :=
  { after with
    values := names.foldl (fun (values : Values) name =>
      match before.get? name with
      | some value => values.set name value
      | none => values.erase name) after.values
    exported := after.exported.filter (fun name => !names.contains name) ++
      before.exported.filter names.contains }

end Hotkeys.Shell
