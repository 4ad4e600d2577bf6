import Hotkeys.Shell.CountedCondition
import Hotkeys.Shell.Tracing
import Hotkeys.Text.Regex

/-!
# Deciding trials

How the conditions between double brackets are decided.
-/

set_option autoImplicit false

namespace Hotkeys.Shell

open Hotkeys.Text (Regex)

/-- A regular expression that segments are: quoted letters stand for themselves. -/
def regexText (segments : List Segment) : Text :=
  segments.flatMap fun s =>
    match s with
    | .text true _ t =>
      t.flatMap fun c => if c.isAlphanum || c == ' ' || c == '_' then [c] else ['\\', c]
    | .text false _ t => t
    | .cut => []

/-- The state after a search: its matches are remembered in a list. -/
def State.remember (st : State) (m : Option Regex.Match) (groups : Nat) : State :=
  let matched :=
    match m with
    | some m => (List.range (groups + 1)).map m.group
    | none => []
  st.setList "BASH_REMATCH".toList matched

/-- Decides a condition about two words, unless it makes no sense. -/
def tryTwo (r : WordReader) (first : Word) (operator : Text) (second : Word) :
    Reading (Option Bool) := fun st =>
  let (a, st) := r.text first st
  let shown (b : Text) (st : State) : State :=
    traceWords r ("[[ ".toList ++ shownWord a ++ ' ' :: operator ++ ' ' :: b ++ " ]]".toList) st
  match String.ofList operator with
  | "=" | "==" | "!=" =>
    let (segments, st) := r.segments second st
    let st := shown (textOf segments) st
    (some ((patternOf st.dialect segments).fits a == (operator != "!=".toList)), st)
  | "=~" =>
    let (segments, st) := r.segments second st
    let st := shown (textOf segments) st
    match Regex.parse .extended (regexText segments) with
    | .ok (form, groups) =>
      let found := Regex.search false form a
      (some found.isSome, st.remember found groups)
    | .error _ => (none, st)
  | _ =>
    let (b, st) := r.text second st
    let st := shown (shownWord b) st
    if ["-eq", "-ne", "-lt", "-le", "-gt", "-ge"].any fun o => operator == o.toList then
      let (x, st) := r.number a st
      let (y, st) := r.number b st
      let holds : Bool :=
        match String.ofList operator with
        | "-eq" => x == y
        | "-ne" => x != y
        | "-lt" => decide (x < y)
        | "-le" => decide (x ≤ y)
        | "-gt" => decide (y < x)
        | _ => decide (y ≤ x)
      (if st.goesOn then some holds else none, st)
    else
      match decideTwo .bash st.files a operator b with
      | .ok holds => (some holds, st)
      | .error fault => (none, st.complain r.line (fault.message .bash))

/-- Decides a trial, unless a part of it makes no sense. -/
def Trial.holds (r : WordReader) : Trial → Reading (Option Bool)
  | .one operator operand, st =>
    let (t, st) := r.text operand st
    let st :=
      traceWords r ("[[ ".toList ++ operator ++ ' ' :: shownWord t ++ " ]]".toList) st
    let ground : Ground := { files := st.files, isSet := some fun name => (st.get? name).isSome }
    (some ((ground.one operator t).getD false), st)
  | .two first operator second, st => tryTwo r first operator second st
  | .negated t, st =>
    let (holds, st) := t.holds r st
    (holds.map Bool.not, st)
  | .both a b, st =>
    let (holds, st) := a.holds r st
    if holds = some true then b.holds r st else (holds, st)
  | .either a b, st =>
    let (holds, st) := a.holds r st
    if holds = some false then b.holds r st else (holds, st)

end Hotkeys.Shell
