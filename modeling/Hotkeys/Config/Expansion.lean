import Hotkeys.Config.Normal
import Hotkeys.Config.Template
import Hotkeys.Text.Blank
import Hotkeys.Text.Numeral

/-!
# Expansion

A pair with groups stands for many pairs.  A member `X-Y` of a binding group is a range and stands
for its characters one after the other, while the command member beside it counts along or stays.
Ranges are resolved first, each multiplying the candidates; every candidate then yields one pair
for each choice of one member from each group, the first group varying slowest.  Of two pairs for
the same chord the first stays.
-/

set_option autoImplicit false

namespace Hotkeys.Config

/-- Why the groups of a pair cannot be expanded. -/
inductive ExpansionError where
  /-- Binding and command have different numbers of groups. -/
  | groupCount (binding command : Nat)
  /-- The group with this index, counted from zero, has different numbers of members. -/
  | memberCount (group : Nat)
  /-- A range does not ascend. -/
  | invalidRange (range : Text)
  /-- The command member beside a range is neither a range nor `_`. -/
  | rangeIndex (member : Text)
  /-- The command range beside a range has another length. -/
  | rangeCardinality (binding command : Text)
  deriving DecidableEq, Repr

/-- The error in words. -/
def ExpansionError.message : ExpansionError → Text
  | .groupCount b c =>
    "the amount of variants in a keybinding (".toList ++ Text.ofNat b ++
      ") and its command (".toList ++ Text.ofNat c ++ ") do not match".toList
  | .memberCount g =>
    "the amount of variant members in group ".toList ++ Text.ofNat g ++
      " of a keybinding and its command do not match".toList
  | .invalidRange r => "invalid range ".toList ++ r
  | .rangeIndex m =>
    "the indexes of ranges for a keybinding and its command do not match (".toList ++ m ++ [')']
  | .rangeCardinality b c =>
    "the ranges of a keybinding (".toList ++ b ++ ") and its command (".toList ++ c ++
      ") do not match".toList

/-! ## Ranges -/

/-- What happens on the command side while a range steps. -/
inductive CommandRange where
  /-- The command member is `_` and stays. -/
  | keep
  /-- The command counts from this number. -/
  | numbers (first : Nat)
  /-- The command goes through the letters from this one. -/
  | letters (first : Char)
  deriving DecidableEq, Repr

/-- A range of a binding and its place among the groups. -/
structure Range where
  /-- Index of the group. -/
  group : Nat
  /-- Index of the member within the group. -/
  member : Nat
  /-- First character of the range. -/
  first : Char
  /-- Number of steps after the first character. -/
  span : Nat
  /-- The command side. -/
  command : CommandRange
  deriving DecidableEq, Repr

/-- The character `i` places behind `c`. -/
def charAfter (c : Char) (i : Nat) : Char :=
  Char.ofNat (c.toNat + i)

/-- The command member at step `i`, unless it stays. -/
def CommandRange.value? (i : Nat) : CommandRange → Option Text
  | .keep => none
  | .numbers first => some (Text.ofNat (first + i))
  | .letters first => some [charAfter first i]

/-- The ends of a range member: two ASCII digits or two small ASCII letters around a `-`. -/
def rangeEnds? (member : Text) : Option (Char × Char) :=
  match Text.trim member with
  | [a, mark, b] =>
    if mark = '-' ∧ ((a.isDigit ∧ b.isDigit) ∨ (a.isLower ∧ b.isLower)) then some (a, b)
    else none
  | _ => none

/-- The member that stands for nothing. -/
def isBlankMember (member : Text) : Bool :=
  Text.trim member == ['_']

/-- The largest number that a command range may hold. -/
def maxCommandNumber : Nat := 0x7fffffffffffffff

/-- The value of a decimal numeral that a command range may hold. -/
def commandNumber? (t : Text) : Option Nat :=
  (Text.numeral? 10 t).filter (· ≤ maxCommandNumber)

/-- Whether a text is a decimal numeral. -/
def isNumeral (t : Text) : Bool :=
  !t.isEmpty && t.all Char.isDigit

/-- The ends of a command range as a range and its number of steps, which is negative for a range
that descends. -/
def commandEnds? (low high : Text) : Option (CommandRange × Int) :=
  if isNumeral low && isNumeral high then
    match commandNumber? low, commandNumber? high with
    | some l, some h => some (.numbers l, (h : Int) - l)
    | _, _ => none
  else
    match low, high with
    | [a], [b] =>
      if a.isLower && b.isLower then some (.letters a, (b.toNat : Int) - a.toNat) else none
    | _, _ => none

/-- The command side of a range of `span` steps. -/
def commandRange (binding member : Text) (span : Nat) : Except ExpansionError CommandRange :=
  let shown := Text.trim member
  if isBlankMember member then .ok .keep
  else
    match (Text.splitFirst '-' shown).bind fun ends => commandEnds? ends.1 ends.2 with
    | none => .error (.rangeIndex shown)
    | some (range, steps) =>
      if steps = span then .ok range
      else .error (.rangeCardinality (Text.trim binding) shown)

/-- The range at a place, if the binding member there is one. -/
def rangeAt (group member : Nat) (binding command : Text) :
    Except ExpansionError (Option Range) :=
  match rangeEnds? binding with
  | none => .ok none
  | some (a, b) =>
    if b ≤ a then .error (.invalidRange (Text.trim binding))
    else do
      let span := b.toNat - a.toNat
      let beside ← commandRange binding command span
      return some { group, member, first := a, span, command := beside }

/-- The ranges of the members of one group from index `member` on. -/
def groupRanges (group member : Nat) : (binding command : List Text) →
    Except ExpansionError (List Range)
  | b :: bs, c :: cs => do
    let here ← rangeAt group member b c
    let rest ← groupRanges group (member + 1) bs cs
    return here.toList ++ rest
  | _, _ => .ok []

/-- The ranges of the groups from index `group` on, group by group and member by member. -/
def rangesFrom (group : Nat) : (binding command : List (List Text)) →
    Except ExpansionError (List Range)
  | b :: bs, c :: cs => do
    let here ← groupRanges group 0 b c
    let rest ← rangesFrom (group + 1) bs cs
    return here ++ rest
  | _, _ => .ok []

/-! ## Candidates -/

/-- The groups of a binding and of its command. -/
structure Candidate where
  /-- Groups of the binding. -/
  binding : List (List Text)
  /-- Groups of the command. -/
  command : List (List Text)
  deriving DecidableEq, Repr

/-- Groups with one member replaced. -/
def replaceMember (groups : List (List Text)) (group member : Nat) (value : Text) :
    List (List Text) :=
  groups.modify group fun members => members.set member value

/-- The candidate in which a range stands at step `i`. -/
def Range.assign (r : Range) (c : Candidate) (i : Nat) : Candidate :=
  { binding := replaceMember c.binding r.group r.member [charAfter r.first i]
    command :=
      match r.command.value? i with
      | some value => replaceMember c.command r.group r.member value
      | none => c.command }

/-- The candidates without ranges that a candidate stands for; the first range steps slowest. -/
def resolve : List Range → Candidate → List Candidate
  | [], c => [c]
  | r :: rs, c => (List.range (r.span + 1)).flatMap fun i => resolve rs (r.assign c i)

/-! ## Choices -/

/-- Every choice of an index below each size, in lexicographic order. -/
def choices : (sizes : List Nat) → List (List Nat)
  | [] => [[]]
  | n :: ns => (List.range n).flatMap fun k => (choices ns).map fun ks => k :: ks

/-- What a member contributes: the member `_` contributes nothing. -/
def memberValue (member : Text) : Text :=
  if isBlankMember member then [] else member

/-- The members that a choice picks from the groups. -/
def pick (groups : List (List Text)) (choice : List Nat) : List Text :=
  List.zipWith (fun members k => memberValue ((members[k]?).getD [])) groups choice

/-- Each pair of equal neighbours `cc` replaced by one, from left to right. -/
def halveRuns (c : Char) : Text → Text
  | a :: b :: rest =>
    if a = c ∧ b = c then c :: halveRuns c rest else a :: halveRuns c (b :: rest)
  | rest => rest

/-- A binding in which no separator stands twice in a row. -/
def collapse (binding : Text) : Text :=
  let halved := halveRuns '-' (halveRuns '+' binding)
  if halved.length < binding.length then collapse halved else binding
  termination_by binding.length

/-- The pairs of a candidate without ranges. -/
def candidatePairs (binding command : Template) (line : Nat) (c : Candidate) : List Pair :=
  (choices (c.binding.map List.length)).map fun choice =>
    { binding := collapse (binding.render (pick c.binding choice))
      command := command.render (pick c.command choice)
      line }

/-! ## Expansion -/

/-- The elements whose key is neither in `seen` nor the key of an earlier element. -/
def firstsFrom {α : Type} (key : α → Text) : (seen : List Text) → List α → List α
  | _, [] => []
  | seen, a :: as =>
    if seen.contains (key a) then firstsFrom key seen as
    else a :: firstsFrom key (key a :: seen) as

/-- The first element of each key, in order. -/
def firsts {α : Type} (key : α → Text) (elements : List α) : List α :=
  firstsFrom key [] elements

/-- The index of the first place where two lists of groups differ in their numbers of members. -/
def unevenGroup? : (binding command : List (List Text)) → Option Nat
  | b :: bs, c :: cs =>
    if b.length = c.length then (unevenGroup? bs cs).map (· + 1) else some 0
  | _, _ => none

/-- Every pair that a pair with groups stands for, in order, with repeated chords. -/
def allPairs (p : Pair) : Except ExpansionError (List Pair) :=
  let binding := Template.ofText p.binding
  let command := Template.ofText p.command
  let bs := binding.groups
  let cs := command.groups
  if bs.length ≠ cs.length then .error (.groupCount bs.length cs.length)
  else
    match unevenGroup? bs cs with
    | some group => .error (.memberCount group)
    | none => do
      let ranges ← rangesFrom 0 bs cs
      return (resolve ranges { binding := bs, command := cs }).flatMap
        (candidatePairs binding command p.line)

/-- The pairs that a pair stands for.  A pair without groups stands for itself. -/
def expand (p : Pair) : Except ExpansionError (List Pair) :=
  if p.hasVariant ∧ (Template.ofText p.binding).groups ≠ [] then
    (allPairs p).map (firsts fun q => normalText q.binding)
  else .ok [p]

end Hotkeys.Config
