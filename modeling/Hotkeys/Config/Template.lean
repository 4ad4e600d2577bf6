import Hotkeys.Text.Basic

/-!
# Templates

A binding or a command with its brace groups located.  A backslash takes its next character with
it, inside a group and outside; a brace that opens no group on its own line is ordinary text.
-/

set_option autoImplicit false

namespace Hotkeys.Config

/-- A part of a template. -/
inductive Segment where
  /-- Ordinary text, kept as it is. -/
  | text (t : Text)
  /-- A group; the members keep their escapes. -/
  | group (members : List Text)
  deriving DecidableEq, Repr

/-- The parts of a template, in order. -/
abbrev Template := List Segment

/-! ## Reading a group -/

/-- Puts `lead` in front of the first member. -/
def extendFirst (lead : Text) : List Text → List Text
  | [] => [lead]
  | m :: ms => (lead ++ m) :: ms

/-- The members of the group whose opening brace stands before the text, and what follows its
closing brace; `none` if the group does not close on its line. -/
def readGroup : Text → Option (List Text × Text)
  | [] => none
  | c :: cs =>
    if c = '\\' then
      match cs with
      | [] => none
      | d :: ds => (readGroup ds).map fun g => (extendFirst ['\\', d] g.1, g.2)
    else if c = ',' then (readGroup cs).map fun g => ([] :: g.1, g.2)
    else if c = '}' then some ([[]], cs)
    else if c = '\n' then none
    else (readGroup cs).map fun g => (extendFirst [c] g.1, g.2)

/-- What follows a group is shorter than the text from its first member on. -/
theorem readGroup_length {t : Text} {g : List Text × Text} (h : readGroup t = some g) :
    g.2.length < t.length := by
  fun_induction readGroup t generalizing g with
  | case1 => simp at h
  | case2 => simp at h
  | case3 d ds ih =>
    obtain ⟨g', hg, rfl⟩ := Option.map_eq_some_iff.1 h
    have := ih hg
    simp only [List.length_cons]
    omega
  | case4 cs _ ih =>
    obtain ⟨g', hg, rfl⟩ := Option.map_eq_some_iff.1 h
    have := ih hg
    simp only [List.length_cons]
    omega
  | case5 =>
    obtain rfl := Option.some.inj h
    simp
  | case6 => simp at h
  | case7 _ cs _ _ _ _ ih =>
    obtain ⟨g', hg, rfl⟩ := Option.map_eq_some_iff.1 h
    have := ih hg
    simp only [List.length_cons]
    omega

/-! ## Reading a template -/

/-- Puts ordinary text in front of a template, so that no two texts are neighbours. -/
def Template.extend (lead : Text) : Template → Template
  | .text t :: rest => .text (lead ++ t) :: rest
  | rest => .text lead :: rest

/-- The template of a text. -/
def Template.ofText : Text → Template
  | [] => []
  | c :: cs =>
    if c = '\\' then
      match cs with
      | [] => Template.extend [c] []
      | d :: ds => Template.extend [c, d] (Template.ofText ds)
    else if c = '{' then
      match _h : readGroup cs with
      | some (members, rest) => .group members :: Template.ofText rest
      | none => Template.extend [c] (Template.ofText cs)
    else Template.extend [c] (Template.ofText cs)
  termination_by t => t.length
  decreasing_by
    · simp only [List.length_cons]; omega
    · have : rest.length < cs.length := readGroup_length _h
      simp only [List.length_cons]
      omega
    · simp
    · simp

/-- The members of every group, in order. -/
def Template.groups (t : Template) : List (List Text) :=
  t.filterMap fun
    | .group members => some members
    | .text _ => none

/-! ## Writing a template -/

/-- A member without the backslashes that stand before a brace or a comma. -/
def unescape : Text → Text
  | [] => []
  | c :: cs =>
    if c = '\\' ∧ (cs.head? = some '{' ∨ cs.head? = some '}' ∨ cs.head? = some ',') then unescape cs
    else c :: unescape cs

/-- The text of a template with one pick for each group. -/
def Template.render : Template → (picks : List Text) → Text
  | [], _ => []
  | .text t :: rest, picks => t ++ Template.render rest picks
  | .group _ :: rest, [] => Template.render rest []
  | .group _ :: rest, pick :: picks => unescape pick ++ Template.render rest picks

end Hotkeys.Config
