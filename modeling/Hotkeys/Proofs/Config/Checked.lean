import Hotkeys.Proofs.Config.Failing
import Hotkeys.Proofs.Config.Odometer
import Hotkeys.Proofs.Text.Slices

/-!
# Expansion with checks

A second way to expand a pair, step by step with the indices, places and machine numbers that it
takes.  Everything that could go wrong on the way is checked.  A computation has no value (`none`)
if an index is out of range, if a text is cut inside of a character or behind its end, if a number
does not fit where it has to (a byte, or a signed word of 64 bits), or if a loop does not end.  How
much memory there is makes no difference here.

Each part comes to what the expansion comes to: `parse?_eq` for templates, `rangesFrom?_eq` for
ranges, `collapse?_eq` for the separators.
-/

set_option autoImplicit false

namespace Hotkeys.Config

open Text.Utf8 (size)

/-! ## Machine numbers -/

/-- A number as a byte. -/
def byte? (n : Nat) : Option Nat :=
  if n ≤ 0xff then some n else none

/-- A number as a signed word of 64 bits. -/
def word? (n : Int) : Option Int :=
  if -0x8000000000000000 ≤ n ∧ n ≤ 0x7fffffffffffffff then some n else none

theorem byte?_of_le {n : Nat} (h : n ≤ 0xff) : byte? n = some n :=
  if_pos h

theorem word?_of_le {n : Nat} (h : n ≤ maxCommandNumber) : word? n = some (n : Int) := by
  unfold maxCommandNumber at h
  exact if_pos (by omega)

/-! ## Templates -/

/-- Reads a group from behind its opening brace on.  It comes with the place behind its closing
brace. -/
def scanGroup (members : List Text) (current : Text) (place : Nat) :
    Text → Option (List Text × Nat)
  | [] => none
  | c :: cs =>
    if c = '\\' then
      match cs with
      | [] => none
      | d :: ds => scanGroup members (current ++ [c, d]) (place + c.utf8Size + d.utf8Size) ds
    else if c = ',' then scanGroup (members ++ [current]) [] (place + c.utf8Size) cs
    else if c = '}' then some (members ++ [current], place + 1)
    else if c = '\n' then none
    else scanGroup members (current ++ [c]) (place + c.utf8Size) cs

/-- Ordinary text as a template of its own, unless there is none. -/
def flush (lead : Text) : Template :=
  if lead = [] then [] else [.text lead]

/-- A template that is being read. -/
structure Reading where
  /-- The segments that are behind. -/
  segments : Template
  /-- The ordinary text behind the last of them. -/
  lead : Text
  /-- The text ahead. -/
  ahead : Text

/-- Reads a group or a character.  Behind a group it goes on at the place that the group comes
with. -/
def Reading.round? (r : Reading) : Option (Round Reading Template) :=
  match r.ahead with
  | [] => some (.done (r.segments ++ flush r.lead))
  | c :: cs =>
    if c = '\\' then
      match cs with
      | [] => some (.again { r with lead := r.lead ++ [c], ahead := [] })
      | d :: ds => some (.again { r with lead := r.lead ++ [c, d], ahead := ds })
    else if c = '{' then
      match scanGroup [] [] 0 cs with
      | some (members, place) => do
        let ahead ← Text.slice? cs place (size cs)
        return .again
          { segments := r.segments ++ flush r.lead ++ [.group members], lead := [], ahead }
      | none => some (.again { r with lead := r.lead ++ [c], ahead := cs })
    else some (.again { r with lead := r.lead ++ [c], ahead := cs })

/-- Reads a template. -/
noncomputable def parse? (t : Text) : Option Template :=
  loop? Reading.round? { segments := [], lead := [], ahead := t }

theorem extendFirst_extendFirst (s t : Text) (members : List Text) :
    extendFirst s (extendFirst t members) = extendFirst (s ++ t) members := by
  cases members with
  | nil => rfl
  | cons m ms => simp only [extendFirst, List.append_assoc]

theorem extendFirst_nil {members : List Text} (h : members ≠ []) :
    extendFirst [] members = members := by
  obtain ⟨m, ms, rfl⟩ := List.exists_cons_of_ne_nil h
  rfl

theorem scanGroup_eq_none {t : Text} (h : readGroup t = none) (members : List Text)
    (current : Text) (place : Nat) : scanGroup members current place t = none := by
  fun_induction readGroup t generalizing members current place with
  | case1 => rfl
  | case2 => rfl
  | case3 d ds ih =>
      unfold scanGroup
      exact ih (Option.map_eq_none_iff.mp h) _ _ _
  | case4 cs _ ih =>
      unfold scanGroup
      exact ih (Option.map_eq_none_iff.mp h) _ _ _
  | case5 => exact absurd h (Option.some_ne_none _)
  | case6 cs =>
      unfold scanGroup
      rw [if_neg (by decide), if_neg (by decide), if_neg (by decide), if_pos rfl]
  | case7 c cs hescape hcomma hclosing hnewline ih =>
      unfold scanGroup
      rw [if_neg hescape, if_neg hcomma, if_neg hclosing, if_neg hnewline]
      exact ih (Option.map_eq_none_iff.mp h) _ _ _

/-- The place that a group comes with is the one where what follows the group begins. -/
theorem scanGroup_eq_some {t : Text} {g : List Text × Text} (h : readGroup t = some g)
    (members : List Text) (current : Text) (place : Nat) :
    ∃ body, t = body ++ g.2 ∧
      scanGroup members current place t =
        some (members ++ extendFirst current g.1, place + size body) := by
  fun_induction readGroup t generalizing g members current place with
  | case1 => exact absurd h.symm (Option.some_ne_none _)
  | case2 => exact absurd h.symm (Option.some_ne_none _)
  | case3 d ds ih =>
      obtain ⟨g, hg, rfl⟩ := Option.map_eq_some_iff.mp h
      obtain ⟨body, rfl, hscan⟩ := ih hg members (current ++ ['\\', d])
        (place + '\\'.utf8Size + d.utf8Size)
      refine ⟨'\\' :: d :: body, rfl, ?_⟩
      unfold scanGroup
      rw [if_pos rfl]
      dsimp only
      rw [hscan, extendFirst_extendFirst, Text.Utf8.size_cons, Text.Utf8.size_cons, Nat.add_assoc,
        Nat.add_assoc]
  | case4 cs _ ih =>
      obtain ⟨g, hg, rfl⟩ := Option.map_eq_some_iff.mp h
      obtain ⟨body, rfl, hscan⟩ := ih hg (members ++ [current]) [] (place + ','.utf8Size)
      refine ⟨',' :: body, rfl, ?_⟩
      unfold scanGroup
      rw [if_neg (by decide), if_pos rfl, hscan, extendFirst_nil (ne_nil_of_readGroup hg),
        Text.Utf8.size_cons, Nat.add_assoc]
      simp only [extendFirst, List.append_nil, List.append_assoc, List.singleton_append]
  | case5 cs =>
      cases h
      refine ⟨['}'], rfl, ?_⟩
      unfold scanGroup
      simp only [extendFirst, List.append_nil]
      rfl
  | case6 => exact absurd h.symm (Option.some_ne_none _)
  | case7 c cs hescape hcomma hclosing hnewline ih =>
      obtain ⟨g, hg, rfl⟩ := Option.map_eq_some_iff.mp h
      obtain ⟨body, rfl, hscan⟩ := ih hg members (current ++ [c]) (place + c.utf8Size)
      refine ⟨c :: body, rfl, ?_⟩
      unfold scanGroup
      rw [if_neg hescape, if_neg hcomma, if_neg hclosing, if_neg hnewline, hscan,
        extendFirst_extendFirst, Text.Utf8.size_cons, Nat.add_assoc]

/-- Ordinary text in front of a template, if there is any. -/
def Template.behind (lead : Text) (t : Template) : Template :=
  if lead = [] then t else t.extend lead

theorem Template.behind_extend (s : Text) {t : Text} (ht : t ≠ []) (template : Template) :
    (template.extend t).behind s = template.behind (s ++ t) := by
  unfold behind
  rw [if_neg (List.append_ne_nil_of_right_ne_nil s ht)]
  by_cases hs : s = []
  · rw [if_pos hs, hs, List.nil_append]
  · rw [if_neg hs]
    unfold extend
    cases template with
    | nil => rfl
    | cons segment rest =>
        cases segment with
        | text u => simp only [List.append_assoc]
        | group members => rfl

theorem Template.behind_nil (t : Template) : t.behind [] = t :=
  if_pos rfl

theorem Template.behind_group (lead : Text) (members : List Text) (t : Template) :
    Template.behind lead (.group members :: t) = flush lead ++ .group members :: t := by
  unfold behind flush
  split <;> rfl

/-- A group is read up to its closing brace, and what is ahead then is cut off there. -/
theorem Reading.round?_group (segments : Template) (lead : Text) {cs rest : Text}
    {members : List Text} (hread : readGroup cs = some (members, rest)) :
    round? ⟨segments, lead, '{' :: cs⟩ =
      some (.again ⟨segments ++ flush lead ++ [.group members], [], rest⟩) := by
  obtain ⟨body, hbody, hscan⟩ := scanGroup_eq_some hread [] [] 0
  have hslice : Text.slice? cs (0 + size body) (size cs) = some rest := by
    have hrest := Text.slice?_append body rest []
    rwa [List.append_nil, ← Text.Utf8.size_append, ← hbody, ← Nat.zero_add (size body)] at hrest
  unfold round?
  dsimp only
  rw [if_neg (by decide), if_pos rfl, hscan, extendFirst_nil (ne_nil_of_readGroup hread)]
  dsimp only
  rw [hslice]
  rfl

/-- Where no group closes, a brace is ordinary text. -/
theorem Reading.round?_lone (segments : Template) (lead : Text) {cs : Text}
    (hread : readGroup cs = none) :
    round? ⟨segments, lead, '{' :: cs⟩ = some (.again ⟨segments, lead ++ ['{'], cs⟩) := by
  unfold round?
  dsimp only
  rw [if_neg (by decide), if_pos rfl, scanGroup_eq_none hread]

/-- What is ahead is read as a template of its own, joined to the text in front of it. -/
theorem loop?_reading (segments : Template) (lead t : Text) :
    loop? Reading.round? ⟨segments, lead, t⟩ =
      some (segments ++ (Template.ofText t).behind lead) := by
  fun_induction Template.ofText t generalizing segments lead with
  | case1 =>
      rw [loop?_of_done rfl]
      unfold Template.behind flush
      split <;> rfl
  | case2 =>
      have hlead : lead ++ ['\\'] ≠ [] :=
        List.append_ne_nil_of_right_ne_nil _ (List.cons_ne_nil _ _)
      rw [loop?_of_again rfl, loop?_of_done rfl,
        Template.behind_extend lead (List.cons_ne_nil _ _)]
      unfold Template.behind flush
      rw [if_neg hlead, if_neg hlead]
      rfl
  | case3 d ds ih =>
      rw [loop?_of_again rfl, ih, Template.behind_extend lead (List.cons_ne_nil _ _)]
  | case4 cs members rest hread _ ih =>
      rw [loop?_of_again (Reading.round?_group segments lead hread), ih, Template.behind_nil,
        Template.behind_group]
      simp only [List.append_assoc, List.singleton_append]
  | case5 cs hread _ ih =>
      rw [loop?_of_again (Reading.round?_lone segments lead hread), ih,
        Template.behind_extend lead (List.cons_ne_nil _ _)]
  | case6 c cs hescape hopening ih =>
      have hround : Reading.round? ⟨segments, lead, c :: cs⟩ =
          some (.again ⟨segments, lead ++ [c], cs⟩) := by
        unfold Reading.round?
        dsimp only
        rw [if_neg hescape, if_neg hopening]
      rw [loop?_of_again hround, ih, Template.behind_extend lead (List.cons_ne_nil _ _)]

/-- Templates are read without a cut inside of a character. -/
theorem parse?_eq (t : Text) : parse? t = some (Template.ofText t) := by
  rw [parse?, loop?_reading, List.nil_append, Template.behind_nil]

/-! ## Ranges -/

/-- The command side of a range of `span` steps.  Its own number of steps is a signed word. -/
def commandRange? (binding member : Text) (span : Nat) :
    Option (Except ExpansionError CommandRange) :=
  let shown := Text.trim member
  if isBlankMember member then some (.ok .keep)
  else
    match (Text.splitFirst '-' shown).bind fun ends => commandEnds? ends.1 ends.2 with
    | none => some (.error (.rangeIndex shown))
    | some (range, steps) => do
      let steps ← word? steps
      if steps = span then return .ok range
      else return .error (.rangeCardinality (Text.trim binding) shown)

/-- The range at a place, if the binding member there is one.  Its ends are bytes, and so is their
difference. -/
def rangeAt? (group member : Nat) (binding command : Text) :
    Option (Except ExpansionError (Option Range)) :=
  match rangeEnds? binding with
  | none => some (.ok none)
  | some (a, b) => do
    let low ← byte? a.toNat
    let high ← byte? b.toNat
    if high ≤ low then return .error (.invalidRange (Text.trim binding))
    else
      let span ← minus? high low
      let beside ← commandRange? binding command span
      return beside.map fun beside => some { group, member, first := a, span, command := beside }

/-- The ranges of the members of one group from index `member` on. -/
def groupRanges? (group member : Nat) : (binding command : List Text) →
    Option (Except ExpansionError (List Range))
  | b :: bs, c :: cs => do
    match ← rangeAt? group member b c with
    | .error e => return .error e
    | .ok here => return (← groupRanges? group (member + 1) bs cs).map (here.toList ++ ·)
  | _, _ => some (.ok [])

/-- The ranges of the groups from index `group` on. -/
def rangesFrom? (group : Nat) : (binding command : List (List Text)) →
    Option (Except ExpansionError (List Range))
  | b :: bs, c :: cs => do
    match ← groupRanges? group 0 b c with
    | .error e => return .error e
    | .ok here => return (← rangesFrom? (group + 1) bs cs).map (here ++ ·)
  | _, _ => some (.ok [])

/-- The steps of a command range are a signed word, whichever end is the larger one. -/
theorem word?_of_commandEnds? {low high : Text} {range : CommandRange} {steps : Int}
    (h : commandEnds? low high = some (range, steps)) : word? steps = some steps := by
  have hword : -0x8000000000000000 ≤ steps ∧ steps ≤ 0x7fffffffffffffff := by
    unfold commandEnds? at h
    split at h
    case isTrue =>
      split at h
      case h_1 l r hl hr =>
        cases h
        have hlow := of_decide_eq_true (Option.filter_eq_some_iff.mp hl).2
        have hhigh := of_decide_eq_true (Option.filter_eq_some_iff.mp hr).2
        unfold maxCommandNumber at hlow hhigh
        omega
      case h_2 => exact absurd h.symm (Option.some_ne_none _)
    case isFalse =>
      split at h
      case h_1 a b _ =>
        obtain ⟨hletters, hends⟩ := Option.ite_none_right_eq_some.mp h
        cases hends
        rw [Bool.and_eq_true, Text.isLower_iff, Text.isLower_iff] at hletters
        omega
      case h_2 => exact absurd h.symm (Option.some_ne_none _)
  exact if_pos hword

theorem commandRange?_eq (binding member : Text) (span : Nat) :
    commandRange? binding member span = some (commandRange binding member span) := by
  unfold commandRange? commandRange
  by_cases hblank : isBlankMember member
  · rw [if_pos hblank, if_pos hblank]
  · rw [if_neg hblank, if_neg hblank]
    cases hfound : (Text.splitFirst '-' (Text.trim member)).bind
        fun ends => commandEnds? ends.1 ends.2 with
    | none => rfl
    | some found =>
        obtain ⟨ends, -, hends⟩ := Option.bind_eq_some_iff.mp hfound
        dsimp only
        rw [word?_of_commandEnds? hends, Option.bind_eq_bind, Option.bind_some]
        split <;> rfl

/-- The ends of a range are ASCII characters. -/
theorem SameClass.ascii {low high : Char} (h : SameClass low high) :
    low.toNat ≤ 0x7f ∧ high.toNat ≤ 0x7f := by
  rw [SameClass, Text.isDigit_iff, Text.isDigit_iff, Text.isLower_iff, Text.isLower_iff] at h
  omega

theorem rangeAt?_eq (group member : Nat) (binding command : Text) :
    rangeAt? group member binding command = some (rangeAt group member binding command) := by
  unfold rangeAt? rangeAt
  cases hends : rangeEnds? binding with
  | none => rfl
  | some ends =>
      obtain ⟨low, high⟩ := ends
      obtain ⟨hlow, hhigh⟩ := (sameClass_of_rangeEnds? hends).ascii
      dsimp only
      rw [byte?_of_le (by omega), byte?_of_le (by omega)]
      simp only [Option.bind_eq_bind, Option.bind_some]
      by_cases hascends : high ≤ low
      · rw [if_pos hascends, if_pos (show high.toNat ≤ low.toNat from hascends)]
        rfl
      · have hlt : low.toNat < high.toNat := Char.not_le.mp hascends
        rw [if_neg hascends, if_neg (Nat.not_le.mpr hlt), minus?_of_le hlt.le, Option.bind_some,
          commandRange?_eq, Option.bind_some]
        cases commandRange binding command (high.toNat - low.toNat) <;> rfl

theorem groupRanges?_eq (group member : Nat) (bs cs : List Text) :
    groupRanges? group member bs cs = some (groupRanges group member bs cs) := by
  fun_induction groupRanges group member bs cs with
  | case1 member b bs c cs ih =>
      rw [groupRanges?, rangeAt?_eq, ih, Option.bind_eq_bind, Option.bind_some]
      cases rangeAt group member b c with
      | error e => rfl
      | ok here => cases groupRanges group (member + 1) bs cs <;> rfl
  | case2 => rw [groupRanges?]; assumption

theorem rangesFrom?_eq (group : Nat) (bs cs : List (List Text)) :
    rangesFrom? group bs cs = some (rangesFrom group bs cs) := by
  fun_induction rangesFrom group bs cs with
  | case1 group b bs c cs ih =>
      rw [rangesFrom?, groupRanges?_eq, ih, Option.bind_eq_bind, Option.bind_some]
      cases groupRanges group 0 b c with
      | error e => rfl
      | ok here => cases rangesFrom (group + 1) bs cs <;> rfl
  | case2 => rw [rangesFrom?]; assumption

/-! ## The place of a range -/

/-- Whether a command range of `span` steps is the one that its member writes, and none of its steps
is above the upper end that is written there. -/
def CommandRange.StaysBelow (span : Nat) (member : Text) : CommandRange → Prop
  | .keep => Text.trim member = ['_']
  | .numbers first =>
    ∃ low high last, Text.trim member = low ++ '-' :: high ∧ Text.numeral? 10 low = some first ∧
      Text.numeral? 10 high = some last ∧ last ≤ maxCommandNumber ∧ ∀ i ≤ span, first + i ≤ last
  | .letters first =>
    ∃ high, Text.trim member = [first, '-', high] ∧ first.isLower ∧ high.isLower ∧
      ∀ i ≤ span, first.toNat + i ≤ high.toNat

/-- Whether groups have a member with a property at a place. -/
def HasMember (groups : List (List Text)) (group member : Nat) (property : Text → Prop) : Prop :=
  ∃ members found, groups[group]? = some members ∧ members[member]? = some found ∧ property found

/-- Whether a range stands in the groups of a binding and of a command.  It has its place on both
sides, and none of its steps is above the upper ends that are written there. -/
structure Range.StandsIn (r : Range) (bs cs : List (List Text)) : Prop where
  /-- The binding member. -/
  binding : HasMember bs r.group r.member fun member =>
    ∃ high, IsRange member r.first high ∧ ∀ i ≤ r.span, r.first.toNat + i ≤ high.toNat
  /-- The command member. -/
  command : HasMember cs r.group r.member fun member => r.command.StaysBelow r.span member

theorem CommandRange.staysBelow_of_commandRange {binding member : Text} {span : Nat}
    {range : CommandRange} (h : commandRange binding member span = .ok range) :
    range.StaysBelow span member := by
  rcases commandRange_cases h with ⟨hblank, rfl⟩ | ⟨-, low, high, hsplit, hends⟩
  · exact beq_iff_eq.mp hblank
  · obtain ⟨-, hmember⟩ := Text.splitFirst_eq_some_iff.mp hsplit
    rcases commandEnds?_cases hends with
      ⟨first, rfl, hlow, hhigh, hlargest⟩ | ⟨a, b, rfl, rfl, rfl, ha, hb, hspan⟩
    · exact ⟨low, high, first + span, hmember, hlow, hhigh, hlargest,
        fun i hi => Nat.add_le_add_left hi first⟩
    · exact ⟨b, hmember, ha, hb, fun i hi => by omega⟩

/-- The range found at a place of groups stands in them. -/
theorem Range.standsIn_of_rangeAt {bs cs : List (List Text)} {group member : Nat}
    {binding command : List Text} {b c : Text} {r : Range} (hbs : bs[group]? = some binding)
    (hcs : cs[group]? = some command) (hb : binding[member]? = some b)
    (hc : command[member]? = some c) (h : rangeAt group member b c = .ok (some r)) :
    r.StandsIn bs cs := by
  unfold rangeAt at h
  split at h
  case h_1 => cases h
  case h_2 low high hends =>
    split at h
    case isTrue => cases h
    case isFalse hascends =>
      obtain ⟨range, hrange, hr⟩ := exists_of_bind_eq_ok h
      cases hr
      have hlt : low.toNat < high.toNat := Char.not_le.mp hascends
      refine ⟨⟨binding, b, hbs, hb, high, rangeEnds?_eq_some_iff.mp hends, fun i hi => ?_⟩,
        command, c, hcs, hc, CommandRange.staysBelow_of_commandRange hrange⟩
      dsimp only at hi ⊢
      omega

theorem mem_groupRanges {group member : Nat} {bs cs : List Text} {ranges : List Range}
    (h : groupRanges group member bs cs = .ok ranges) {r : Range} (hr : r ∈ ranges) :
    ∃ m b c, bs[m]? = some b ∧ cs[m]? = some c ∧
      rangeAt group (member + m) b c = .ok (some r) := by
  fun_induction groupRanges group member bs cs generalizing ranges with
  | case1 member b bs c cs ih =>
      obtain ⟨here, hhere, h⟩ := exists_of_bind_eq_ok h
      obtain ⟨rest, hrest, h⟩ := exists_of_bind_eq_ok h
      cases h
      rcases List.mem_append.mp hr with hr | hr
      · rw [Option.mem_toList] at hr
        exact ⟨0, b, c, rfl, rfl, hr ▸ hhere⟩
      · obtain ⟨m, b', c', hb, hc, hat⟩ := ih hrest hr
        refine ⟨m + 1, b', c', hb, hc, ?_⟩
        rwa [Nat.add_right_comm, Nat.add_assoc] at hat
  | case2 =>
      cases h
      exact absurd hr List.not_mem_nil

theorem mem_rangesFrom {group : Nat} {bs cs : List (List Text)} {ranges : List Range}
    (h : rangesFrom group bs cs = .ok ranges) {r : Range} (hr : r ∈ ranges) :
    ∃ g binding command, bs[g]? = some binding ∧ cs[g]? = some command ∧
      ∃ m b c, binding[m]? = some b ∧ command[m]? = some c ∧
        rangeAt (group + g) m b c = .ok (some r) := by
  fun_induction rangesFrom group bs cs generalizing ranges with
  | case1 group b bs c cs ih =>
      obtain ⟨here, hhere, h⟩ := exists_of_bind_eq_ok h
      obtain ⟨rest, hrest, h⟩ := exists_of_bind_eq_ok h
      cases h
      rcases List.mem_append.mp hr with hr | hr
      · obtain ⟨m, b', c', hb, hc, hat⟩ := mem_groupRanges hhere hr
        rw [Nat.zero_add] at hat
        exact ⟨0, b, c, rfl, rfl, m, b', c', hb, hc, hat⟩
      · obtain ⟨g, binding, command, hbs, hcs, m, b', c', hb, hc, hat⟩ := ih hrest hr
        refine ⟨g + 1, binding, command, hbs, hcs, m, b', c', hb, hc, ?_⟩
        rwa [Nat.add_right_comm, Nat.add_assoc] at hat
  | case2 =>
      cases h
      exact absurd hr List.not_mem_nil

/-- Each range of groups stands in them. -/
theorem Range.standsIn_of_mem {bs cs : List (List Text)} {ranges : List Range}
    (h : rangesFrom 0 bs cs = .ok ranges) : ∀ r ∈ ranges, r.StandsIn bs cs := by
  intro r hr
  obtain ⟨g, binding, command, hbs, hcs, m, b, c, hb, hc, hat⟩ := mem_rangesFrom h hr
  rw [Nat.zero_add] at hat
  exact Range.standsIn_of_rangeAt hbs hcs hb hc hat

end Hotkeys.Config
