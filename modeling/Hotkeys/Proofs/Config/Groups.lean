import Hotkeys.Proofs.Config.Expanded
import Hotkeys.Proofs.Config.Failing
import Hotkeys.Proofs.Config.Scanning

/-!
# Groups of a text

The scanner checks braces byte by byte, and a template locates its groups character by character.
Between the two stands a relation that mentions neither (`HasGroups`): a text has groups if its
braces match, an escape taken with the character behind it.  A line in which the brace check finds
no fault has groups (`exists_hasGroups`).  Where a text has groups, they are those of its template
(`HasGroups.groupTexts_eq`), the template leaves no brace in its ordinary texts and keeps no opening
one (`HasGroups.isPlain`, `HasGroups.readGroup_ne_none`), and the scanner closes them one after the
other (`HasGroups.groups_eq`).
-/

set_option autoImplicit false

namespace Hotkeys.Config

open Text (join)
open Text.Utf8 (byteOf encode)

/-! ## Matching braces -/

/-- Whether what is left of a text has groups, in order; `inside` is what the open group holds so
far.  Outside of groups a backslash takes any character with it, the end of a line too, and may be
the last character; a group is closed on its line. -/
inductive HasGroups : (inside : Option Text) → Text → List Text → Prop where
  | nil : HasGroups none [] []
  | lone : HasGroups none ['\\'] []
  | escape (d : Char) {t : Text} {groups : List Text} (h : HasGroups none t groups) :
      HasGroups none ('\\' :: d :: t) groups
  | opening {t : Text} {groups : List Text} (h : HasGroups (some []) t groups) :
      HasGroups none ('{' :: t) groups
  | plain {c : Char} (hc : c ∉ ['\\', '{', '}']) {t : Text} {groups : List Text}
      (h : HasGroups none t groups) : HasGroups none (c :: t) groups
  | closing {inside t : Text} {groups : List Text} (h : HasGroups none t groups) :
      HasGroups (some inside) ('}' :: t) (inside :: groups)
  | escapeInside {d : Char} (hd : d ≠ '\n') {inside t : Text} {groups : List Text}
      (h : HasGroups (some (inside ++ ['\\', d])) t groups) :
      HasGroups (some inside) ('\\' :: d :: t) groups
  | plainInside {c : Char} (hc : c ∉ ['\n', '\\', '{', '}']) {inside t : Text}
      {groups : List Text} (h : HasGroups (some (inside ++ [c])) t groups) :
      HasGroups (some inside) (c :: t) groups

section Inversion

variable {t : Text} {groups : List Text}

theorem hasGroups_escape_iff {d : Char} :
    HasGroups none ('\\' :: d :: t) groups ↔ HasGroups none t groups := by
  refine ⟨fun h => ?_, .escape d⟩
  cases h with
  | escape _ h => exact h
  | plain hc _ => exact absurd List.mem_cons_self hc

theorem hasGroups_opening_iff :
    HasGroups none ('{' :: t) groups ↔ HasGroups (some []) t groups := by
  refine ⟨fun h => ?_, .opening⟩
  cases h with
  | opening h => exact h
  | plain hc _ => exact absurd (by decide) hc

theorem hasGroups_plain_iff {c : Char} (hescape : c ≠ '\\') (hopening : c ≠ '{') :
    HasGroups none (c :: t) groups ↔ c ≠ '}' ∧ HasGroups none t groups := by
  constructor
  · intro h
    cases h with
    | lone | escape _ _ => exact absurd rfl hescape
    | opening _ => exact absurd rfl hopening
    | plain hc h => exact ⟨fun hclosing => hc (by simp [hclosing]), h⟩
  · rintro ⟨hclosing, h⟩
    exact .plain (by simp [hescape, hopening, hclosing]) h

end Inversion

/-- Groups stay what they are when the text goes on in a new line: a backslash at the end takes the
line end with it, and nothing else reaches over. -/
theorem HasGroups.append_newline {inside : Option Text} {s t : Text} {groups more : List Text}
    (hs : HasGroups inside s groups) (ht : HasGroups none t more) :
    HasGroups inside (s ++ '\n' :: t) (groups ++ more) := by
  induction hs with
  | nil => exact .plain (by decide) ht
  | lone => exact .escape '\n' ht
  | escape d _ ih => exact .escape d ih
  | opening _ ih => exact .opening ih
  | plain hc _ ih => exact .plain hc ih
  | closing _ ih => exact .closing ih
  | escapeInside hd _ ih => exact .escapeInside hd ih
  | plainInside hc _ ih => exact .plainInside hc ih

/-- Groups stay what they are without a last character that is no brace: such a character stands
outside of the groups, at most behind a backslash. -/
theorem HasGroups.of_concat {inside : Option Text} {t : Text} {groups : List Text} {c : Char}
    (hc : c ∉ ['\\', '{', '}']) (h : HasGroups inside (t ++ [c]) groups) :
    HasGroups inside t groups := by
  generalize hwhole : t ++ [c] = whole at h
  induction h generalizing t with
  | nil => exact absurd hwhole (by simp)
  | lone =>
      rcases t with _ | ⟨a, rest⟩
      · cases hwhole
        exact absurd List.mem_cons_self hc
      · exact absurd (List.cons.inj hwhole).2 (by simp)
  | escape d h ih =>
      rcases t with _ | ⟨a, _ | ⟨b, rest⟩⟩
      · exact absurd (List.cons.inj hwhole).2 (by simp)
      · cases hwhole
        cases h
        exact .lone
      · cases hwhole
        exact .escape d (ih rfl)
  | opening h ih =>
      rcases t with _ | ⟨a, rest⟩
      · cases hwhole
        exact absurd (by decide) hc
      · cases hwhole
        exact .opening (ih rfl)
  | plain hplain h ih =>
      rcases t with _ | ⟨a, rest⟩
      · cases hwhole
        exact h
      · cases hwhole
        exact .plain hplain (ih rfl)
  | closing h ih =>
      rcases t with _ | ⟨a, rest⟩
      · cases hwhole
        exact absurd (by decide) hc
      · cases hwhole
        exact .closing (ih rfl)
  | escapeInside hd h ih =>
      rcases t with _ | ⟨a, _ | ⟨b, rest⟩⟩
      · exact absurd (List.cons.inj hwhole).2 (by simp)
      · cases hwhole
        cases h
      · cases hwhole
        exact .escapeInside hd (ih rfl)
  | plainInside hplain h ih =>
      rcases t with _ | ⟨a, rest⟩
      · cases hwhole
        cases h
      · cases hwhole
        exact .plainInside hplain (ih rfl)

/-! ## Templates -/

/-- The groups that the template of a text has, each as it stands between its braces. -/
def groupTexts (t : Text) : List Text :=
  (Template.ofText t).groups.map (join [','])

theorem join_extendFirst (lead : Text) (members : List Text) :
    join [','] (extendFirst lead members) = lead ++ join [','] members := by
  cases members with
  | nil => exact (Text.join_singleton _ _).trans (List.append_nil lead).symm
  | cons m ms =>
      cases ms with
      | nil => rw [extendFirst, Text.join_singleton, Text.join_singleton]
      | cons n ns =>
          rw [extendFirst, Text.join_cons_cons, Text.join_cons_cons]
          simp only [List.append_assoc]

theorem join_nil_cons {members : List Text} (h : members ≠ []) :
    join [','] ([] :: members) = ',' :: join [','] members := by
  obtain ⟨m, ms, rfl⟩ := List.exists_cons_of_ne_nil h
  rw [Text.join_cons_cons]
  rfl

/-- A group that is closed is one that a template can read, and its members make up what it
holds. -/
theorem HasGroups.exists_readGroup {inside t : Text} {groups : List Text}
    (h : HasGroups (some inside) t groups) :
    ∃ members rest more, readGroup t = some (members, rest) ∧ HasGroups none rest more ∧
      groups = (inside ++ join [','] members) :: more := by
  generalize hopen : some inside = group at h
  induction h generalizing inside with
  | nil | lone | escape _ _ _ | opening _ _ | plain _ _ _ => cases hopen
  | @closing _ t groups h _ =>
      cases hopen
      refine ⟨[[]], t, groups, ?_, h, by rw [Text.join_singleton, List.append_nil]⟩
      rw [readGroup.eq_def]
      rfl
  | @escapeInside d hd _ t groups h ih =>
      cases hopen
      obtain ⟨members, rest, more, hread, hmore, rfl⟩ := ih rfl
      refine ⟨extendFirst ['\\', d] members, rest, more, ?_, hmore, ?_⟩
      · rw [readGroup.eq_def]
        simp only [if_pos, hread, Option.map_some]
      · rw [join_extendFirst, List.append_assoc]
  | @plainInside c hc _ t groups h ih =>
      cases hopen
      obtain ⟨members, rest, more, hread, hmore, rfl⟩ := ih rfl
      simp only [List.mem_cons, List.not_mem_nil, or_false, not_or] at hc
      obtain ⟨hnewline, hescape, -, hclosing⟩ := hc
      -- A comma begins a new member, any other character goes on with the first one.
      by_cases hcomma : c = ','
      · subst hcomma
        refine ⟨[] :: members, rest, more, ?_, hmore, ?_⟩
        · rw [readGroup.eq_def]
          simp only [if_neg hescape, if_pos, hread, Option.map_some]
        · rw [join_nil_cons (ne_nil_of_readGroup hread), List.append_assoc]
          rfl
      · refine ⟨extendFirst [c] members, rest, more, ?_, hmore, ?_⟩
        · rw [readGroup.eq_def]
          simp only [if_neg hescape, if_neg hcomma, if_neg hclosing, if_neg hnewline, hread,
            Option.map_some]
        · rw [join_extendFirst, List.append_assoc]

/-- A brace that opens a group is one where a template reads a group. -/
theorem HasGroups.opens_group {cs : Text} {groups : List Text}
    (h : HasGroups none ('{' :: cs) groups) : readGroup cs ≠ none := by
  obtain ⟨members, rest, more, hread, -, -⟩ := (hasGroups_opening_iff.mp h).exists_readGroup
  rw [hread]
  exact Option.some_ne_none _

/-- The group that a template reads there is the first one, and the others are behind it. -/
theorem HasGroups.behind_group {cs rest : Text} {members groups : List Text}
    (h : HasGroups none ('{' :: cs) groups) (hread : readGroup cs = some (members, rest)) :
    ∃ more, HasGroups none rest more ∧ groups = join [','] members :: more := by
  obtain ⟨members', rest', more, hread', hmore, hgroups⟩ :=
    (hasGroups_opening_iff.mp h).exists_readGroup
  rw [hread, Option.some.injEq, Prod.mk.injEq] at hread'
  obtain ⟨rfl, rfl⟩ := hread'
  exact ⟨more, hmore, hgroups⟩

/-- The groups of a text are those that its template finds. -/
theorem HasGroups.groupTexts_eq {t : Text} {groups : List Text} (h : HasGroups none t groups) :
    groupTexts t = groups := by
  unfold groupTexts
  fun_induction Template.ofText t generalizing groups with
  | case1 =>
      cases h
      rfl
  | case2 =>
      cases h with
      | lone => rfl
      | plain hc _ => exact absurd List.mem_cons_self hc
  | case3 d ds ih =>
      rw [Template.groups_extend]
      exact ih (hasGroups_escape_iff.mp h)
  | case4 cs members rest hread _ ih =>
      obtain ⟨more, hmore, rfl⟩ := h.behind_group hread
      exact congrArg (join [','] members :: ·) (ih hmore)
  | case5 cs hread _ ih => exact absurd hread h.opens_group
  | case6 c cs hescape hopening ih =>
      rw [Template.groups_extend]
      exact ih ((hasGroups_plain_iff hescape hopening).mp h).2

/-- Whether a text has a brace that is not escaped; a backslash escapes the character behind it. -/
def hasBareBrace : Text → Bool
  | [] => false
  | c :: cs =>
    if c = '\\' then
      match cs with
      | [] => false
      | _ :: ds => hasBareBrace ds
    else c == '{' || c == '}' || hasBareBrace cs

/-- Whether no ordinary text of a template has a brace that is not escaped. -/
def Template.IsPlain (t : Template) : Prop :=
  ∀ u, .text u ∈ t → hasBareBrace u = false

theorem Template.isPlain_nil : Template.IsPlain [] :=
  fun _ hu => absurd hu List.not_mem_nil

theorem Template.isPlain_text_cons_iff {u : Text} {t : Template} :
    Template.IsPlain (.text u :: t) ↔ hasBareBrace u = false ∧ t.IsPlain := by
  constructor
  · intro h
    exact ⟨h u List.mem_cons_self, fun v hv => h v (List.mem_cons_of_mem _ hv)⟩
  · rintro ⟨hu, ht⟩ v hv
    rcases List.mem_cons.mp hv with heq | hrest
    · cases heq
      exact hu
    · exact ht v hrest

theorem Template.isPlain_group_cons_iff {members : List Text} {t : Template} :
    Template.IsPlain (.group members :: t) ↔ t.IsPlain :=
  ⟨fun h u hu => h u (List.mem_cons_of_mem _ hu),
    fun h u hu => h u (List.mem_of_ne_of_mem Segment.noConfusion hu)⟩

/-- Text that does not bear on the reading of what follows may be put in front. -/
theorem Template.isPlain_extend_iff {lead : Text}
    (hlead : ∀ u, hasBareBrace (lead ++ u) = hasBareBrace u) {t : Template} :
    (Template.extend lead t).IsPlain ↔ t.IsPlain := by
  unfold Template.extend
  split
  case h_1 u rest => rw [isPlain_text_cons_iff, isPlain_text_cons_iff, hlead]
  case h_2 =>
    have hnil := hlead []
    rw [List.append_nil] at hnil
    rw [isPlain_text_cons_iff, hnil]
    exact and_iff_right rfl

theorem hasBareBrace_cons {c : Char} (hc : c ∉ ['\\', '{', '}']) (t : Text) :
    hasBareBrace (c :: t) = hasBareBrace t := by
  simp only [List.mem_cons, List.not_mem_nil, or_false, not_or] at hc
  obtain ⟨hescape, hopening, hclosing⟩ := hc
  rw [hasBareBrace.eq_def]
  simp only [if_neg hescape, beq_false_of_ne hopening, beq_false_of_ne hclosing, Bool.false_or]

/-- A template of a text that has groups leaves no brace in its ordinary texts. -/
theorem HasGroups.isPlain {t : Text} {groups : List Text} (h : HasGroups none t groups) :
    (Template.ofText t).IsPlain := by
  fun_induction Template.ofText t generalizing groups with
  | case1 => exact Template.isPlain_nil
  | case2 => exact Template.isPlain_text_cons_iff.mpr ⟨rfl, Template.isPlain_nil⟩
  | case3 d ds ih =>
      exact (Template.isPlain_extend_iff fun _ => rfl).mpr (ih (hasGroups_escape_iff.mp h))
  | case4 cs members rest hread _ ih =>
      obtain ⟨more, hmore, -⟩ := h.behind_group hread
      exact Template.isPlain_group_cons_iff.mpr (ih hmore)
  | case5 cs hread _ ih => exact absurd hread h.opens_group
  | case6 c cs hescape hopening ih =>
      obtain ⟨hclosing, hcs⟩ := (hasGroups_plain_iff hescape hopening).mp h
      have hplain : c ∉ ['\\', '{', '}'] := by simp [hescape, hopening, hclosing]
      exact (Template.isPlain_extend_iff (hasBareBrace_cons hplain)).mpr (ih hcs)

/-- Whether the reading of a template from `t` on comes to `u`, between two escapes, groups or
ordinary characters. -/
inductive Reaches : (t u : Text) → Prop where
  | refl (t : Text) : Reaches t t
  | lone {u : Text} (h : Reaches [] u) : Reaches ['\\'] u
  | escape (d : Char) {t u : Text} (h : Reaches t u) : Reaches ('\\' :: d :: t) u
  | group {t rest u : Text} {members : List Text} (hread : readGroup t = some (members, rest))
      (h : Reaches rest u) : Reaches ('{' :: t) u
  | opening {t u : Text} (hread : readGroup t = none) (h : Reaches t u) : Reaches ('{' :: t) u
  | plain {c : Char} (hescape : c ≠ '\\') (hopening : c ≠ '{') {t u : Text} (h : Reaches t u) :
      Reaches (c :: t) u

/-- In a text that has groups, a template never comes to a brace that opens none. -/
theorem HasGroups.readGroup_ne_none {t rest : Text} {groups : List Text}
    (h : HasGroups none t groups) (hreaches : Reaches t ('{' :: rest)) : readGroup rest ≠ none := by
  generalize hu : '{' :: rest = u at hreaches
  induction hreaches generalizing groups with
  | refl =>
      subst hu
      exact h.opens_group
  | lone hnil ih => exact ih .nil hu
  | escape d _ ih => exact ih (hasGroups_escape_iff.mp h) hu
  | group hread _ ih =>
      obtain ⟨more, hmore, -⟩ := h.behind_group hread
      exact ih hmore hu
  | opening hread _ _ => exact absurd hread h.opens_group
  | plain hescape hopening _ ih => exact ih ((hasGroups_plain_iff hescape hopening).mp h).2 hu

/-! ## Bytes of characters -/

/-- Whether a byte means nothing to the brace check within a line. -/
def IsOrdinary (b : UInt8) : Prop :=
  b ∉ [Byte.newline, Byte.backslash, Byte.opening, Byte.closing]

theorem ascii_of_not_ordinary {c : Char} (hc : c ∈ ['\n', '\\', '{', '}']) : c.toNat ≤ 0x7f := by
  simp only [List.mem_cons, List.not_mem_nil, or_false] at hc
  rcases hc with rfl | rfl | rfl | rfl <;> decide

theorem isOrdinary_of_mem {c : Char} (hc : c ∉ ['\n', '\\', '{', '}']) {b : UInt8}
    (hb : b ∈ String.utf8EncodeChar c) : IsOrdinary b := by
  have hbytes : [Byte.newline, Byte.backslash, Byte.opening, Byte.closing] =
      ['\n', '\\', '{', '}'].map byteOf := by decide
  intro hmem
  rw [hbytes] at hmem
  obtain ⟨a, ha, rfl⟩ := List.mem_map.mp hmem
  rw [Text.Utf8.byteOf_mem_utf8EncodeChar (ascii_of_not_ordinary ha)] at hb
  exact hc (hb ▸ ha)

/-- Only the first byte of a character can mean something to the brace check. -/
theorem exists_utf8EncodeChar (c : Char) :
    ∃ b bs, String.utf8EncodeChar c = b :: bs ∧ (∀ x ∈ bs, IsOrdinary x) ∧
      (c ≠ '\n' → b ≠ Byte.newline) := by
  obtain ⟨b, bs, hbytes⟩ := List.exists_cons_of_ne_nil (String.utf8EncodeChar_ne_nil (c := c))
  refine ⟨b, bs, hbytes, fun x hx => ?_, fun hc hb => hc ?_⟩
  · by_cases hascii : c.toNat ≤ 0x7f
    · rw [Text.Utf8.utf8EncodeChar_of_ascii hascii] at hbytes
      rw [← (List.cons.inj hbytes).2] at hx
      exact absurd hx List.not_mem_nil
    · exact isOrdinary_of_mem (mt ascii_of_not_ordinary hascii)
        (hbytes ▸ List.mem_cons_of_mem b hx)
  · refine (Text.Utf8.byteOf_mem_utf8EncodeChar (a := '\n') (by decide)).mp ?_
    rw [hbytes, hb]
    exact List.mem_cons_self

/-! ## Lines without a fault -/

theorem firstFault_ordinary (group : Option Nat) (column : Nat) {bs : List UInt8}
    (hbs : ∀ b ∈ bs, IsOrdinary b) (rest : List UInt8) :
    firstFault group column (bs ++ rest) = firstFault group (column + bs.length) rest := by
  induction bs generalizing column with
  | nil => rfl
  | cons b bs ih =>
      obtain ⟨hb, hmore⟩ := List.forall_mem_cons.mp hbs
      simp only [IsOrdinary, List.mem_cons, List.not_mem_nil, or_false, not_or] at hb
      obtain ⟨-, hescape, hopening, hclosing⟩ := hb
      rw [List.cons_append, firstFault.eq_def]
      simp only [if_neg hescape, if_neg hopening, if_neg hclosing]
      rw [List.length_cons, Nat.add_comm bs.length, ← Nat.add_assoc, ← ih _ hmore]
      cases group <;> rfl

/-- An escape takes the character behind it, however many bytes that has. -/
theorem firstFault_escape (group : Option Nat) (column : Nat) (d : Char) (t : Text) :
    firstFault group column (encode ('\\' :: d :: t)) =
      firstFault group (column + 1 + (String.utf8EncodeChar d).length) (encode t) := by
  obtain ⟨b, bs, hbytes, hbs, -⟩ := exists_utf8EncodeChar d
  have hencode : encode ('\\' :: d :: t) = Byte.backslash :: b :: (bs ++ encode t) := by
    rw [Text.Utf8.encode_cons, Text.Utf8.encode_cons, hbytes]
    rfl
  have hcolumn : column + 2 + bs.length = column + 1 + (b :: bs).length := by
    rw [List.length_cons]
    omega
  rw [hencode, hbytes, ← hcolumn, ← firstFault_ordinary group _ hbs, firstFault.eq_def]
  simp only [if_pos]

/-- A line without a fault has groups.  The induction takes an escape at once, as both readings do,
and knows whether a group is open. -/
theorem exists_hasGroups {t : Text} (ht : '\n' ∉ t) (inside : Option Text) (group : Option Nat)
    (hopen : group.isSome = inside.isSome) {column : Nat}
    (h : firstFault group column (encode t) = none) : ∃ groups, HasGroups inside t groups := by
  induction t using hasBareBrace.induct generalizing inside group column with
  | case1 =>
      cases group with
      | some opened => cases h
      | none =>
          obtain rfl : inside = none := by simpa using hopen.symm
          exact ⟨[], .nil⟩
  | case2 =>
      cases group with
      | some opened => cases h
      | none =>
          obtain rfl : inside = none := by simpa using hopen.symm
          exact ⟨[], .lone⟩
  | case3 d ds ih =>
      rw [firstFault_escape] at h
      have hd : d ≠ '\n' := fun hd => ht (by simp [hd])
      have hds : '\n' ∉ ds := fun hds => ht (by simp [hds])
      cases inside with
      | none =>
          obtain ⟨groups, hgroups⟩ := ih hds none group hopen h
          exact ⟨groups, .escape d hgroups⟩
      | some inside =>
          obtain ⟨groups, hgroups⟩ := ih hds (some (inside ++ ['\\', d])) group hopen h
          exact ⟨groups, .escapeInside hd hgroups⟩
  | case4 c cs hescape ih =>
      rw [List.mem_cons, not_or] at ht
      obtain ⟨hnewline, hcs⟩ := ht
      by_cases hopening : c = '{'
      · subst hopening
        rw [show encode ('{' :: cs) = Byte.opening :: encode cs from rfl, firstFault.eq_def] at h
        cases group with
        | some opened => cases h
        | none =>
            obtain rfl : inside = none := by simpa using hopen.symm
            obtain ⟨groups, hgroups⟩ := ih hcs (some []) (some column) rfl h
            exact ⟨groups, .opening hgroups⟩
      by_cases hclosing : c = '}'
      · subst hclosing
        rw [show encode ('}' :: cs) = Byte.closing :: encode cs from rfl, firstFault.eq_def] at h
        cases group with
        | none => cases h
        | some opened =>
            obtain ⟨inside, rfl⟩ := Option.isSome_iff_exists.mp hopen.symm
            obtain ⟨groups, hgroups⟩ := ih hcs none none rfl h
            exact ⟨inside :: groups, .closing hgroups⟩
      have hplain : c ∉ ['\n', '\\', '{', '}'] := by
        simp [hescape, hopening, hclosing, Ne.symm hnewline]
      rw [Text.Utf8.encode_cons, firstFault_ordinary group _ fun _ => isOrdinary_of_mem hplain] at h
      cases inside with
      | none =>
          obtain ⟨groups, hgroups⟩ := ih hcs none group hopen h
          exact ⟨groups, .plain (by simp [hescape, hopening, hclosing]) hgroups⟩
      | some inside =>
          obtain ⟨groups, hgroups⟩ := ih hcs (some (inside ++ [c])) group hopen h
          exact ⟨groups, .plainInside hplain hgroups⟩

/-! ## Groups that the scanner closes -/

namespace Scanner

/-- The bytes of the group that a step to the state `next` closes.  A group stands on one line, so
that they are those taken since the column of its opening brace. -/
def closed? (s : Scanner) (next : BraceState) : Option (List UInt8) :=
  match s.braces, next with
  | .inGroup opened, .outside =>
    some (s.taken.take (s.here.column - (opened.column + 1))).reverse
  | _, _ => none

/-- The groups that the scanner closes while it takes bytes, up to the first fault. -/
def groups (s : Scanner) : List UInt8 → List (List UInt8)
  | [] => []
  | b :: bs =>
    match s.take b with
    | .error _ => []
    | .ok next => (s.closed? next.braces).toList ++ next.groups bs

theorem groups_cons {s next : Scanner} {b : UInt8} (h : s.take b = .ok next) (bs : List UInt8) :
    s.groups (b :: bs) = (s.closed? next.braces).toList ++ next.groups bs := by
  rw [groups, h]

/-- Whether the scanner checks braces and stands outside of groups, or inside of one that holds the
given text so far. -/
def Holds (s : Scanner) : (inside : Option Text) → Prop
  | none => s.checksBraces = true ∧ s.braces = .outside
  | some inside => s.checksBraces = true ∧ ∃ opened before,
      s.braces = .inGroup opened ∧ s.here.column = opened.column + 1 + (encode inside).length ∧
        s.taken = (encode inside).reverse ++ before

theorem holds_startAt {kind : TokenKind} (hkind : kind = .keybinding ∨ kind = .action) (n : Nat) :
    (startAt kind n).Holds none := by
  rcases hkind with rfl | rfl <;> exact ⟨rfl, rfl⟩

theorem Holds.checks {s : Scanner} {inside : Option Text} (h : s.Holds inside) :
    s.checksBraces = true := by
  cases inside with
  | none => exact h.1
  | some inside => exact h.1

/-- A step within a line. -/
theorem groups_step {s : Scanner} (hs : s.checksBraces = true) {b : UInt8}
    (hb : b ≠ Byte.newline) {state : BraceState} (hstep : s.braces.step s.here b = .ok state)
    (bs : List UInt8) :
    s.groups (b :: bs) = (s.closed? state).toList ++ (s.along state [b]).groups bs := by
  have htake : s.take b = .ok (s.along state [b]) := by
    rw [take_of_ne_newline s hb, checkByte, if_pos hs, hstep]
    rfl
  exact groups_cons htake bs

/-- The end of a line outside of groups. -/
theorem groups_newline {s : Scanner} (hs : s.checksBraces = true)
    (hstate : s.braces = .outside ∨ s.braces = .escaped) (bs : List UInt8) :
    s.groups (Byte.newline :: bs) = (s.below .outside).groups bs := by
  have htake : s.take Byte.newline = .ok (s.below .outside) := by
    rw [take_newline, checkByte, if_pos hs]
    rcases hstate with h | h <;> (rw [h]; rfl)
  have hclosed : s.closed? .outside = none := by
    rcases hstate with h | h <;> simp [closed?, h]
  rw [groups_cons htake, show (s.below .outside).braces = .outside from rfl, hclosed]
  rfl

theorem Holds.between {s : Scanner} {inside : Option Text} (h : s.Holds inside) :
    s.braces = .outside ∨ ∃ opened, s.braces = .inGroup opened := by
  cases inside with
  | none => exact .inl h.2
  | some inside =>
      obtain ⟨-, opened, -, hbraces, -⟩ := h
      exact .inr ⟨opened, hbraces⟩

/-- Between escapes, bytes without a meaning are taken without a change of state. -/
theorem groups_ordinary {s : Scanner} (hs : s.checksBraces = true)
    (hstate : s.braces = .outside ∨ ∃ opened, s.braces = .inGroup opened) {bs : List UInt8}
    (hbs : ∀ b ∈ bs, IsOrdinary b) (rest : List UInt8) :
    s.groups (bs ++ rest) = (s.along s.braces bs).groups rest := by
  induction bs generalizing s with
  | nil => rfl
  | cons b bs ih =>
      obtain ⟨hb, hmore⟩ := List.forall_mem_cons.mp hbs
      simp only [IsOrdinary, List.mem_cons, List.not_mem_nil, or_false, not_or] at hb
      obtain ⟨hnewline, hescape, hopening, hclosing⟩ := hb
      have hstep : s.braces.step s.here b = .ok s.braces := by
        rcases hstate with h | ⟨opened, h⟩
        · rw [h, BraceState.step, if_neg hescape, if_neg hopening, if_neg hclosing]
        · rw [h, BraceState.step, if_neg hnewline, if_neg hescape, if_neg hopening,
            if_neg hclosing]
      have hclosed : s.closed? s.braces = none := by
        rcases hstate with h | ⟨opened, h⟩ <;> simp [closed?, h]
      have hrest := ih (s := s.along s.braces [b]) hs hstate hmore
      rw [List.cons_append, groups_step hs hnewline hstep, hclosed, hrest]
      exact congrArg (groups · rest) (along_along s s.braces s.braces [b] bs)

/-- An escape takes two steps and leads back to where it began. -/
theorem groups_escape {s : Scanner} {inside : Option Text} (hs : s.Holds inside) {b : UInt8}
    (hb : b ≠ Byte.newline) (rest : List UInt8) :
    s.groups (Byte.backslash :: b :: rest) =
      (s.along s.braces [Byte.backslash, b]).groups rest := by
  have hchecks := hs.checks
  have hsteps : ∃ state, s.braces.step s.here Byte.backslash = .ok state ∧
      (∀ here, state.step here b = .ok s.braces) ∧ s.closed? state = none ∧
        (s.along state [Byte.backslash]).closed? s.braces = none := by
    cases inside with
    | none =>
        obtain ⟨-, h⟩ := hs
        refine ⟨.escaped, ?_, ?_, ?_, ?_⟩
        all_goals simp only [h, BraceState.step, closed?, along, if_true, implies_true]
    | some inside =>
        obtain ⟨-, opened, -, h, -⟩ := hs
        refine ⟨.inGroupEscaped opened, ?_, ?_, ?_, ?_⟩
        all_goals simp only [h, BraceState.step, closed?, along, if_neg hb, implies_true]
        rfl
  obtain ⟨state, hescape, hescaped, hclosed, hclosed'⟩ := hsteps
  rw [groups_step hchecks (by decide) hescape, hclosed,
    groups_step (s := s.along state [Byte.backslash]) hchecks hb (hescaped _), hclosed']
  exact congrArg (groups · rest) (along_along s state s.braces [Byte.backslash] [b])

/-- What is taken inside a group is held there. -/
theorem Holds.along {s : Scanner} {inside : Option Text} (hs : s.Holds inside) (t : Text) :
    (s.along s.braces (encode t)).Holds (inside.map (· ++ t)) := by
  cases inside with
  | none => exact hs
  | some inside =>
      obtain ⟨hchecks, opened, before, hbraces, hcolumn, htaken⟩ := hs
      refine ⟨hchecks, opened, before, hbraces, ?_, ?_⟩
      · rw [Text.Utf8.encode_append, List.length_append, ← Nat.add_assoc, ← hcolumn]
        rfl
      · rw [Text.Utf8.encode_append, List.reverse_append, List.append_assoc, ← htaken]
        rfl

/-- An escaped character is taken with its backslash; outside of groups it may be the end of the
line. -/
theorem exists_groups_escape {s : Scanner} {inside : Option Text} (hs : s.Holds inside) {d : Char}
    (hd : inside.isSome → d ≠ '\n') (t : Text) :
    ∃ next : Scanner, next.Holds (inside.map (· ++ ['\\', d])) ∧
      s.groups (encode ('\\' :: d :: t)) = next.groups (encode t) := by
  by_cases hnewline : d = '\n'
  · subst hnewline
    obtain rfl : inside = none := by simpa using hd
    obtain ⟨hchecks, hbraces⟩ := hs
    refine ⟨(s.along .escaped [Byte.backslash]).below .outside, ⟨hchecks, rfl⟩, ?_⟩
    have hstep : s.braces.step s.here Byte.backslash = .ok .escaped := by
      rw [hbraces]
      rfl
    have hclosed : s.closed? .escaped = none := by simp [closed?, hbraces]
    have hbytes : encode ('\\' :: '\n' :: t) = Byte.backslash :: Byte.newline :: encode t := rfl
    rw [hbytes, groups_step hchecks (by decide) hstep, hclosed,
      groups_newline (s := s.along .escaped [Byte.backslash]) hchecks (.inr rfl)]
    rfl
  · refine ⟨s.along s.braces (encode ['\\', d]), hs.along ['\\', d], ?_⟩
    obtain ⟨b, bs, hbytes, hbs, hb⟩ := exists_utf8EncodeChar d
    have hescape : encode ['\\', d] = Byte.backslash :: b :: bs := by
      rw [Text.Utf8.encode_cons, Text.Utf8.encode_cons, hbytes, Text.Utf8.encode_nil,
        List.append_nil]
      rfl
    have hwhole : encode ('\\' :: d :: t) = Byte.backslash :: b :: (bs ++ encode t) := by
      rw [show '\\' :: d :: t = ['\\', d] ++ t from rfl, Text.Utf8.encode_append, hescape]
      rfl
    rw [hwhole, groups_escape hs (hb hnewline), hescape,
      groups_ordinary (s := s.along s.braces [Byte.backslash, b]) hs.checks hs.between hbs]
    exact congrArg (groups · (encode t))
      (along_along s s.braces s.braces [Byte.backslash, b] bs)

end Scanner

/-- From where the scanner stands it closes the groups of the text that it takes. -/
theorem HasGroups.groups_eq {inside : Option Text} {t : Text} {groups : List Text}
    (h : HasGroups inside t groups) {s : Scanner} (hs : s.Holds inside) :
    s.groups (encode t) = groups.map encode := by
  induction h generalizing s with
  | nil => rfl
  | lone =>
      have hstep : s.braces.step s.here Byte.backslash = .ok .escaped := by
        rw [hs.2]
        rfl
      have hclosed : s.closed? .escaped = none := by simp [Scanner.closed?, hs.2]
      rw [show encode ['\\'] = [Byte.backslash] from rfl,
        Scanner.groups_step hs.1 (by decide) hstep, hclosed]
      rfl
  | escape d _ ih =>
      obtain ⟨next, hnext, hgroups⟩ := Scanner.exists_groups_escape hs (by simp) _
      rw [hgroups, ih hnext]
  | @opening t _ _ ih =>
      have hstep : s.braces.step s.here Byte.opening = .ok (.inGroup s.here) := by
        rw [hs.2]
        rfl
      have hclosed : s.closed? (.inGroup s.here) = none := by simp [Scanner.closed?, hs.2]
      have hnext : (s.along (.inGroup s.here) [Byte.opening]).Holds (some []) :=
        ⟨hs.1, s.here, _, rfl, rfl, rfl⟩
      rw [show encode ('{' :: t) = Byte.opening :: encode t from rfl,
        Scanner.groups_step hs.1 (by decide) hstep, hclosed, ih hnext]
      rfl
  | @plain c hc t _ _ ih =>
      by_cases hnewline : c = '\n'
      · subst hnewline
        rw [show encode ('\n' :: t) = Byte.newline :: encode t from rfl,
          Scanner.groups_newline hs.1 (.inl hs.2)]
        exact ih ⟨hs.1, rfl⟩
      · have hplain : c ∉ ['\n', '\\', '{', '}'] := List.not_mem_cons_of_ne_of_not_mem hnewline hc
        rw [Text.Utf8.encode_cons, Scanner.groups_ordinary hs.checks hs.between
          fun _ => isOrdinary_of_mem hplain]
        exact ih ⟨hs.1, hs.2⟩
  | @closing inside t groups _ ih =>
      obtain ⟨hchecks, opened, before, hbraces, hcolumn, htaken⟩ := hs
      have hstep : s.braces.step s.here Byte.closing = .ok .outside := by
        rw [hbraces]
        rfl
      have hclosed : s.closed? .outside = some (encode inside) := by
        simp only [Scanner.closed?, hbraces, hcolumn, htaken, Nat.add_sub_cancel_left]
        rw [← List.length_reverse, List.take_left, List.reverse_reverse]
      have hnext : (s.along .outside [Byte.closing]).Holds none := ⟨hchecks, rfl⟩
      rw [show encode ('}' :: t) = Byte.closing :: encode t from rfl,
        Scanner.groups_step hchecks (by decide) hstep, hclosed, ih hnext]
      rfl
  | escapeInside hd _ ih =>
      obtain ⟨next, hnext, hgroups⟩ := Scanner.exists_groups_escape hs (fun _ => hd) _
      rw [hgroups, ih hnext]
  | @plainInside c hc inside t _ _ ih =>
      have hnext := hs.along [c]
      rw [Text.Utf8.encode_cons, Text.Utf8.encode_nil, List.append_nil] at hnext
      rw [Text.Utf8.encode_cons, Scanner.groups_ordinary hs.checks hs.between
        fun _ => isOrdinary_of_mem hc]
      exact ih hnext

end Hotkeys.Config
