import Hotkeys.Proofs.Keys.Names
import Hotkeys.Proofs.Text.Numerals

/-!
# Looking keysyms up

No name is lost in the table without capitals, where names that have none win (`find?_folded`).  So
lower-casing a name changes its keysym only if the exact name is another one's
(`ofName?_lowercase_eq_some_iff`).
-/

set_option autoImplicit false

namespace Hotkeys.Keys.Keysym

/-! ## Tables -/

/-- In a table without repeats a name is looked up as the value beside it. -/
theorem find?_of_nodup {table : List (Text × Keysym)} (hnodup : (table.map Prod.fst).Nodup)
    {e : Text × Keysym} (he : e ∈ table) : find? table e.1 = some e.2 := by
  rw [find?]
  induction table with
  | nil => exact absurd he List.not_mem_nil
  | cons first rest ih =>
      rw [List.map_cons, List.nodup_cons] at hnodup
      rcases List.mem_cons.mp he with rfl | hrest
      · rw [List.find?_cons, beq_self_eq_true, Option.map_some]
      · have hne : (first.1 == e.1) = false :=
          beq_eq_false_iff_ne.mpr fun heq => hnodup.1 (heq ▸ List.mem_map_of_mem hrest)
        rw [List.find?_cons, hne]
        exact ih hnodup.2 hrest

theorem find?_of_mem {e : Text × Keysym} (he : e ∈ entries) : find? entries e.1 = some e.2 :=
  find?_of_nodup nodup_names he

theorem exists_of_find? {table : List (Text × Keysym)} {name : Text} {sym : Keysym}
    (h : find? table name = some sym) : (name, sym) ∈ table := by
  obtain ⟨e, he, rfl⟩ := Option.map_eq_some_iff.mp h
  have hname := List.find?_some he
  rw [← beq_iff_eq.mp hname]
  exact List.mem_of_find?_eq_some he

theorem find?_isSome_of_mem {table : List (Text × Keysym)} {e : Text × Keysym} (he : e ∈ table) :
    (find? table e.1).isSome = true := by
  rw [find?, Option.isSome_map, List.find?_isSome]
  exact ⟨e, he, beq_self_eq_true e.1⟩

theorem asciiLower_of_hasNoCapital {name : Text} (h : hasNoCapital name = true) :
    Text.asciiLower name = name :=
  Text.asciiLower_of_no_capital fun c hc => by
    have hcapital := List.all_eq_true.mp h c hc
    rwa [Bool.not_eq_true'] at hcapital

theorem hasNoCapital_asciiLower (name : Text) : hasNoCapital (Text.asciiLower name) = true := by
  rw [hasNoCapital, Text.asciiLower, List.all_map, List.all_eq_true]
  intro c _
  rw [Function.comp_apply, Text.not_isUpper_toLower, Bool.not_false]

/-- What is found without regard to capitals is an entry whose name becomes the one looked up. -/
theorem exists_of_find?_folded {name : Text} {sym : Keysym}
    (h : find? foldedEntries name = some sym) :
    ∃ e ∈ entries, Text.asciiLower e.1 = name ∧ e.2 = sym := by
  rcases List.mem_append.mp (exists_of_find? h) with hsmall | hcapital
  · obtain ⟨he, hnone⟩ := List.mem_filter.mp hsmall
    exact ⟨(name, sym), he, asciiLower_of_hasNoCapital hnone, rfl⟩
  · obtain ⟨e, he, heq⟩ := List.mem_map.mp hcapital
    obtain ⟨hname, hsym⟩ := Prod.mk.inj heq
    exact ⟨e, (List.mem_filter.mp he).1, hname, hsym⟩

/-- A name without capitals keeps its keysym. -/
theorem find?_folded {name : Text} (hnone : hasNoCapital name = true) {sym : Keysym}
    (h : find? entries name = some sym) : find? foldedEntries name = some sym := by
  have hsmall : (fun e : Text × Keysym => decide (hasNoCapital e.1 = true ∧ (e.1 == name) = true)) =
      fun e => e.1 == name := by
    funext e
    by_cases he : e.1 = name <;> simp [he, hnone]
  rw [find?] at h
  obtain ⟨e, hfound, hsym⟩ := Option.map_eq_some_iff.mp h
  rw [find?, foldedEntries, List.find?_append, List.find?_filter, hsmall, hfound, Option.some_or,
    Option.map_some, hsym]

/-- Every name is found without regard to capitals. -/
theorem find?_folded_isSome {name : Text} {sym : Keysym} (h : find? entries name = some sym) :
    (find? foldedEntries (Text.asciiLower name)).isSome = true := by
  have hmem := exists_of_find? h
  cases hnone : hasNoCapital name with
  | true =>
      rw [asciiLower_of_hasNoCapital hnone, find?_folded hnone h, Option.isSome_some]
  | false =>
      refine find?_isSome_of_mem (e := (Text.asciiLower name, sym)) (List.mem_append_right _ ?_)
      refine List.mem_map_of_mem (f := fun e => (Text.asciiLower e.1, e.2)) (a := (name, sym)) ?_
      exact List.mem_filter.mpr ⟨hmem, by rw [hnone, Bool.not_false]⟩

/-! ## Names -/

theorem ofName?_of_length {part : Text} (h : part.length ≠ 1) :
    ofName? part = (find? entries part).or ((find? foldedEntries (Text.asciiLower part)).or
      ((find? aliases (Text.asciiLower part)).or (ofLiteral? (Text.asciiLower part)))) := by
  rw [ofName?]
  · simp only [Option.orElse_eq_orElse, Option.orElse_eq_or]
  · rintro c rfl
    exact h rfl

/-- A name of the tables names its own keysym. -/
theorem ofName?_of_named {name : String} {sym : Keysym} (hnamed : (name, sym) ∈ named)
    (hlength : name.toList.length ≠ 1) : ofName? name.toList = some sym := by
  have hentry : (name.toList, sym) ∈ entries := List.mem_map_of_mem hnamed
  rw [ofName?_of_length hlength, find?_of_mem hentry, Option.some_or]

/-- The four ways in which a name of several characters is found. -/
theorem ofName?_cases {part : Text} (hlength : part.length ≠ 1) {sym : Keysym}
    (h : ofName? part = some sym) :
    (part, sym) ∈ entries ∨
      (∃ e ∈ entries, Text.asciiLower e.1 = Text.asciiLower part ∧ e.2 = sym) ∨
      (Text.asciiLower part, sym) ∈ aliases ∨
      ofLiteral? (Text.asciiLower part) = some sym := by
  simp only [ofName?_of_length hlength, Option.or_eq_some_iff] at h
  rcases h with hname | ⟨-, hfolded | ⟨-, halias | ⟨-, hliteral⟩⟩⟩
  · exact Or.inl (exists_of_find? hname)
  · exact Or.inr (Or.inl (exists_of_find?_folded hfolded))
  · exact Or.inr (Or.inr (Or.inl (exists_of_find? halias)))
  · exact Or.inr (Or.inr (Or.inr hliteral))

theorem ofLiteral?_eq_some_iff {lower : Text} {sym : Keysym} :
    ofLiteral? lower = some sym ↔
      ∃ digits, lower = "0x".toList ++ digits ∧ Text.signedNumeral? 16 digits = some sym ∧
        sym < 0x100000000 := by
  rw [ofLiteral?]
  cases hafter : Text.after? "0x".toList lower with
  | none =>
      refine ⟨fun h => absurd h (Option.some_ne_none sym).symm, fun ⟨digits, hlower, _⟩ => ?_⟩
      rw [Text.after?_eq_some_iff.mpr hlower] at hafter
      exact absurd hafter (Option.some_ne_none digits)
  | some digits =>
      rw [Text.after?_eq_some_iff] at hafter
      simp only [Option.filter_eq_some_iff, decide_eq_true_eq, hafter, List.append_cancel_left_eq]
      constructor
      · exact fun h => ⟨digits, rfl, h⟩
      · rintro ⟨more, rfl, h⟩
        exact h

theorem toNat_toLower_lt (c : Char) : c.toLower.toNat < 0x110000 := by
  rcases c.toLower.valid with hlow | hhigh
  · exact Nat.lt_trans hlow (by decide)
  · exact hhigh.2

theorem lt_of_ofChar? {c : Char} {sym : Keysym} (h : ofChar? c = some sym) :
    sym < 0x100000000 := by
  have hvalid := toNat_toLower_lt c
  simp only [ofChar?] at h
  split at h
  case isTrue =>
    cases h
    exact Nat.lt_trans hvalid (by decide)
  case isFalse =>
    obtain ⟨-, hsym⟩ := Option.ite_none_right_eq_some.mp h
    cases hsym
    exact Nat.lt_of_lt_of_le (Nat.add_lt_add_left hvalid unicodeBase) (by decide)

/-- A keysym that was read fits into 32 bits. -/
theorem lt_of_ofName? {part : Text} {sym : Keysym} (h : ofName? part = some sym) :
    sym < 0x100000000 := by
  by_cases hlength : part.length = 1
  · obtain ⟨c, rfl⟩ := List.length_eq_one_iff.mp hlength
    exact lt_of_ofChar? h
  · rcases ofName?_cases hlength h with hname | ⟨e, he, -, rfl⟩ | halias | hliteral
    · exact lt_of_mem hname
    · exact lt_of_mem he
    · have hall : ∀ e ∈ aliases, e.2 < 0x100000000 := by decide
      exact hall _ halias
    · obtain ⟨digits, -, -, hsym⟩ := ofLiteral?_eq_some_iff.mp hliteral
      exact hsym

/-- Only single characters beyond ASCII name keysyms. -/
theorem ascii_of_ofName? {part : Text} (hlength : part.length ≠ 1) {sym : Keysym}
    (h : ofName? part = some sym) : Text.Ascii part := by
  rw [← Text.ascii_asciiLower_iff]
  rcases ofName?_cases hlength h with hname | ⟨e, he, hname, -⟩ | halias | hliteral
  · exact Text.ascii_asciiLower_iff.mpr (ascii_of_mem hname)
  · exact hname ▸ Text.ascii_asciiLower_iff.mpr (ascii_of_mem he)
  · have hall : ∀ e ∈ aliases, Text.Ascii e.1 := by decide
    exact hall _ halias
  · obtain ⟨digits, hlower, hdigits, -⟩ := ofLiteral?_eq_some_iff.mp hliteral
    rw [hlower]
    exact Text.Ascii.append (show Text.Ascii "0x".toList by decide)
      (Text.ascii_of_signedNumeral? hdigits)

/-! ## Lower-casing a name -/

/-- Whether lower-casing changes the keysym that a text names: that of a single character beyond
ASCII, unless the character is a small one, and that of a name that differs only in capitals from
the name of another keysym, which wins without regard to capitals. -/
def caseMatters (part : Text) : Bool :=
  match part with
  | [c] => 0x80 ≤ c.toNat && Text.lowercase part != part
  | _ =>
    match find? entries part with
    | some sym => find? foldedEntries (Text.asciiLower part) != some sym
    | none => false

theorem ofChar?_toLower (c : Char) : ofChar? c.toLower = ofChar? c := by
  simp only [ofChar?, Text.toLower_toLower]

theorem caseMatters_of_length {part : Text} (h : part.length ≠ 1) :
    caseMatters part =
      match find? entries part with
      | some sym => find? foldedEntries (Text.asciiLower part) != some sym
      | none => false := by
  rw [caseMatters]
  rintro c rfl
  exact h rfl

/-- For a name without capitals there is nothing to gain from looking at the case. -/
theorem ofName?_of_hasNoCapital {name : Text} (hlength : name.length ≠ 1)
    (hnone : hasNoCapital name = true) :
    ofName? name =
      (find? foldedEntries name).or ((find? aliases name).or (ofLiteral? name)) := by
  rw [ofName?_of_length hlength, asciiLower_of_hasNoCapital hnone]
  cases hname : find? entries name with
  | none => rw [Option.none_or]
  | some sym => rw [find?_folded hnone hname, Option.some_or, Option.some_or]

theorem ofName?_lowercase_of_length {part : Text} (hlength : part.length ≠ 1) {sym : Keysym}
    (h : ofName? part = some sym) :
    ofName? (Text.lowercase part) = some sym ↔ caseMatters part = false := by
  have hlower : (Text.asciiLower part).length ≠ 1 := by rwa [Text.length_asciiLower]
  rw [Text.lowercase_of_ascii (ascii_of_ofName? hlength h), caseMatters_of_length hlength,
    ofName?_of_hasNoCapital hlower (hasNoCapital_asciiLower part)]
  rw [ofName?_of_length hlength] at h
  cases hname : find? entries part with
  | none =>
      rw [hname, Option.none_or] at h
      exact iff_of_true h rfl
  | some exact =>
      rw [hname, Option.some_or] at h
      obtain ⟨folded, hfolded⟩ := Option.isSome_iff_exists.mp (find?_folded_isSome hname)
      cases h
      rw [hfolded, Option.some_or, bne_eq_false_iff_eq]

theorem ofChar?_cases {c : Char} {sym : Keysym} (h : ofChar? c = some sym) :
    (sym = c.toLower.toNat ∧ sym < 0x100) ∨ sym = unicodeBase + c.toLower.toNat := by
  simp only [ofChar?] at h
  split at h
  case isTrue hlatin =>
    cases h
    exact Or.inl ⟨rfl, show c.toLower.toNat < 0x100 by omega⟩
  case isFalse =>
    obtain ⟨-, hsym⟩ := Option.ite_none_right_eq_some.mp h
    exact Or.inr (Option.some.inj hsym).symm

/-- Beyond ASCII different characters name different keysyms. -/
theorem eq_of_ofChar? {c d : Char} (hbeyond : 0x80 ≤ c.toNat) {sym : Keysym}
    (hc : ofChar? c = some sym) (hd : ofChar? d = some sym) : d = c := by
  have hcode : d.toLower.toNat = c.toLower.toNat := by
    rcases ofChar?_cases hc with ⟨hc, hlow⟩ | hc <;> rcases ofChar?_cases hd with ⟨hd, hlow'⟩ | hd
    · exact hd.symm.trans hc
    · exact absurd (hd ▸ hlow) (Nat.not_lt.mpr (Nat.le_add_right_of_le (by decide)))
    · exact absurd (hc ▸ hlow') (Nat.not_lt.mpr (Nat.le_add_right_of_le (by decide)))
    · exact Nat.add_left_cancel (hd.symm.trans hc)
  refine Char.toNat_inj.mp ?_
  rw [Text.toNat_toLower, Text.toNat_toLower] at hcode
  split at hcode <;> split at hcode <;> omega

theorem ofName?_lowercase_of_char {c : Char} {sym : Keysym} (h : ofChar? c = some sym) :
    ofName? (Text.lowercase [c]) = some sym ↔ caseMatters [c] = false := by
  by_cases hascii : c.toNat < 0x80
  · rw [Text.lowercase_of_ascii (fun d hd => List.mem_singleton.mp hd ▸ hascii)]
    refine iff_of_true ((ofChar?_toLower c).trans h) ?_
    rw [caseMatters, decide_eq_false (Nat.not_le.mpr hascii), Bool.false_and]
  · have hbeyond : 0x80 ≤ c.toNat := Nat.le_of_not_lt hascii
    have hmatters : caseMatters [c] = (Text.lowercase [c] != [c]) := by
      rw [caseMatters, decide_eq_true hbeyond, Bool.true_and]
    rw [hmatters, bne_eq_false_iff_eq]
    constructor
    · intro hread
      rcases Text.lowercase_singleton c with hdotted | ⟨d, hd⟩
      · rw [hdotted] at hread
        have hmark := ascii_of_ofName? (by decide) hread '\u0307' (by decide)
        exact absurd hmark (by decide)
      · rw [hd] at hread ⊢
        rw [eq_of_ofChar? hbeyond h hread]
    · intro hsame
      rw [hsame]
      exact h

/-- A text in small letters names the same keysym unless case matters. -/
theorem ofName?_lowercase_eq_some_iff {part : Text} {sym : Keysym}
    (h : ofName? part = some sym) :
    ofName? (Text.lowercase part) = some sym ↔ caseMatters part = false := by
  by_cases hlength : part.length = 1
  · obtain ⟨c, rfl⟩ := List.length_eq_one_iff.mp hlength
    exact ofName?_lowercase_of_char h
  · exact ofName?_lowercase_of_length hlength h

end Hotkeys.Keys.Keysym
