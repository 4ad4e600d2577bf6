import Hotkeys.Proofs.Text.Ascii
import Hotkeys.Proofs.Text.Trimming
import Hotkeys.Text.Lowercase
import Mathlib.Data.List.Basic

/-!
# Lower-casing

What lower-casing yields is stable under it (`stable_of_mem_lowercase`), so it is idempotent
(`lowercase_lowercase`); on ASCII it is the replacement of capitals (`lowercase_of_ascii`); a
character that ends a word hides what stands behind it from what stands before it
(`lowerAfter_append_cons`); and blanks at the ends do not matter to it (`trim_lowercase`), for they
neither change nor take part in the rule for final sigma.

The facts about the case tables are decided once, run by run and for pairs of runs.
-/

set_option autoImplicit false

namespace Hotkeys.Text

/-! ## The runs of capitals -/

namespace CaseRun

/-- The distance from the first capital of the run to the last. -/
def span (r : CaseRun) : Nat :=
  r.last - r.first

/-- Whether a code point lies neither among the capitals of the run nor among their small
letters. -/
def avoids (r : CaseRun) (n : Nat) : Bool :=
  (Nat.blt n r.first || Nat.blt r.last n) && (Nat.blt n r.lower || Nat.blt (r.lower + r.span) n)

/-- Whether the small letters of the run are scalar values other than U+0130. -/
def isSound (r : CaseRun) : Bool :=
  (Nat.blt (r.lower + r.span) 0xd800 ||
      (Nat.blt 0xdfff r.lower && Nat.blt (r.lower + r.span) 0x110000)) &&
    (Nat.blt 0x130 r.lower || Nat.blt (r.lower + r.span) 0x130)

/-- Whether no small letter of run `r` is a capital of run `s`: the one lie below or above the
others, or in the gaps between them. -/
def isApart (r s : CaseRun) : Bool :=
  Nat.blt s.last r.lower || Nat.blt (r.lower + r.span) s.first ||
    ((r.stride == 2 || r.span == 0) && s.stride == 2 && (r.lower + s.first) % 2 == 1)

variable {r s : CaseRun} {n : Nat}

theorem bounds_of_holds (h : r.holds n = true) :
    r.first ≤ n ∧ n ≤ r.last ∧ (n - r.first) % r.stride = 0 := by
  simpa [holds, and_assoc] using h

theorem not_holds_of_avoids (h : r.avoids n = true) : r.holds n = false := by
  simp only [avoids, Bool.and_eq_true, Bool.or_eq_true, Nat.blt_eq] at h
  refine Bool.eq_false_iff.mpr fun hholds => ?_
  have hbounds := bounds_of_holds hholds
  omega

theorem ne_lower_of_avoids (h : r.avoids n = true) {m : Nat} (hm : r.holds m = true) :
    n ≠ r.lower + (m - r.first) := by
  simp only [avoids, span, Bool.and_eq_true, Bool.or_eq_true, Nat.blt_eq] at h
  have hbounds := bounds_of_holds hm
  omega

theorem not_holds_of_isApart (h : r.isApart s = true) (hn : r.holds n = true) :
    s.holds (r.lower + (n - r.first)) = false := by
  simp only [isApart, span, Bool.or_eq_true, Bool.and_eq_true, Nat.blt_eq, beq_iff_eq] at h
  refine Bool.eq_false_iff.mpr fun hholds => ?_
  obtain ⟨hfirst, hlast, hstride⟩ := bounds_of_holds hn
  obtain ⟨hfirst', hlast', hstride'⟩ := bounds_of_holds hholds
  rcases h with (hbelow | habove) | ⟨⟨hr, hs⟩, hodd⟩
  · omega
  · omega
  · rw [hs] at hstride'
    rcases hr with hr | hr
    · rw [hr] at hstride
      omega
    · omega

end CaseRun

theorem isSound_of_mem {r : CaseRun} (hr : r ∈ caseRuns) : r.isSound = true := by
  have hall : caseRuns.all CaseRun.isSound = true := by decide
  exact List.all_eq_true.mp hall r hr

theorem isApart_of_mem {r s : CaseRun} (hr : r ∈ caseRuns) (hs : s ∈ caseRuns) :
    r.isApart s = true := by
  have hall : (caseRuns.all fun r => caseRuns.all r.isApart) = true := by decide +kernel
  exact List.all_eq_true.mp (List.all_eq_true.mp hall r hr) s hs

/-! ## Single characters -/

theorem toNat_lower {r : CaseRun} (hr : r ∈ caseRuns) {n : Nat} (hn : r.holds n = true) :
    (Char.ofNat (r.lower + (n - r.first))).toNat = r.lower + (n - r.first) := by
  have hsound := isSound_of_mem hr
  simp only [CaseRun.isSound, CaseRun.span, Bool.and_eq_true, Bool.or_eq_true, Nat.blt_eq]
    at hsound
  have hbounds := CaseRun.bounds_of_holds hn
  refine toNat_ofNat ?_
  rw [Nat.isValidChar]
  omega

/-- The three forms of lower-casing a character: the one with two characters, a small letter of a
run, and the character itself. -/
theorem lowerChar_cases (c : Char) :
    (c.toNat = 0x130 ∧ lowerChar c = ['i', '\u0307']) ∨
      (∃ r ∈ caseRuns, r.holds c.toNat = true ∧
        lowerChar c = [Char.ofNat (r.lower + (c.toNat - r.first))]) ∨
      lowerChar c = [c] ∧ c.toNat ≠ 0x130 ∧ ∀ r ∈ caseRuns, r.holds c.toNat = false := by
  rw [lowerChar]
  by_cases hdotted : c.toNat = 0x130
  · exact Or.inl ⟨hdotted, if_pos hdotted⟩
  · rw [if_neg hdotted]
    cases hfind : caseRuns.find? fun r => r.holds c.toNat with
    | some r =>
        have hholds := List.find?_some hfind
        exact Or.inr (Or.inl ⟨r, List.mem_of_find?_eq_some hfind, hholds, rfl⟩)
    | none =>
        refine Or.inr (Or.inr ⟨rfl, hdotted, fun r hr => ?_⟩)
        exact Bool.eq_false_iff.mpr (List.find?_eq_none.mp hfind r hr)

/-- Whether lower-casing leaves a character as it is, wherever it stands. -/
def Stable (c : Char) : Prop :=
  c ≠ 'Σ' ∧ lowerChar c = [c]

theorem lowerChar_of_not_holds {c : Char} (hdotted : c.toNat ≠ 0x130)
    (h : ∀ r ∈ caseRuns, r.holds c.toNat = false) : lowerChar c = [c] := by
  rcases lowerChar_cases c with ⟨hc, _⟩ | ⟨r, hr, hholds, _⟩ | ⟨hsame, _⟩
  · exact absurd hc hdotted
  · exact absurd hholds (Bool.eq_false_iff.mp (h r hr))
  · exact hsame

theorem exists_run_sigma : ∃ r ∈ caseRuns, r.holds 'Σ'.toNat = true := by
  have hany : (caseRuns.any fun r => r.holds 'Σ'.toNat) = true := by decide
  exact List.any_eq_true.mp hany

theorem stable_of_not_holds {c : Char} (hdotted : c.toNat ≠ 0x130)
    (h : ∀ r ∈ caseRuns, r.holds c.toNat = false) : Stable c := by
  refine ⟨fun hsigma => ?_, lowerChar_of_not_holds hdotted h⟩
  obtain ⟨r, hr, hholds⟩ := exists_run_sigma
  exact Bool.false_ne_true ((h r hr).symm.trans (hsigma ▸ hholds))

theorem stable_of_mem_lowerChar {c d : Char} (h : d ∈ lowerChar c) : Stable d := by
  rcases lowerChar_cases c with ⟨_, hform⟩ | ⟨r, hr, hholds, hform⟩ | ⟨hform, hdotted, hnone⟩
  · rw [hform, List.mem_cons, List.mem_singleton] at h
    rcases h with rfl | rfl
    · exact ⟨by decide, by decide⟩
    · exact ⟨by decide, by decide⟩
  · rw [hform, List.mem_singleton] at h
    have hnat : d.toNat = r.lower + (c.toNat - r.first) := by rw [h, toNat_lower hr hholds]
    have hsound := isSound_of_mem hr
    simp only [CaseRun.isSound, CaseRun.span, Bool.and_eq_true, Bool.or_eq_true, Nat.blt_eq]
      at hsound
    have hbounds := CaseRun.bounds_of_holds hholds
    refine stable_of_not_holds (by omega) fun s hs => ?_
    rw [hnat]
    exact CaseRun.not_holds_of_isApart (isApart_of_mem hr hs) hholds
  · rw [hform, List.mem_singleton] at h
    exact h ▸ stable_of_not_holds hdotted hnone

theorem lowerChar_ne_nil (c : Char) : lowerChar c ≠ [] := by
  rcases lowerChar_cases c with ⟨_, h⟩ | ⟨_, _, _, h⟩ | ⟨h, _⟩ <;> rw [h] <;>
    exact List.cons_ne_nil _ _

theorem length_lowerChar_le (c : Char) : (lowerChar c).length ≤ 2 := by
  rcases lowerChar_cases c with ⟨_, h⟩ | ⟨_, _, _, h⟩ | ⟨h, _⟩ <;> rw [h] <;> simp

theorem lowerChar_of_ascii {c : Char} (hc : c.toNat < 0x80) : lowerChar c = [c.toLower] := by
  have hall : ∀ n < 0x80, lowerChar (Char.ofNat n) = [(Char.ofNat n).toLower] := by decide +kernel
  have h := hall c.toNat hc
  rwa [Char.ofNat_toNat] at h

theorem ne_sigma_of_ascii {c : Char} (hc : c.toNat < 0x80) : c ≠ 'Σ' := by
  rintro rfl
  exact absurd hc (by decide)

/-- Whether a character is an ASCII character but no capital. -/
def isSmallAscii (c : Char) : Bool :=
  Nat.blt c.toNat 0x80 && !c.isUpper

theorem stable_of_isSmallAscii {c : Char} (h : isSmallAscii c = true) : Stable c := by
  rw [isSmallAscii, Bool.and_eq_true, Bool.not_eq_true', Nat.blt_eq] at h
  refine ⟨ne_sigma_of_ascii h.1, ?_⟩
  rw [lowerChar_of_ascii h.1, toLower_of_not_isUpper h.2]

theorem isSmallAscii_of_isDigit {c : Char} (h : c.isDigit = true) : isSmallAscii c = true := by
  have hrange := (isDigit_iff c).mp h
  rw [isSmallAscii, Bool.and_eq_true, Bool.not_eq_true', Nat.blt_eq]
  refine ⟨by omega, Bool.eq_false_iff.mpr fun hcapital => ?_⟩
  have hcapital := (isUpper_iff c).mp hcapital
  omega

/-! ## Characters without case -/

/-- Whether a character lies outside of all case mappings: lower-casing neither changes it nor
yields it. -/
def isCaseless (c : Char) : Bool :=
  !(['i', '\u0307', 'σ', 'ς', '\u0130'].contains c) && caseRuns.all fun r => r.avoids c.toNat

theorem stable_of_isCaseless {c : Char} (h : isCaseless c = true) : Stable c := by
  simp only [isCaseless, Bool.and_eq_true, List.all_eq_true, Bool.not_eq_true',
    List.contains_eq_mem, decide_eq_false_iff_not] at h
  refine stable_of_not_holds (fun hdotted => h.1 ?_) fun r hr =>
    CaseRun.not_holds_of_avoids (h.2 r hr)
  have hc : c = '\u0130' := Char.toNat_inj.mp hdotted
  simp [hc]

theorem eq_of_mem_lowerChar {c d : Char} (hd : isCaseless d = true) (h : d ∈ lowerChar c) :
    d = c := by
  simp only [isCaseless, Bool.and_eq_true, List.all_eq_true, Bool.not_eq_true',
    List.contains_eq_mem, decide_eq_false_iff_not] at hd
  rcases lowerChar_cases c with ⟨_, hform⟩ | ⟨r, hr, hholds, hform⟩ | ⟨hform, _⟩
  · rw [hform, List.mem_cons, List.mem_singleton] at h
    exact absurd (by rcases h with rfl | rfl <;> simp) hd.1
  · rw [hform, List.mem_singleton] at h
    refine absurd ?_ (CaseRun.ne_lower_of_avoids (hd.2 r hr) hholds)
    rw [h, toNat_lower hr hholds]
  · rw [hform, List.mem_singleton] at h
    exact h

/-! ## Blanks -/

/-- The code points of the blanks. -/
def blankCodes : List Nat :=
  [9, 10, 11, 12, 13, 0x20, 0x85, 0xa0, 0x1680, 0x2000, 0x2001, 0x2002, 0x2003, 0x2004, 0x2005,
    0x2006, 0x2007, 0x2008, 0x2009, 0x200a, 0x2028, 0x2029, 0x202f, 0x205f, 0x3000]

theorem mem_blankCodes {c : Char} (h : isBlank c = true) : c.toNat ∈ blankCodes := by
  simp only [isBlank, Bool.or_eq_true, Bool.and_eq_true, decide_eq_true_eq, beq_iff_eq] at h
  simp only [blankCodes, List.mem_cons, List.not_mem_nil, or_false]
  omega

theorem isCaseless_of_isBlank {c : Char} (h : isBlank c = true) : isCaseless c = true := by
  have hall : ∀ n ∈ blankCodes, isCaseless (Char.ofNat n) = true := by decide
  have hc := hall c.toNat (mem_blankCodes h)
  rwa [Char.ofNat_toNat] at hc

theorem stable_of_isBlank {c : Char} (h : isBlank c = true) : Stable c :=
  stable_of_isCaseless (isCaseless_of_isBlank h)

/-- Whether a character is neither cased nor case-ignorable, so that a search for a cased one ends at
it. -/
def breaksWord (c : Char) : Bool :=
  !inRanges caseIgnorableRanges c.toNat && !inRanges casedRanges c.toNat

theorem breaksWord_of_isBlank {c : Char} (h : isBlank c = true) : breaksWord c = true := by
  have hall : ∀ n ∈ blankCodes, breaksWord (Char.ofNat n) = true := by decide +kernel
  have hc := hall c.toNat (mem_blankCodes h)
  rwa [Char.ofNat_toNat] at hc

/-- What stands behind the end of a word does not decide whether the word meets a cased
character. -/
theorem meetsCased_append_cons {c : Char} (hc : breaksWord c = true) (t rest : Text) :
    meetsCased (t ++ c :: rest) = meetsCased t := by
  rw [breaksWord, Bool.and_eq_true, Bool.not_eq_true', Bool.not_eq_true'] at hc
  rw [meetsCased, meetsCased, List.dropWhile_append]
  cases hdrop : t.dropWhile fun c => inRanges caseIgnorableRanges c.toNat with
  | nil =>
      rw [List.isEmpty_nil, if_pos rfl, List.dropWhile_cons, hc.1]
      exact hc.2
  | cons d ds => rfl

/-- Blanks behind a text do not decide whether it meets a cased character. -/
theorem meetsCased_append_blanks {blanks : Text} (h : Blanks blanks) (t : Text) :
    meetsCased (t ++ blanks) = meetsCased t := by
  cases blanks with
  | nil => rw [List.append_nil]
  | cons c cs => exact meetsCased_append_cons (breaksWord_of_isBlank (h c List.mem_cons_self)) t cs

/-! ## Texts -/

theorem lowerBetween_of_ne {c : Char} (hc : c ≠ 'Σ') (before rest : Text) :
    lowerBetween before c rest = lowerChar c :=
  if_neg hc

/-- What a character becomes among others. -/
theorem mem_lowerBetween {before rest : Text} {c d : Char} (h : d ∈ lowerBetween before c rest) :
    d ∈ lowerChar c ∨ d = 'σ' ∨ d = 'ς' := by
  rw [lowerBetween] at h
  split at h
  case isTrue => split at h <;> simp_all
  case isFalse => exact Or.inl h

theorem lowerBetween_ne_nil (before : Text) (c : Char) (rest : Text) :
    lowerBetween before c rest ≠ [] := by
  rw [lowerBetween]
  split
  case isTrue => split <;> exact List.cons_ne_nil _ _
  case isFalse => exact lowerChar_ne_nil c

theorem length_lowerBetween_le (before : Text) (c : Char) (rest : Text) :
    (lowerBetween before c rest).length ≤ 2 := by
  rw [lowerBetween]
  split
  case isTrue => split <;> simp
  case isFalse => exact length_lowerChar_le c

theorem mem_lowerAfter {before t : Text} {d : Char} (h : d ∈ lowerAfter before t) :
    ∃ c ∈ t, d ∈ lowerChar c ∨ d = 'σ' ∨ d = 'ς' := by
  induction t generalizing before with
  | nil => exact absurd h List.not_mem_nil
  | cons c cs ih =>
      rw [lowerAfter, List.mem_append] at h
      rcases h with hc | hcs
      · exact ⟨c, List.mem_cons_self, mem_lowerBetween hc⟩
      · obtain ⟨found, hfound, hd⟩ := ih hcs
        exact ⟨found, List.mem_cons_of_mem c hfound, hd⟩

theorem stable_of_mem_lowercase {t : Text} {d : Char} (h : d ∈ lowercase t) : Stable d := by
  obtain ⟨c, _, hd | rfl | rfl⟩ := mem_lowerAfter h
  · exact stable_of_mem_lowerChar hd
  · exact ⟨by decide, by decide⟩
  · exact ⟨by decide, by decide⟩

theorem mem_of_mem_lowercase {t : Text} {d : Char} (hd : isCaseless d = true)
    (h : d ∈ lowercase t) : d ∈ t := by
  obtain ⟨c, hc, hform | rfl | rfl⟩ := mem_lowerAfter h
  · exact eq_of_mem_lowerChar hd hform ▸ hc
  · exact absurd hd (by decide)
  · exact absurd hd (by decide)

/-- Stable characters stay as they are in front of a text; they may count for what is behind them. -/
theorem lowerAfter_append_of_stable (before : Text) {s : Text} (h : ∀ c ∈ s, Stable c) (t : Text) :
    lowerAfter before (s ++ t) = s ++ lowerAfter (s.reverse ++ before) t := by
  induction s generalizing before with
  | nil => rfl
  | cons c cs ih =>
      obtain ⟨hc, hform⟩ := h c List.mem_cons_self
      rw [List.cons_append, lowerAfter, lowerBetween_of_ne hc, hform,
        ih (c :: before) fun d hd => h d (List.mem_cons_of_mem c hd), List.reverse_cons,
        List.append_assoc]
      rfl

theorem lowerAfter_of_stable (before : Text) {t : Text} (h : ∀ c ∈ t, Stable c) :
    lowerAfter before t = t := by
  have happend := lowerAfter_append_of_stable before h []
  rwa [List.append_nil, lowerAfter, List.append_nil] at happend

theorem lowercase_of_stable {t : Text} (h : ∀ c ∈ t, Stable c) : lowercase t = t :=
  lowerAfter_of_stable [] h

theorem lowercase_lowercase (t : Text) : lowercase (lowercase t) = lowercase t :=
  lowercase_of_stable fun _ hc => stable_of_mem_lowercase hc

theorem lowercase_of_ascii {t : Text} (h : Ascii t) :
    lowercase t = asciiLower t := by
  have hafter : ∀ before, lowerAfter before t = asciiLower t := by
    induction t with
    | nil => exact fun _ => rfl
    | cons c cs ih =>
        intro before
        have hc := h c List.mem_cons_self
        rw [lowerAfter, lowerBetween_of_ne (ne_sigma_of_ascii hc), lowerChar_of_ascii hc,
          ih fun d hd => h d (List.mem_cons_of_mem c hd)]
        rfl
  exact hafter []

theorem lowerAfter_eq_nil_iff {before t : Text} : lowerAfter before t = [] ↔ t = [] := by
  cases t with
  | nil => exact ⟨fun _ => rfl, fun _ => rfl⟩
  | cons c cs =>
      have hne := lowerBetween_ne_nil before c cs
      simp [lowerAfter, hne]

theorem lowercase_eq_nil_iff {t : Text} : lowercase t = [] ↔ t = [] :=
  lowerAfter_eq_nil_iff

/-- A text is lowered up to the end of a word as if nothing stood behind it. -/
theorem lowerAfter_append_cons {c : Char} (hc : breaksWord c = true) (before t rest : Text) :
    lowerAfter before (t ++ c :: rest) =
      lowerAfter before t ++ lowerAfter (t.reverse ++ before) (c :: rest) := by
  induction t generalizing before with
  | nil => rfl
  | cons d ds ih =>
      have hbetween : lowerBetween before d (ds ++ c :: rest) = lowerBetween before d ds := by
        rw [lowerBetween, lowerBetween, meetsCased_append_cons hc]
      rw [List.cons_append, lowerAfter, lowerAfter, hbetween, ih, List.append_assoc,
        List.reverse_cons, List.append_assoc, List.singleton_append]

/-- A character that ends a word and stays as it is separates what is lowered on either side. -/
theorem exists_lowercase_append_cons {c : Char} (hc : breaksWord c = true) (hstable : Stable c)
    (t rest : Text) : ∃ more, lowercase (t ++ c :: rest) = lowercase t ++ c :: more := by
  refine ⟨lowerAfter (c :: (t.reverse ++ [])) rest, ?_⟩
  rw [lowercase, lowerAfter_append_cons hc, lowerAfter, lowerBetween_of_ne hstable.1, hstable.2]
  rfl

/-! ## Blanks around a text -/

/-- Blanks behind a text stay as they are and leave the rest as it would be without them. -/
theorem lowerAfter_append_blanks (before t : Text) {blanks : Text} (h : Blanks blanks) :
    lowerAfter before (t ++ blanks) = lowerAfter before t ++ blanks := by
  cases blanks with
  | nil => rw [List.append_nil, List.append_nil]
  | cons c cs =>
      have hstable : ∀ d ∈ c :: cs, Stable d := fun d hd => stable_of_isBlank (h d hd)
      rw [lowerAfter_append_cons (breaksWord_of_isBlank (h c List.mem_cons_self)),
        lowerAfter_of_stable _ hstable]

/-- Blanks before a text have no say in how it is lowered. -/
theorem lowerAfter_blanks_append (before : Text) {blanks : Text} (h : Blanks blanks) (t : Text) :
    lowerAfter (before ++ blanks) t = lowerAfter before t := by
  induction t generalizing before with
  | nil => rfl
  | cons c cs ih =>
      have hbetween : lowerBetween (before ++ blanks) c cs = lowerBetween before c cs := by
        rw [lowerBetween, lowerBetween, meetsCased_append_blanks h]
      rw [lowerAfter, lowerAfter, hbetween, ← List.cons_append, ih]

theorem lowercase_between {before after : Text} (hbefore : Blanks before) (hafter : Blanks after)
    (t : Text) : lowercase (before ++ (t ++ after)) = before ++ (lowercase t ++ after) := by
  have hstable : ∀ c ∈ before, Stable c := fun c hc => stable_of_isBlank (hbefore c hc)
  rw [lowercase, lowerAfter_append_of_stable [] hstable, lowerAfter_append_blanks _ _ hafter,
    List.append_nil, ← List.nil_append before.reverse,
    lowerAfter_blanks_append [] hbefore.reverse, lowercase]

/-- The first character of a lowered text is a form of the first one. -/
theorem head?_lowerAfter {before : Text} {c : Char} {cs : Text} {d : Char}
    (h : d ∈ (lowerAfter before (c :: cs)).head?) : d ∈ lowerBetween before c cs := by
  rw [lowerAfter, List.head?_append_of_ne_nil _ (lowerBetween_ne_nil before c cs)] at h
  exact List.mem_of_head? h

theorem not_blank_of_mem_lowerBetween {before rest : Text} {c d : Char}
    (hc : isBlank c = false) (h : d ∈ lowerBetween before c rest) : isBlank d = false := by
  refine Bool.eq_false_iff.mpr fun hblank => ?_
  rcases mem_lowerBetween h with hform | rfl | rfl
  · rw [eq_of_mem_lowerChar (isCaseless_of_isBlank hblank) hform] at hblank
    exact Bool.eq_false_iff.mp hc hblank
  · exact absurd hblank (by decide)
  · exact absurd hblank (by decide)

theorem getLast?_lowerAfter {before : Text} {t : Text} {c d : Char}
    (h : d ∈ (lowerAfter before (t ++ [c])).getLast?) :
    d ∈ lowerBetween (t.reverse ++ before) c [] := by
  induction t generalizing before with
  | nil =>
      rw [List.nil_append, lowerAfter, lowerAfter, List.append_nil] at h
      exact List.mem_of_getLast? h
  | cons first rest ih =>
      have hne : lowerAfter (first :: before) (rest ++ [c]) ≠ [] :=
        fun hnil => List.append_ne_nil_of_right_ne_nil rest (List.cons_ne_nil c [])
          (lowerAfter_eq_nil_iff.mp hnil)
      rw [List.cons_append, lowerAfter, List.getLast?_append_of_ne_nil _ hne] at h
      rw [List.reverse_cons, List.append_assoc]
      exact ih h

/-- A text without blanks at its ends is lowered to one. -/
theorem trim_lowercase_of_trim {t : Text} (h : trim t = t) : trim (lowercase t) = lowercase t := by
  rcases List.eq_nil_or_concat t with rfl | ⟨lead, last, rfl⟩
  · rfl
  · rw [List.concat_eq_append] at h ⊢
    refine trim_eq_self (fun d hd => ?_) fun d hd => ?_
    · cases hcons : lead ++ [last] with
      | nil => exact absurd hcons (List.append_ne_nil_of_right_ne_nil lead (List.cons_ne_nil _ _))
      | cons c cs =>
          rw [hcons] at h hd
          have hc : isBlank c = false := head_trim (t := c :: cs) (by rw [h]; rfl)
          exact not_blank_of_mem_lowerBetween hc (head?_lowerAfter hd)
    · have hlast : isBlank last = false :=
        getLast_trim (t := lead ++ [last]) (by rw [h]; exact List.getLast?_concat)
      exact not_blank_of_mem_lowerBetween hlast (getLast?_lowerAfter hd)

/-- Blanks are trimmed before lower-casing or after it. -/
theorem trim_lowercase (t : Text) : trim (lowercase t) = lowercase (trim t) := by
  obtain ⟨before, after, hbefore, hafter, ht⟩ := exists_blanks_trim t
  have hlower := congrArg lowercase ht
  rw [lowercase_between hbefore hafter] at hlower
  rw [hlower]
  exact trim_between hbefore hafter (trim_lowercase_of_trim (trim_trim t))

/-- A single character is lowered to a single one, but for U+0130. -/
theorem lowercase_singleton (c : Char) :
    lowercase [c] = ['i', '\u0307'] ∨ ∃ d, lowercase [c] = [d] := by
  have hform : lowercase [c] = lowerBetween [] c [] := List.append_nil _
  rw [hform, lowerBetween]
  split
  case isTrue => exact Or.inr (by split <;> exact ⟨_, rfl⟩)
  case isFalse =>
    rcases lowerChar_cases c with ⟨_, h⟩ | ⟨_, _, _, h⟩ | ⟨h, _⟩
    · exact Or.inl h
    · exact Or.inr ⟨_, h⟩
    · exact Or.inr ⟨_, h⟩

/-- A single character is lowered to at most two. -/
theorem length_lowercase_singleton_le (c : Char) : (lowercase [c]).length ≤ 2 := by
  rw [lowercase, lowerAfter, lowerAfter, List.append_nil]
  exact length_lowerBetween_le [] c []

end Hotkeys.Text
