import Hotkeys.Proofs.Keys.Analysis
import Hotkeys.Proofs.Text.Lowering
import Mathlib.Data.List.Nodup

/-!
# The names of keysyms

What the tables of names have to satisfy so that names can be shown and read again: a name is made
of word characters and names no modifier, a name of one character stands for that character, and no
name stands twice in the tables (`isWellNamed_of_mem`, `nodup_names`).

The tables are checked in one go (`wellNamed_spelled`), for most of the work is to spell the names
out.
-/

set_option autoImplicit false

namespace Hotkeys.Keys.Keysym

/-! ## The check -/

/-- The number whose bits are set at the code points of the blanks. -/
def blankBits : Nat :=
  Text.blankCodes.foldl (fun bits n => bits ||| 1 <<< n) 0

/-- What is asked of a named keysym: the name is no modifier but made of word characters, alone it
stands for itself and otherwise does not begin like a number, and the value fits into 32 bits and
is none of a blank beyond Latin-1. -/
def isWellNamed (e : Text × Keysym) : Bool :=
  e.1.all Text.isAsciiWord && (!(e.1.drop 7).isEmpty || Modifier.ofName? e.1 == none) &&
    (match e.1 with
      | [] => false
      | [c] => e.2 == c.toNat
      | c :: _ => c != '0') &&
    Nat.blt e.2 0x100000000 && !blankBits.testBit (e.2 - unicodeBase)

/-- A number for a name.  The modulus is one that tells all names of the tables apart. -/
def fingerprint (name : Text) : Nat :=
  name.foldl (fun n c => 31 * n + c.toNat) 0 % 311002

/-- Whether numbers are pairwise different and no bits of `seen`. -/
def areNew (seen : Nat) : List Nat → Bool
  | [] => true
  | n :: ns => !seen.testBit n && areNew (seen ||| 1 <<< n) ns

/-- The named keysyms, their names spelled out byte by byte. -/
def spelled : List (Text × Keysym) :=
  named.map fun e => (Text.letters e.1, e.2)

theorem wellNamed_spelled :
    (spelled.all isWellNamed && areNew 0 (spelled.map fun e => fingerprint e.1)) = true := by
  decide +kernel

/-! ## What it shows -/

theorem spec_of_areNew {seen : Nat} {ns : List Nat} (h : areNew seen ns = true) :
    ns.Nodup ∧ ∀ n ∈ ns, seen.testBit n = false := by
  induction ns generalizing seen with
  | nil => exact ⟨List.nodup_nil, fun _ hn => absurd hn List.not_mem_nil⟩
  | cons n ns ih =>
      rw [areNew, Bool.and_eq_true, Bool.not_eq_true'] at h
      obtain ⟨hnodup, hnew⟩ := ih h.2
      have hbits : ∀ m ∈ ns, seen.testBit m = false ∧ m ≠ n := by
        intro m hm
        have hbit := hnew m hm
        rw [Nat.testBit_or, Bool.or_eq_false_iff, Nat.one_shiftLeft, Nat.testBit_two_pow] at hbit
        exact ⟨hbit.1, fun heq => of_decide_eq_false hbit.2 heq.symm⟩
      refine ⟨List.nodup_cons.mpr ⟨fun hn => (hbits n hn).2 rfl, hnodup⟩, fun m hm => ?_⟩
      rcases List.mem_cons.mp hm with rfl | hrest
      · exact h.1
      · exact (hbits m hrest).1

theorem isAsciiWord_of_isWellNamed {e : Text × Keysym} (h : isWellNamed e = true) {c : Char}
    (hc : c ∈ e.1) : Text.isAsciiWord c = true := by
  simp only [isWellNamed, Bool.and_eq_true, List.all_eq_true] at h
  exact h.1.1.1.1 c hc

theorem spelled_eq : spelled = entries := by
  have hcheck := wellNamed_spelled
  rw [Bool.and_eq_true, List.all_eq_true] at hcheck
  refine List.map_congr_left fun e he => ?_
  have hnamed := hcheck.1 _ (List.mem_map_of_mem he)
  rw [Text.toList_of_ascii fun c hc =>
    Text.ascii_of_isAsciiWord (isAsciiWord_of_isWellNamed hnamed hc)]

theorem isWellNamed_of_mem {e : Text × Keysym} (he : e ∈ entries) : isWellNamed e = true := by
  have hcheck := wellNamed_spelled
  rw [Bool.and_eq_true, spelled_eq, List.all_eq_true] at hcheck
  exact hcheck.1 e he

/-- No name stands twice in the tables. -/
theorem nodup_names : (entries.map Prod.fst).Nodup := by
  have hcheck := wellNamed_spelled
  rw [Bool.and_eq_true, spelled_eq] at hcheck
  have hprints := (spec_of_areNew hcheck.2).1
  refine List.Nodup.of_map fingerprint ?_
  rwa [List.map_map]

theorem isAsciiWord_of_mem {e : Text × Keysym} (he : e ∈ entries) {c : Char} (hc : c ∈ e.1) :
    Text.isAsciiWord c = true :=
  isAsciiWord_of_isWellNamed (isWellNamed_of_mem he) hc

theorem ascii_of_mem {e : Text × Keysym} (he : e ∈ entries) : Text.Ascii e.1 :=
  fun _ hc => Text.ascii_of_isAsciiWord (isAsciiWord_of_mem he hc)

theorem ofName?_of_mem {e : Text × Keysym} (he : e ∈ entries) : Modifier.ofName? e.1 = none := by
  have hnamed := isWellNamed_of_mem he
  simp only [isWellNamed, Bool.and_eq_true, Bool.or_eq_true, Bool.not_eq_true',
    List.isEmpty_eq_false_iff, ne_eq, List.drop_eq_nil_iff, beq_iff_eq] at hnamed
  rcases hnamed.1.1.1.2 with hlong | hnone
  · cases hmodifier : Modifier.ofName? e.1 with
    | none => rfl
    | some m => exact absurd (Modifier.length_of_ofName? hmodifier).2 hlong
  · exact hnone

/-- A name is a character that stands for itself, or it is longer and does not begin like a
number. -/
theorem name_cases {e : Text × Keysym} (he : e ∈ entries) :
    (∃ c, e = ([c], c.toNat)) ∨ ∃ c d rest, e.1 = c :: d :: rest ∧ c ≠ '0' := by
  have hnamed := isWellNamed_of_mem he
  simp only [isWellNamed, Bool.and_eq_true] at hnamed
  have hshape := hnamed.1.1.2
  obtain ⟨name, sym⟩ := e
  match name with
  | [] => exact absurd hshape Bool.false_ne_true
  | [c] =>
      have hsym : sym = c.toNat := beq_iff_eq.mp hshape
      exact Or.inl ⟨c, by rw [hsym]⟩
  | c :: d :: rest => exact Or.inr ⟨c, d, rest, rfl, bne_iff_ne.mp hshape⟩

theorem lt_of_mem {e : Text × Keysym} (he : e ∈ entries) : e.2 < 0x100000000 := by
  have hnamed := isWellNamed_of_mem he
  simp only [isWellNamed, Bool.and_eq_true, Nat.blt_eq] at hnamed
  have hvalue := hnamed.1.2
  omega

theorem testBit_blankBits {n : Nat} (hn : n ∈ Text.blankCodes) : blankBits.testBit n = true := by
  have hall : ∀ n ∈ Text.blankCodes, blankBits.testBit n = true := by decide
  exact hall n hn

theorem unicodeChar?_eq_some_iff {sym : Keysym} {c : Char} :
    unicodeChar? sym = some c ↔
      unicodeBase + 0x100 ≤ sym ∧ (sym - unicodeBase).isValidChar ∧
        Char.ofNat (sym - unicodeBase) = c := by
  unfold unicodeChar?
  generalize unicodeBase = base
  simp only [Option.ite_none_right_eq_some, Option.some.injEq, and_assoc]

/-- No blank beyond Latin-1 has a name. -/
theorem not_isBlank_of_mem {e : Text × Keysym} (he : e ∈ entries) {c : Char}
    (hc : unicodeChar? e.2 = some c) : Text.isBlank c = false := by
  have hnamed := isWellNamed_of_mem he
  simp only [isWellNamed, Bool.and_eq_true, Bool.not_eq_true'] at hnamed
  obtain ⟨_, hvalid, hchar⟩ := unicodeChar?_eq_some_iff.mp hc
  refine Bool.eq_false_iff.mpr fun hblank => ?_
  have hmem := Text.mem_blankCodes hblank
  rw [← hchar, Text.toNat_ofNat hvalid] at hmem
  exact Bool.false_ne_true (hnamed.2.symm.trans (testBit_blankBits hmem))

end Hotkeys.Keys.Keysym
