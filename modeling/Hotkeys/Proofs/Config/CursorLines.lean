import Hotkeys.Proofs.Config.Carets
import Hotkeys.Proofs.Config.Cursor

/-!
# Lines under the cursor

The cursor goes through a line as the line is read for its first fault: it comes to that fault at
the byte that the column tells, or else behind the line (`followsLine`).
-/

set_option autoImplicit false

namespace Hotkeys.Config.Cursor

open Text (Lines)
open Text.Utf8 (byteOf encode size)

/-! ## Groups and what is behind them -/

/-- Scans the rest of a keybinding line or of a command body. -/
noncomputable def rest? (source : Text) (body : Bool) (c : Cursor) :
    Option (Cursor × Option FaultAt) :=
  if body then c.restOfAction? source else c.restOfKeybinding? source

/-- Goes on behind something that was scanned, unless a fault was found in it. -/
noncomputable def thenRest? (source : Text) (body : Bool) :
    Cursor × Option FaultAt → Option (Cursor × Option FaultAt)
  | (c, some fault) => some (c, some fault)
  | (c, none) => c.rest? source body

/-- Scans from outside of any group on, or from inside the group that was opened at a place. -/
noncomputable def resume? (source : Text) (body : Bool) (group : Option Nat) (c : Cursor) :
    Option (Cursor × Option FaultAt) :=
  match group with
  | none => c.rest? source body
  | some opened => (restOfGroup? source opened c).bind (thenRest? source body)

variable {source : Text} {c : Cursor} {body : Bool} {before behind : List UInt8} {b : UInt8}
  {opened : Nat}

/-- Behind a byte and what it begins, a line is scanned on. -/
theorem bind_unlessFault (scanned : Option (Cursor × Option FaultAt))
    {round : Cursor → Option (Round Cursor (Cursor × Option FaultAt))}
    (hround : ∀ c, loop? round c = c.rest? source body) :
    (scanned.bind fun found => some (unlessFault found)).bind (goOn? round) =
      scanned.bind (thenRest? source body) := by
  rw [Option.bind_assoc]
  congr 1
  funext ⟨c, fault⟩
  cases fault with
  | some fault => rfl
  | none => exact hround c

/-- A byte in the midst of a line is scanned. -/
theorem rest?_cons (h : c.Between source before (b :: behind)) (hb : b ≠ Byte.newline)
    (hat : body = true → c.atKeybinding source = false) :
    c.rest? source body = ((c.on 1).scan? source b body).bind (thenRest? source body) := by
  unfold rest?
  cases body with
  | false =>
      simp only [Bool.false_eq_true, if_false]
      rw [restOfKeybinding?, loop?_eq, keybindingRound, next?_cons h]
      simp only [Option.bind_eq_bind, Option.bind_some, if_neg hb]
      exact bind_unlessFault _ fun _ => rfl
  | true =>
      simp only [if_true]
      rw [restOfAction?, loop?_eq, actionRound, hat rfl, next?_cons h]
      simp only [Bool.false_eq_true, if_false, Option.bind_eq_bind, Option.bind_some]
      exact bind_unlessFault _ fun _ => rfl

theorem scan?_opening (c : Cursor) :
    (c.on 1).scan? source Byte.opening body = restOfGroup? source c.pos (c.on 1) := by
  unfold scan?
  rw [if_neg (by decide), if_pos rfl, minus?_on]
  rfl

theorem scan?_closing (c : Cursor) :
    (c.on 1).scan? source Byte.closing body = some (c.on 1, some (.strayClosing, c.pos)) := by
  unfold scan?
  rw [if_neg (by decide), if_neg (by decide), if_pos rfl, minus?_on]
  rfl

theorem scan?_of_ne (c : Cursor) (hescape : b ≠ Byte.backslash) (hopening : b ≠ Byte.opening)
    (hclosing : b ≠ Byte.closing) : c.scan? source b body = some (c, none) := by
  unfold scan?
  rw [if_neg hescape, if_neg hopening, if_neg hclosing]
  rfl

theorem scan?_escape {next : Cursor} (h : c.skipEscaped? source body = some next) :
    c.scan? source Byte.backslash body = some (next, none) := by
  unfold scan?
  rw [if_pos rfl, h]
  rfl

/-- The bytes of a group, one at a time. -/
theorem restOfGroup?_closing (h : c.Between source before (Byte.closing :: behind)) :
    restOfGroup? source opened c = some (c.on 1, none) := by
  rw [restOfGroup?, loop?_eq, groupRound, next?_cons h]
  rfl

theorem restOfGroup?_opening (h : c.Between source before (Byte.opening :: behind)) :
    restOfGroup? source opened c = some (c.on 1, some (.nestedOpening, c.pos)) := by
  rw [restOfGroup?, loop?_eq, groupRound, next?_cons h]
  simp only [Option.bind_eq_bind, Option.bind_some, minus?_on]
  rfl

theorem restOfGroup?_of_ne (h : c.Between source before (b :: behind)) (hb : b ≠ Byte.newline)
    (hescape : b ≠ Byte.backslash) (hopening : b ≠ Byte.opening) (hclosing : b ≠ Byte.closing) :
    restOfGroup? source opened c = restOfGroup? source opened (c.on 1) := by
  rw [restOfGroup?, loop?_eq, groupRound, next?_cons h]
  simp only [Option.bind_eq_bind, Option.bind_some, if_neg hb, if_neg hescape, if_neg hopening,
    if_neg hclosing]
  rfl

theorem restOfGroup?_escape {next : Cursor}
    (h : c.Between source before (Byte.backslash :: behind))
    (hskip : (c.on 1).skipEscaped? source false = some next) :
    restOfGroup? source opened c = restOfGroup? source opened next := by
  rw [restOfGroup?, loop?_eq, groupRound, next?_cons h]
  simp only [Option.bind_eq_bind, Option.bind_some, hskip]
  rfl

/-- A group that is open at the end of its line. -/
theorem restOfGroup?_end (opened : Nat) (h : c.Between source before behind)
    (hbehind : behind = [] ∨ behind.head? = some Byte.newline) :
    ∃ c', restOfGroup? source opened c = some (c', some (.unclosedGroup, opened)) := by
  rcases hbehind with rfl | hnewline
  · refine ⟨c, ?_⟩
    rw [restOfGroup?, loop?_eq, groupRound, next?_nil h]
    rfl
  · obtain ⟨more, rfl⟩ := List.head?_eq_some_iff.mp hnewline
    refine ⟨c.on 1, ?_⟩
    rw [restOfGroup?, loop?_eq, groupRound, next?_cons h]
    rfl

/-! ## A line -/

/-- What comes at the end of a line, in front of the newline if there is one. -/
noncomputable def endOfLine? (source : Text) (body : Bool) (tail : List UInt8) (c : Cursor) :
    Option (Cursor × Option FaultAt) :=
  match body, tail with
  | false, [] => some (c, none)
  | false, _ :: _ => some (c.on 1, none)
  | true, [] => some ({ c with stage := none }, none)
  | true, _ :: _ => (c.on 1).restOfAction? source

/-- The rest of a line ends with the input or with a newline. -/
def EndsLine (tail : List UInt8) : Prop :=
  tail = [] ∨ tail.head? = some Byte.newline

theorem rest?_end (h : c.Between source before behind) (hbehind : EndsLine behind) :
    c.rest? source body = endOfLine? source body behind c := by
  unfold rest?
  rcases hbehind with rfl | hnewline
  · cases body with
    | false =>
        simp only [Bool.false_eq_true, if_false]
        rw [restOfKeybinding?, loop?_eq, keybindingRound, next?_nil h]
        rfl
    | true =>
        simp only [if_true]
        rw [restOfAction?, loop?_eq, actionRound, atKeybinding_nil h, next?_nil h]
        rfl
  · obtain ⟨more, rfl⟩ := List.head?_eq_some_iff.mp hnewline
    cases body with
    | false =>
        simp only [Bool.false_eq_true, if_false]
        rw [restOfKeybinding?, loop?_eq, keybindingRound, next?_cons h]
        rfl
    | true =>
        simp only [if_true]
        rw [restOfAction?, loop?_eq, actionRound, atKeybinding_newline h, next?_cons h]
        simp only [Bool.false_eq_true, if_false, Option.bind_eq_bind, Option.bind_some,
          scan?_of_ne (b := Byte.newline) _ (by decide) (by decide) (by decide)]
        rfl

/-- The cursor comes to the first fault of the rest of a line, or to its end.  Columns are counted
from `base`, where the line begins. -/
def FollowsLine (source : Text) (body : Bool) (base : Nat) (tail : List UInt8)
    (group : Option Nat) (column : Nat) (bs : List UInt8) (c : Cursor) : Prop :=
  let scanned := c.resume? source body (group.map fun opened => base + opened - 1)
  match firstFault group column bs with
  | some (fault, k) => ∃ c', scanned = some (c', some (fault, base + k - 1))
  | none => scanned = endOfLine? source body tail (c.on bs.length)

/-- What holds behind some bytes holds before them, if both the reading and the cursor just go over
them. -/
theorem FollowsLine.of_on {base : Nat} {tail : List UInt8} {group group' : Option Nat}
    {column : Nat} {bs rest : List UInt8} (n : Nat) (hlength : bs.length = n + rest.length)
    (hfault : firstFault group column bs = firstFault group' (column + n) rest)
    (hresume : c.resume? source body (group.map fun opened => base + opened - 1) =
      (c.on n).resume? source body (group'.map fun opened => base + opened - 1))
    (h : FollowsLine source body base tail group' (column + n) rest (c.on n)) :
    FollowsLine source body base tail group column bs c := by
  unfold FollowsLine at h ⊢
  rw [hfault, hresume, hlength, ← on_on]
  exact h

/-- A backslash at the end of a line escapes nothing, or else the newline. -/
theorem followsLine_escape_end {base : Nat} {tail : List UInt8} (htail : EndsLine tail)
    {group : Option Nat} {column : Nat} (h : c.Between source before (Byte.backslash :: tail))
    (hat : body = true → group = none → c.atKeybinding source = false)
    (hend : FollowsLine source body base tail group (column + 1) [] (c.on 1)) :
    FollowsLine source body base tail group column [Byte.backslash] c := by
  have hskip : ∀ body, tail = [] ∨ body = false →
      (c.on 1).skipEscaped? source body = some (c.on 1) := by
    rintro body hcase
    rcases htail with rfl | hnewline
    · exact skipEscaped?_nil h.on_one body
    · obtain ⟨more, rfl⟩ := List.head?_eq_some_iff.mp hnewline
      rw [hcase.resolve_left (List.cons_ne_nil _ _)]
      exact skipEscaped?_newline h.on_one
  cases group with
  | some opened =>
      refine hend.of_on 1 rfl rfl ?_
      simp only [resume?, Option.map_some]
      rw [restOfGroup?_escape h (hskip false (.inr rfl))]
  | none =>
      by_cases hcase : tail = [] ∨ body = false
      · refine hend.of_on 1 rfl rfl ?_
        simp only [resume?, Option.map_none]
        rw [rest?_cons h (by decide) (hat · rfl), scan?_escape (hskip body hcase)]
        rfl
      · -- The newline goes with the backslash, and the scan goes on behind it.
        rw [not_or, Bool.not_eq_false] at hcase
        obtain ⟨hne, rfl⟩ := hcase
        obtain ⟨more, rfl⟩ := List.head?_eq_some_iff.mp (htail.resolve_left hne)
        have hnewline : (c.on 1).skipEscaped? source true = some ((c.on 1).on 1) :=
          skipEscaped?_cons h.on_one (.inr rfl)
        have hresume : c.resume? source true none = ((c.on 1).on 1).rest? source true := by
          simp only [resume?]
          rw [rest?_cons h (by decide) (hat · rfl), scan?_escape hnewline]
          rfl
        exact hresume

/-- The cursor is in the midst of a line that begins at `base`: the bytes `bs` of it are left, the
first of them in the given column, and outside of groups no keybinding begins here. -/
structure OnLine (source : Text) (body : Bool) (base : Nat) (tail : List UInt8)
    (group : Option Nat) (column : Nat) (bs : List UInt8) (c : Cursor) : Prop where
  plain : Byte.newline ∉ bs
  between : ∃ before, c.Between source before (bs ++ tail)
  column : base + column = c.pos + 1
  inside : body = true → group = none → c.atKeybinding source = false

namespace OnLine

variable {base : Nat} {tail : List UInt8} {group : Option Nat} {column : Nat} {bs : List UInt8}

theorem ne_newline (h : OnLine source body base tail group column (b :: bs) c) :
    b ≠ Byte.newline :=
  fun hb => h.plain (hb ▸ List.mem_cons_self)

/-- Behind a byte of a line the cursor is in the same line, in a group or outside of any. -/
theorem next (h : OnLine source body base tail group column (b :: bs) c) (group' : Option Nat) :
    OnLine source body base tail group' (column + 1) bs (c.on 1) := by
  obtain ⟨before, hbetween⟩ := h.between
  have hcolumn := h.column
  have hpos : (c.on 1).pos = c.pos + 1 := rfl
  refine ⟨List.not_mem_of_not_mem_cons h.plain, ⟨_, hbetween.on_one⟩, by omega, fun _ _ => ?_⟩
  exact atKeybinding_of_ne hbetween.on_one h.ne_newline

theorem place (h : OnLine source body base tail group column bs c) :
    base + column - 1 = c.pos := by
  have hcolumn := h.column
  omega

theorem rest?_cons (h : OnLine source body base tail none column (b :: bs) c) :
    c.rest? source body = ((c.on 1).scan? source b body).bind (thenRest? source body) := by
  obtain ⟨before, hbetween⟩ := h.between
  exact Cursor.rest?_cons hbetween h.ne_newline (h.inside · rfl)

end OnLine

/-- The cursor goes through the rest of a line as the line is read.  The induction follows the
reading: what both just go over is left behind, and every other byte is a fault. -/
theorem followsLine {base : Nat} {tail : List UInt8} (htail : EndsLine tail) {group : Option Nat}
    {column : Nat} {bs : List UInt8} {c : Cursor}
    (h : OnLine source body base tail group column bs c) :
    FollowsLine source body base tail group column bs c := by
  obtain ⟨before, hbetween⟩ := h.between
  fun_induction firstFault group column bs generalizing c before with
  | case1 column group =>
      cases group with
      | none => exact rest?_end hbetween htail
      | some opened =>
          obtain ⟨c', hc'⟩ := restOfGroup?_end (base + opened - 1) hbetween htail
          refine ⟨c', ?_⟩
          simp only [resume?, Option.map_some, hc']
          rfl
  | case2 group column ih =>
      have hend := ih (h.next group) _ hbetween.on_one
      exact followsLine_escape_end htail hbetween h.inside hend
  | case3 group column b rest ih =>
      have hb : b ≠ Byte.newline := (h.next group).ne_newline
      have hskip : ∀ body, (c.on 1).skipEscaped? source body = some (c.on 2) := by
        intro body
        exact skipEscaped?_cons hbetween.on_one (.inl hb)
      have hrest := ih ((h.next group).next group) _ hbetween.on_one.on_one
      refine hrest.of_on 2 (Nat.add_comm _ 2) ?_ ?_
      · rw [firstFault.eq_def]
        rfl
      · cases group with
        | none =>
            simp only [resume?, Option.map_none]
            rw [h.rest?_cons, scan?_escape (hskip body)]
            rfl
        | some opened =>
            simp only [resume?, Option.map_some]
            rw [restOfGroup?_escape hbetween (hskip false)]
  | case4 column bs hescape ih =>
      refine (ih (h.next (some column)) _ hbetween.on_one).of_on 1 (Nat.add_comm _ 1) ?_ ?_
      · rw [firstFault.eq_def]
        rfl
      · simp only [resume?, Option.map_none, Option.map_some]
        rw [h.rest?_cons, scan?_opening, h.place]
  | case5 column bs hescape hopening =>
      have hfault : firstFault none column (Byte.closing :: bs) = some (.strayClosing, column) := by
        rw [firstFault.eq_def]
        rfl
      unfold FollowsLine
      rw [hfault]
      refine ⟨c.on 1, ?_⟩
      simp only [resume?, Option.map_none]
      rw [h.rest?_cons, scan?_closing, h.place]
      rfl
  | case6 column b bs hescape hopening hclosing ih =>
      refine (ih (h.next none) _ hbetween.on_one).of_on 1 (Nat.add_comm _ 1) ?_ ?_
      · rw [firstFault.eq_def]
        simp only [if_neg hescape, if_neg hopening, if_neg hclosing]
      · simp only [resume?, Option.map_none]
        rw [h.rest?_cons, scan?_of_ne _ hescape hopening hclosing]
        rfl
  | case7 column bs opened hescape ih =>
      refine (ih (h.next none) _ hbetween.on_one).of_on 1 (Nat.add_comm _ 1) ?_ ?_
      · rw [firstFault.eq_def]
        rfl
      · simp only [resume?, Option.map_none, Option.map_some]
        rw [restOfGroup?_closing hbetween]
        rfl
  | case8 column bs opened hescape hclosing =>
      have hfault : firstFault (some opened) column (Byte.opening :: bs) =
          some (.nestedOpening, column) := by
        rw [firstFault.eq_def]
        rfl
      unfold FollowsLine
      rw [hfault]
      refine ⟨c.on 1, ?_⟩
      simp only [resume?, Option.map_some]
      rw [restOfGroup?_opening hbetween, h.place]
      rfl
  | case9 column b bs hescape opened hclosing hopening ih =>
      refine (ih (h.next (some opened)) _ hbetween.on_one).of_on 1 (Nat.add_comm _ 1) ?_ ?_
      · rw [firstFault.eq_def]
        simp only [if_neg hescape, if_neg hopening, if_neg hclosing]
      · simp only [resume?, Option.map_some]
        rw [restOfGroup?_of_ne hbetween h.ne_newline hescape hopening hclosing]

/-! ## Line starts -/

/-- A line begins behind these bytes. -/
def StartsLine (before : List UInt8) : Prop :=
  before = [] ∨ ∃ front, before = front ++ [Byte.newline]

/-- At a line start the cursor sees whether the line opens a keybinding. -/
theorem atKeybinding_eq {line : Text} {rest : List UInt8}
    (h : c.Between source before (encode line ++ rest)) (hstart : StartsLine before)
    (hlone : line = ['#'] → rest = []) (hne : line ≠ []) :
    c.atKeybinding source = isOpener line := by
  obtain ⟨b, more, hbytes⟩ : ∃ b more, encode line ++ rest = b :: more :=
    List.exists_cons_of_ne_nil fun hnil =>
      hne (Text.Utf8.encode_eq_nil (List.append_eq_nil_iff.mp hnil).1)
  have hlineStart : (c.pos == 0 || c.previous source == some Byte.newline) = true := by
    rcases hstart with rfl | ⟨front, rfl⟩
    · rw [h.pos]
      rfl
    · rw [previous_eq h, beq_self_eq_true, Bool.or_true]
  rw [← Scanner.opensKeybinding_eq hlone hbytes hne]
  unfold atKeybinding
  rw [hlineStart, byteAt_eq h, byteAt_eq h, hbytes, Bool.true_and, List.head?_eq_getElem?]
  rfl

/-! ## Lines -/

/-- The first fault of lines, as the place of its brace; the first line begins at `place`. -/
def faultAt? (place : Nat) : List Text → Option FaultAt
  | [] => none
  | line :: rest =>
    match lineFault line with
    | some (fault, column) => some (fault, place + column - 1)
    | none => faultAt? (place + size line) rest

/-- A line with its newline. -/
theorem rest?_line (body : Bool) {t : Text} (ht : '\n' ∉ t) {rest : List UInt8}
    (h : c.Between source before (encode (t ++ ['\n']) ++ rest))
    (hat : body = true → c.atKeybinding source = false) :
    match lineFault (t ++ ['\n']) with
    | some (fault, column) =>
      ∃ c', c.rest? source body = some (c', some (fault, c.pos + column - 1))
    | none =>
      c.rest? source body =
        if body then (c.on (size (t ++ ['\n']))).restOfAction? source
        else some (c.on (size (t ++ ['\n'])), none) := by
  have hbytes : encode (t ++ ['\n']) ++ rest = encode t ++ Byte.newline :: rest := by
    rw [Text.Utf8.encode_append, List.append_assoc]
    rfl
  rw [hbytes] at h
  have hon : OnLine source body c.pos (Byte.newline :: rest) none 1 (encode t) c :=
    ⟨Scanner.notMem_encode ht, ⟨before, h⟩, rfl, fun hbody _ => hat hbody⟩
  have hline := followsLine (.inr rfl) hon
  have hsize : size (t ++ ['\n']) = (encode t).length + 1 := Text.Utf8.size_append t ['\n']
  unfold FollowsLine at hline
  rw [lineFault_eq, Text.body_newline ht, hsize, ← on_on]
  cases hfault : firstFault none 1 (encode t) with
  | some fault =>
      rw [hfault] at hline
      exact hline
  | none =>
      rw [hfault] at hline
      cases body <;> exact hline

/-- A last line without a newline. -/
theorem rest?_lastLine (body : Bool) {t : Text} (ht : '\n' ∉ t)
    (h : c.Between source before (encode t)) (hat : body = true → c.atKeybinding source = false) :
    match lineFault t with
    | some (fault, column) =>
      ∃ c', c.rest? source body = some (c', some (fault, c.pos + column - 1))
    | none =>
      c.rest? source body =
        some (if body then { c.on (size t) with stage := none } else c.on (size t), none) := by
  rw [← List.append_nil (encode t)] at h
  have hon : OnLine source body c.pos [] none 1 (encode t) c :=
    ⟨Scanner.notMem_encode ht, ⟨before, h⟩, rfl, fun hbody _ => hat hbody⟩
  have hline := followsLine (.inl rfl) hon
  unfold FollowsLine at hline
  rw [lineFault_eq, Text.body_eq_self ht]
  cases hfault : firstFault none 1 (encode t) with
  | some fault =>
      rw [hfault] at hline
      exact hline
  | none =>
      rw [hfault] at hline
      cases body <;> exact hline

/-- The stage behind a command body, by the lines that are left. -/
def stageBehind (lines : List Text) : Option Stage :=
  if lines = [] then none else some .keybinding

/-- A command body ends where a keybinding begins. -/
theorem restOfAction?_of_atKeybinding (h : c.atKeybinding source = true) :
    c.restOfAction? source = some ({ c with stage := some .keybinding }, none) := by
  rw [restOfAction?, loop?_eq, actionRound, h]
  rfl

/-- A command body goes up to the next opener.  The induction is on the lines; the cursor is behind
those that it went through. -/
theorem restOfAction?_lines {lines : List Text} (hlines : Lines lines) {c : Cursor}
    {before : List UInt8} (h : c.Between source before (encode lines.flatten))
    (hstart : lines ≠ [] → StartsLine before) :
    match faultAt? c.pos (lines.takeWhile (!isOpener ·)) with
    | some fault => ∃ c', c.restOfAction? source = some (c', some fault)
    | none =>
      c.restOfAction? source =
        some ({ c.on (size (lines.takeWhile (!isOpener ·)).flatten) with
          stage := stageBehind (lines.dropWhile (!isOpener ·)) }, none) := by
  induction hlines generalizing c before with
  | nil =>
      simp only [List.takeWhile_nil, faultAt?]
      rw [restOfAction?, loop?_eq, actionRound, atKeybinding_nil h, next?_nil h]
      rfl
  | @last t hne ht =>
      rw [List.flatten_singleton] at h
      have hat : c.atKeybinding source = isOpener t := by
        rw [← List.append_nil (encode t)] at h
        exact atKeybinding_eq h (hstart (List.cons_ne_nil _ _)) (fun _ => rfl) hne
      cases hopener : isOpener t with
      | true =>
          simp only [List.takeWhile_cons, List.dropWhile_cons, hopener, Bool.not_true,
            Bool.false_eq_true, if_false, faultAt?]
          exact restOfAction?_of_atKeybinding (hat.trans hopener)
      | false =>
          have hline := rest?_lastLine true ht h fun _ => hat.trans hopener
          simp only [List.takeWhile_cons, List.dropWhile_cons, hopener, Bool.not_false, if_true,
            List.takeWhile_nil, List.dropWhile_nil, faultAt?, List.flatten_singleton]
          cases hfault : lineFault t with
          | some fault =>
              rw [hfault] at hline
              exact hline
          | none =>
              rw [hfault] at hline
              exact hline
  | @cons t rest ht hrest ih =>
      rw [List.flatten_cons, Text.Utf8.encode_append] at h
      have hat : c.atKeybinding source = isOpener (t ++ ['\n']) := by
        refine atKeybinding_eq h (hstart (List.cons_ne_nil _ _)) (fun hlone => ?_) (by simp)
        simpa using congrArg List.getLast? hlone
      cases hopener : isOpener (t ++ ['\n']) with
      | true =>
          simp only [List.takeWhile_cons, List.dropWhile_cons, hopener, Bool.not_true,
            Bool.false_eq_true, if_false, faultAt?]
          exact restOfAction?_of_atKeybinding (hat.trans hopener)
      | false =>
          have hline := rest?_line true ht h fun _ => hat.trans hopener
          simp only [List.takeWhile_cons, List.dropWhile_cons, hopener, Bool.not_false, if_true,
            faultAt?, List.flatten_cons, Text.Utf8.size_append (t ++ ['\n'])]
          cases hfault : lineFault (t ++ ['\n']) with
          | some fault =>
              rw [hfault] at hline
              exact hline
          | none =>
              rw [hfault] at hline
              have hgoes : c.restOfAction? source =
                  (c.on (size (t ++ ['\n']))).restOfAction? source := hline
              have hnext : StartsLine (before ++ encode (t ++ ['\n'])) := by
                refine .inr ⟨before ++ encode t, ?_⟩
                rw [Text.Utf8.encode_append, ← List.append_assoc]
                rfl
              rw [hgoes]
              simp only [← on_on]
              exact ih (h.on _) fun _ => hnext

end Hotkeys.Config.Cursor
