import Hotkeys.Proofs.Config.Braces

/-!
# Scanning, line by line

The scanner takes bytes one at a time.  Here its run is followed a line at a time: `run_line` for a
line with its newline, `run_lastLine` for one without, `run_opener` for a line that ends the token
before it.
-/

set_option autoImplicit false

namespace Hotkeys.Config

open Text (Lines body)
open Text.Utf8 (byteOf encode decodeLossy)

namespace Scanner

/-! ## One byte -/

/-- Away from a line start no token ends. -/
theorem endsBefore_of_column {s : Scanner} (hs : s.here.column ≠ 1) (b : UInt8)
    (next : Option UInt8) : s.endsBefore b next = false := by
  rw [endsBefore, beq_false_of_ne hs, Bool.and_false, Bool.false_and]

/-- A newline opens nothing. -/
theorem endsBefore_newline (s : Scanner) (next : Option UInt8) :
    s.endsBefore Byte.newline next = false :=
  Bool.and_false _

/-- The brace check of the current token on one byte. -/
def checkByte (s : Scanner) (b : UInt8) : Except BraceError BraceState :=
  if s.checksBraces then s.braces.step s.here b else .ok s.braces

/-- The scanner with more bytes of the same line taken. -/
def along (s : Scanner) (state : BraceState) (bs : List UInt8) : Scanner :=
  { s with
    braces := state
    here := ⟨s.here.line, s.here.column + bs.length⟩
    taken := bs.reverse ++ s.taken }

theorem along_along (s : Scanner) (state next : BraceState) (bs cs : List UInt8) :
    (s.along state bs).along next cs = s.along next (bs ++ cs) := by
  simp only [along, List.length_append, List.reverse_append, List.append_assoc, Nat.add_assoc]

/-- The scanner with a newline taken. -/
def below (s : Scanner) (state : BraceState) : Scanner :=
  { s with
    braces := state
    here := ⟨s.here.line + 1, 1⟩
    taken := Byte.newline :: s.taken }

theorem take_eq (s : Scanner) (b : UInt8) :
    s.take b = (s.checkByte b).map fun state =>
      { s with
        braces := state
        here := if b = Byte.newline then ⟨s.here.line + 1, 1⟩
          else ⟨s.here.line, s.here.column + 1⟩
        taken := b :: s.taken } := by
  rw [take, checkByte]
  split
  · cases s.braces.step s.here b <;> rfl
  · rfl

theorem take_of_ne_newline (s : Scanner) {b : UInt8} (hb : b ≠ Byte.newline) :
    s.take b = (s.checkByte b).map (s.along · [b]) := by
  rw [take_eq]
  simp only [if_neg hb]
  rfl

theorem take_newline (s : Scanner) :
    s.take Byte.newline = (s.checkByte Byte.newline).map s.below :=
  take_eq s Byte.newline

theorem run_cons_of_ne_newline (s : Scanner) {b : UInt8} (hb : b ≠ Byte.newline)
    (rest : List UInt8) (hstay : s.endsBefore b rest.head? = false) :
    s.run (b :: rest) =
      match s.checkByte b with
      | .error e => ([], some e)
      | .ok state => (s.along state [b]).run rest := by
  rw [run, feed, hstay]
  simp only [Bool.false_eq_true, if_false, take_of_ne_newline s hb]
  cases s.checkByte b with
  | error e => rfl
  | ok state =>
      simp only [Except.map]
      cases kindAfterLine (s.along state [b]).kind with
      | none => rfl
      | some kind => simp only [if_neg hb, List.nil_append]

theorem run_newline (s : Scanner) (rest : List UInt8) :
    s.run (Byte.newline :: rest) =
      match s.checkByte Byte.newline with
      | .error e => ([], some e)
      | .ok state =>
        match kindAfterLine s.kind with
        | some kind =>
          let more := ((s.below state).begin kind).run rest
          ((s.below state).piece :: more.1, more.2)
        | none => (s.below state).run rest := by
  rw [run, feed, endsBefore_newline]
  simp only [Bool.false_eq_true, if_false, take_newline]
  cases s.checkByte Byte.newline with
  | error e => rfl
  | ok state =>
      have hkind : (s.below state).kind = s.kind := rfl
      simp only [Except.map, hkind]
      cases kindAfterLine s.kind with
      | none => rfl
      | some kind => rfl

/-! ## Bytes of one line -/

/-- The brace check of the current token on bytes of the current line. -/
def check (s : Scanner) (bs : List UInt8) : Except BraceError BraceState :=
  if s.checksBraces then s.braces.read s.here bs else .ok s.braces

theorem check_nil (s : Scanner) : s.check [] = .ok s.braces := by
  rw [check]
  split <;> rfl

theorem check_cons (s : Scanner) (b : UInt8) (bs : List UInt8) :
    s.check (b :: bs) =
      match s.checkByte b with
      | .error e => .error e
      | .ok state => (s.along state [b]).check bs := by
  rw [check, checkByte]
  by_cases hchecks : s.checksBraces = true
  · rw [if_pos hchecks, if_pos hchecks, BraceState.read]
    cases s.braces.step s.here b with
    | error e => rfl
    | ok state => exact (if_pos hchecks).symm
  · rw [if_neg hchecks, if_neg hchecks]
    exact (if_neg hchecks).symm

/-- The run along bytes of one line none of which ends a token. -/
theorem run_append {bs : List UInt8} (hbs : Byte.newline ∉ bs) {s : Scanner}
    (hcolumn : s.here.column ≠ 0) (rest : List UInt8)
    (hstay : ∀ b more, bs = b :: more → s.endsBefore b (more ++ rest).head? = false) :
    s.run (bs ++ rest) =
      match s.check bs with
      | .error e => ([], some e)
      | .ok state => (s.along state bs).run rest := by
  induction bs generalizing s with
  | nil =>
      rw [check_nil]
      rfl
  | cons b bs ih =>
      have hb : b ≠ Byte.newline := fun h => hbs (by simp [h])
      rw [List.cons_append, run_cons_of_ne_newline s hb _ (hstay b bs rfl), check_cons]
      cases hcheck : s.checkByte b with
      | error e => rfl
      | ok state =>
          have hbs' : Byte.newline ∉ bs := fun h => hbs (List.mem_cons_of_mem b h)
          have hstay' : ∀ c more, bs = c :: more →
              (s.along state [b]).endsBefore c (more ++ rest).head? = false := by
            intro c more _
            exact endsBefore_of_column (Nat.succ_ne_succ_iff.mpr hcolumn) c _
          simp only [ih hbs' (Nat.succ_ne_zero _) hstay', along_along, List.singleton_append]

/-! ## Line starts -/

/-- The scanner is about to read a line. -/
structure AtLineStart (s : Scanner) : Prop where
  column : s.here.column = 1
  outside : s.braces = .outside

/-- The scanner about to read the first line of a token, which is line `n`. -/
def startAt (kind : TokenKind) (n : Nat) : Scanner :=
  { kind, braces := .outside, taken := [], line := n, here := ⟨n, 1⟩ }

theorem atLineStart_startAt (kind : TokenKind) (n : Nat) : (startAt kind n).AtLineStart :=
  ⟨rfl, rfl⟩

/-- Whether the current token goes on until a keybinding line. -/
def collects (s : Scanner) : Bool :=
  s.kind == .globals || s.kind == .action

theorem endsBefore_eq {s : Scanner} (hs : s.AtLineStart) (b : UInt8) (next : Option UInt8) :
    s.endsBefore b next = (s.collects && opensKeybinding b next) := by
  rw [endsBefore, hs.column, beq_self_eq_true, Bool.and_true, collects]

/-- The fault that the current token has on the current line. -/
def fault? (s : Scanner) (line : Text) : Option BraceError :=
  if s.checksBraces then (lineFault line).map (faultOn s.here.line) else none

/-- The scanner with a text among the bytes of the current token. -/
def holding (s : Scanner) (t : Text) : Scanner :=
  { s with taken := (encode t).reverse ++ s.taken }

/-- The scanner behind a line of the current token. -/
def past (s : Scanner) (line : Text) : Scanner :=
  { s.holding line with here := ⟨s.here.line + 1, 1⟩ }

theorem atLineStart_past {s : Scanner} (hs : s.AtLineStart) (line : Text) :
    (s.past line).AtLineStart :=
  ⟨rfl, hs.outside⟩

theorem holding_holding (s : Scanner) (t u : Text) :
    (s.holding t).holding u = s.holding (t ++ u) := by
  simp only [holding, Text.Utf8.encode_append, List.reverse_append, List.append_assoc]

/-- Whether the first line ends the current token shows in the first two bytes; a lone `#` at the
end of the input has no second one. -/
theorem opensKeybinding_eq {line : Text} {rest : List UInt8} (hlone : line = ['#'] → rest = [])
    {b : UInt8} {more : List UInt8} (hbytes : encode line ++ rest = b :: more) (hne : line ≠ []) :
    opensKeybinding b more.head? = isOpener line := by
  obtain ⟨c, cs, rfl⟩ := List.exists_cons_of_ne_nil hne
  by_cases hc : c = '#'
  · subst hc
    have hhash : encode ('#' :: cs) ++ rest = Byte.hash :: (encode cs ++ rest) := rfl
    rw [hhash, List.cons.injEq] at hbytes
    obtain ⟨rfl, rfl⟩ := hbytes
    cases cs with
    | nil =>
        rw [hlone rfl]
        rfl
    | cons d ds =>
        have hhead := Text.Utf8.head?_encode_cons (a := '#') (by decide) d ds
        have hnewline := Text.Utf8.head?_encode_cons (a := '\n') (by decide) d ds
        obtain ⟨n, ns, hn⟩ := List.exists_cons_of_ne_nil (Text.Utf8.encode_cons_ne_nil d ds)
        rw [hn, List.head?_cons, Option.some.injEq] at hhead hnewline
        have hopens : opensKeybinding Byte.hash (n :: ns ++ rest).head? =
            (n != Byte.hash && n != Byte.newline) := rfl
        rw [hn, hopens, isOpener, Bool.eq_iff_iff, Bool.and_eq_true, bne_iff_ne, bne_iff_ne,
          decide_eq_true_iff]
        exact and_congr (not_congr hhead) (not_congr hnewline)
  · have hb : b ≠ Byte.hash := by
      rintro rfl
      have hhead : (encode (c :: cs)).head? = some (byteOf '#') := by
        obtain ⟨n, ns, hn⟩ := List.exists_cons_of_ne_nil (Text.Utf8.encode_cons_ne_nil c cs)
        rw [hn, List.cons_append, List.cons.injEq] at hbytes
        rw [hn, hbytes.1]
        rfl
      exact hc ((Text.Utf8.head?_encode_cons (by decide) c cs).mp hhead)
    unfold opensKeybinding
    rw [beq_false_of_ne hb, Bool.false_and, isOpener_of_ne hc]

/-! ## Lines -/

theorem notMem_encode {t : Text} (ht : '\n' ∉ t) : Byte.newline ∉ encode t :=
  fun h => ht ((Text.Utf8.mem_encode_iff (by decide)).mp h)

theorem here_eq {s : Scanner} (hs : s.AtLineStart) : s.here = ⟨s.here.line, 1⟩ := by
  rw [← hs.column]

theorem AtLineStart.column_ne_zero {s : Scanner} (hs : s.AtLineStart) : s.here.column ≠ 0 := by
  rw [hs.column]
  exact Nat.one_ne_zero

/-- The brace check along a line comes to the fault of the line, at the latest at its end. -/
theorem fault?_eq {s : Scanner} (hs : s.AtLineStart) {t line : Text} (ht : '\n' ∉ t)
    (hbody : body line = t) :
    s.fault? line =
      match s.check (encode t) with
      | .error e => some e
      | .ok state => state.atEnd := by
  rw [fault?, check]
  split
  case isTrue =>
    have hfault := BraceState.fault?_ofGroup s.here.line none 1 (notMem_encode ht)
    rw [lineFault_eq, hbody, ← hfault, hs.outside, BraceState.fault?, ← here_eq hs]
    rfl
  case isFalse =>
    rw [hs.outside]
    rfl

/-- The end of a line is the end of its brace check. -/
theorem checkByte_newline {s : Scanner} (hstate : s.checksBraces = false → s.braces = .outside) :
    s.checkByte Byte.newline =
      match s.braces.atEnd with
      | some e => .error e
      | none => .ok .outside := by
  rw [checkByte]
  split
  case isTrue =>
    cases s.braces <;> rfl
  case isFalse hchecks =>
    rw [hstate (Bool.not_eq_true _ ▸ hchecks)]
    rfl

/-- Outside of brace checks the state stays as it is at a line start. -/
theorem eq_outside_of_check {s : Scanner} (hs : s.AtLineStart) {bs : List UInt8}
    {state : BraceState} (hcheck : s.check bs = .ok state) (hchecks : s.checksBraces = false) :
    state = .outside := by
  rw [check, hchecks, if_neg Bool.false_ne_true, Except.ok.injEq] at hcheck
  rw [← hcheck, hs.outside]

theorem below_along {s : Scanner} (hs : s.AtLineStart) (state : BraceState) (t : Text) :
    (s.along state (encode t)).below .outside = s.past (t ++ ['\n']) := by
  have hreverse : (encode (t ++ ['\n'])).reverse = Byte.newline :: (encode t).reverse := by
    rw [Text.Utf8.encode_append, List.reverse_append]
    rfl
  rw [past, holding, hreverse, hs.outside]
  rfl

/-- A line with its newline that does not end the current token. -/
theorem run_line {s : Scanner} (hs : s.AtLineStart) {t : Text} (ht : '\n' ∉ t)
    (hstay : (s.collects && isOpener (t ++ ['\n'])) = false) (rest : List UInt8) :
    s.run (encode (t ++ ['\n']) ++ rest) =
      match s.fault? (t ++ ['\n']) with
      | some e => ([], some e)
      | none =>
        match kindAfterLine s.kind with
        | some kind =>
          let more := (startAt kind (s.here.line + 1)).run rest
          ((s.holding (t ++ ['\n'])).piece :: more.1, more.2)
        | none => (s.past (t ++ ['\n'])).run rest := by
  have hbytes : encode (t ++ ['\n']) ++ rest = encode t ++ Byte.newline :: rest := by
    rw [Text.Utf8.encode_append, List.append_assoc]
    rfl
  have hstay' : ∀ b more, encode t = b :: more →
      s.endsBefore b (more ++ Byte.newline :: rest).head? = false := by
    intro b more hcons
    have hline : encode (t ++ ['\n']) ++ rest = b :: (more ++ Byte.newline :: rest) := by
      rw [hbytes, hcons, List.cons_append]
    have hlone : t ++ ['\n'] ≠ ['#'] := fun h => by simpa using congrArg List.getLast? h
    rw [endsBefore_eq hs, opensKeybinding_eq (fun h => absurd h hlone) hline (by simp), hstay]
  rw [hbytes, run_append (notMem_encode ht) hs.column_ne_zero _ hstay',
    fault?_eq hs ht (Text.body_newline ht)]
  cases hcheck : s.check (encode t) with
  | error e => rfl
  | ok state =>
      have hend : (s.along state (encode t)).checkByte Byte.newline =
          match state.atEnd with
          | some e => .error e
          | none => .ok .outside :=
        checkByte_newline (eq_outside_of_check hs hcheck)
      simp only [run_newline, hend]
      cases state.atEnd with
      | some e => rfl
      | none =>
          simp only [below_along hs]
          rfl

/-- A last line without a newline that does not end the current token. -/
theorem run_lastLine {s : Scanner} (hs : s.AtLineStart) {t : Text} (ht : '\n' ∉ t)
    (hstay : (s.collects && isOpener t) = false) :
    s.run (encode t) =
      match s.fault? t with
      | some e => ([], some e)
      | none =>
        match s.kind with
        | .keybinding =>
          ([(s.holding t).piece, (startAt .action s.here.line).piece], none)
        | _ => ((s.holding t).closed, none) := by
  have hstay' : ∀ b more, encode t = b :: more →
      s.endsBefore b (more ++ []).head? = false := by
    intro b more hcons
    have hne : t ≠ [] := by
      rintro rfl
      exact List.cons_ne_nil b more hcons.symm
    rw [endsBefore_eq hs, opensKeybinding_eq (fun _ => rfl) (by rw [hcons, List.cons_append]) hne,
      hstay]
  have hrun := run_append (notMem_encode ht) hs.column_ne_zero [] hstay'
  rw [List.append_nil] at hrun
  rw [hrun, fault?_eq hs ht (Text.body_eq_self ht)]
  cases hcheck : s.check (encode t) with
  | error e => rfl
  | ok state =>
      simp only [run, finish]
      have hstate : (s.along state (encode t)).braces = state := rfl
      rw [hstate]
      cases state.atEnd with
      | some e => rfl
      | none =>
          have hkind : (s.along state (encode t)).kind = s.kind := rfl
          simp only [hkind]
          cases s.kind <;> rfl

/-- A line that ends the current token. -/
theorem run_opener {s : Scanner} (hs : s.AtLineStart) (hcollects : s.collects = true) {line : Text}
    (hopener : isOpener line = true) (rest : List UInt8) :
    s.run (encode line ++ rest) =
      let more := (startAt .keybinding s.here.line).run (encode line ++ rest)
      (s.closed ++ more.1, more.2) := by
  obtain ⟨c, cs, rfl⟩ := exists_of_isOpener hopener
  obtain ⟨b, more, hbytes⟩ : ∃ b more, encode ('#' :: c :: cs) ++ rest = b :: more := ⟨_, _, rfl⟩
  have hends : s.endsBefore b more.head? = true := by
    rw [endsBefore_eq hs, opensKeybinding_eq (by simp) hbytes (List.cons_ne_nil _ _), hcollects,
      hopener]
    rfl
  have hstays : (startAt .keybinding s.here.line).endsBefore b more.head? = false := rfl
  have hstart : s.begin .keybinding = startAt .keybinding s.here.line := by
    rw [begin, startAt, ← here_eq hs]
  rw [hbytes, run, run, feed, feed, hends, hstays, hstart]
  simp only [if_true, Bool.false_eq_true, if_false]
  cases (startAt .keybinding s.here.line).take b with
  | error e => simp only [List.append_nil]
  | ok next =>
      dsimp only
      cases kindAfterLine next.kind with
      | none => simp only [List.nil_append]
      | some kind =>
          by_cases hb : b = Byte.newline
          · simp only [if_pos hb, List.nil_append, List.append_assoc]
          · simp only [if_neg hb, List.nil_append]

end Scanner

end Hotkeys.Config
