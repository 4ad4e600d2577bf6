import Hotkeys.Proofs.Config.Pairing

/-!
# Outlines of tokens

The outline of a configuration without a brace fault is told from its tokens as a whole: from its
sections, from the lines above them, and from its interpreter lines.

Main statement: when a configuration has an outline, and which (`outline_eq_ok_iff`).
-/

set_option autoImplicit false

namespace Hotkeys.Config

/-- The interpreter after more tokens: the last interpreter line counts. -/
def interpreterAfter (i : Interpreter) (ts : List Token) : Interpreter :=
  ts.foldl (fun i t => if t.kind = .shebang then .ofShebang t.text else i) i

/-- The outline of tokens. -/
def outlineOf (ts : List Token) : Outline :=
  { interpreter := interpreterAfter .standard ts
    globals := (linesAbove ts).flatMap fun line => line ++ ['\n']
    pairs := (sections ts).filterMap Section.pair? }

namespace Draft

theorem openPair_interpreter (d : Draft) (binding : Text) (line : Nat) :
    (d.openPair binding line).outline.interpreter = d.outline.interpreter := by
  rw [openPair]
  split
  case h_1 => rfl
  case h_2 last _ => cases last.pair? <;> rfl

/-- An interpreter line names the interpreter; no other token changes it. -/
theorem add_interpreter (d : Draft) (t : Token) :
    (d.add t).outline.interpreter =
      if t.kind = .shebang then .ofShebang t.text else d.outline.interpreter := by
  cases hkind : t.kind with
  | shebang => simp only [add, hkind, if_true]
  | globals => simp only [add, hkind, addGlobals, reduceCtorEq, if_false]
  | action =>
      simp only [add, hkind, reduceCtorEq, if_false]
      cases d.pending <;> rfl
  | keybinding =>
      simp only [add, hkind, reduceCtorEq, if_false]
      split
      case isTrue => exact d.openPair_interpreter _ _
      case isFalse => rfl

theorem foldl_interpreter (ts : List Token) (d : Draft) :
    (ts.foldl add d).outline.interpreter = interpreterAfter d.outline.interpreter ts := by
  induction ts generalizing d with
  | nil => rfl
  | cons t ts ih => rw [List.foldl_cons, ih, add_interpreter, interpreterAfter, interpreterAfter,
      List.foldl_cons]

end Draft

/-- What the tokens of a configuration are finished to. -/
theorem finish_foldl {ts : List Token} (hts : AreBelow (ts.dropWhile (!·.opensSection))) :
    (ts.foldl Draft.add Draft.empty).finish.1 =
      if (outlineOf ts).pairs = [] then .error (Error.ofFault .empty) else .ok (outlineOf ts) := by
  obtain ⟨hsettled, hglobals⟩ := settled_foldl_none (d := Draft.empty) rfl hts
  have hpairs : (ts.foldl Draft.add Draft.empty).settled = (outlineOf ts).pairs := hsettled
  rw [Draft.finish_eq, hpairs]
  simp only [Draft.foldl_interpreter, hglobals]
  rfl

/-- A configuration has an outline just when its braces match and one of its sections makes a pair.
The outline is then that of its tokens. -/
theorem outline_eq_ok_iff {source : Text} {o : Outline} :
    (outline source).1 = .ok o ↔
      (tokens source).error = none ∧ o = outlineOf (tokensBelow 0 (parts source)) ∧
        o.pairs ≠ [] := by
  cases herror : (tokens source).error with
  | some e =>
      refine iff_of_false (fun h => ?_) fun h => Option.some_ne_none e h.1
      rw [outline, herror] at h
      cases h
  | none =>
      have houtline : (outline source).1 =
          ((tokensBelow 0 (parts source)).foldl Draft.add Draft.empty).finish.1 := by
        rw [outline, herror, tokens_of_error_none herror]
      rw [houtline, finish_foldl (areBelow_parts source), and_iff_right rfl]
      split
      case isTrue hnil =>
        refine iff_of_false ?_ ?_
        · intro h
          cases h
        · rintro ⟨rfl, hpairs⟩
          exact hpairs hnil
      case isFalse hpairs =>
        rw [Except.ok.injEq, eq_comm]
        exact (and_iff_left_of_imp fun h => h ▸ hpairs).symm

end Hotkeys.Config
