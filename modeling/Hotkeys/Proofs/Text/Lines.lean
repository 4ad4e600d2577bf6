import Hotkeys.Text.Basic

/-!
# Lines with their ends

What cutting a text after each newline yields: lines that hold a newline at their end and nowhere
else, of which only the last may lack it (`lines_terminatedLines`), and nothing is lost
(`flatten_terminatedLines`).
-/

set_option autoImplicit false

namespace Hotkeys.Text

/-- Lines as a text is cut into: a newline stands at the end of each but the last, where it may be
missing, and nowhere else. -/
inductive Lines : List Text → Prop where
  /-- No lines. -/
  | nil : Lines []
  /-- A last line without a newline. -/
  | last {t : Text} (hne : t ≠ []) (ht : '\n' ∉ t) : Lines [t]
  /-- A line and those after it. -/
  | cons {t : Text} {rest : List Text} (ht : '\n' ∉ t) (hrest : Lines rest) :
      Lines ((t ++ ['\n']) :: rest)

theorem Lines.ne_nil_of_mem {lines : List Text} (h : Lines lines) {line : Text}
    (hline : line ∈ lines) : line ≠ [] := by
  induction h with
  | nil => exact absurd hline List.not_mem_nil
  | last hne _ =>
      rw [List.mem_singleton.mp hline]
      exact hne
  | cons _ _ ih =>
      rcases List.mem_cons.mp hline with rfl | hrest
      · exact List.append_ne_nil_of_right_ne_nil _ (List.cons_ne_nil _ _)
      · exact ih hrest

theorem lines_terminatedLines (t : Text) : Lines (terminatedLines t) := by
  induction t with
  | nil => exact .nil
  | cons c cs ih =>
      rw [terminatedLines]
      by_cases hc : c = '\n'
      · rw [if_pos hc]
        exact .cons (t := []) List.not_mem_nil ih
      · rw [if_neg hc]
        generalize terminatedLines cs = lines at ih
        cases ih with
        | nil => exact .last (List.cons_ne_nil c []) (by simpa using Ne.symm hc)
        | @last t _ ht =>
            exact .last (List.cons_ne_nil c t) (List.not_mem_cons_of_ne_of_not_mem (Ne.symm hc) ht)
        | @cons t rest ht hrest =>
            exact .cons (t := c :: t) (List.not_mem_cons_of_ne_of_not_mem (Ne.symm hc) ht) hrest

theorem flatten_terminatedLines (t : Text) : (terminatedLines t).flatten = t := by
  induction t with
  | nil => rfl
  | cons c cs ih =>
      rw [terminatedLines]
      by_cases hc : c = '\n'
      · rw [if_pos hc, List.flatten_cons, ih, hc]
        rfl
      · rw [if_neg hc]
        cases hlines : terminatedLines cs with
        | nil =>
            rw [hlines, List.flatten_nil] at ih
            rw [← ih]
            rfl
        | cons line lines =>
            rw [hlines, List.flatten_cons] at ih
            rw [← ih]
            rfl

/-- A line up to its newline. -/
def body (line : Text) : Text :=
  line.takeWhile (· ≠ '\n')

theorem not_mem_body (line : Text) : '\n' ∉ body line := by
  intro hmem
  have hall := List.all_takeWhile (p := fun c => decide (c ≠ '\n')) (l := line)
  exact absurd (List.all_eq_true.mp hall _ hmem) (by decide)

theorem body_append {t : Text} (ht : '\n' ∉ t) (rest : Text) :
    body (t ++ rest) = t ++ body rest := by
  refine List.takeWhile_append_of_pos fun c hc => ?_
  simpa using ne_of_mem_of_not_mem hc ht

theorem body_eq_self {t : Text} (ht : '\n' ∉ t) : body t = t := by
  have happend := body_append ht []
  rwa [List.append_nil, show body [] = [] from rfl, List.append_nil] at happend

theorem body_newline {t : Text} (ht : '\n' ∉ t) : body (t ++ ['\n']) = t := by
  rw [body_append ht]
  exact List.append_nil t

/-- A line that ends with a newline has one. -/
theorem count_newline {t : Text} (ht : '\n' ∉ t) : (t ++ ['\n']).count '\n' = 1 := by
  rw [List.count_append, List.count_eq_zero.mpr ht]
  rfl

/-- What is left behind the first line is lines. -/
theorem Lines.tail {line : Text} {rest : List Text} (h : Lines (line :: rest)) : Lines rest := by
  cases h with
  | last _ _ => exact .nil
  | cons _ hrest => exact hrest

/-- A line with others below it ends with its newline. -/
theorem Lines.exists_newline {line : Text} {rest : List Text} (h : Lines (line :: rest))
    (hrest : rest ≠ []) : ∃ t, '\n' ∉ t ∧ line = t ++ ['\n'] := by
  cases h with
  | last _ _ => exact absurd rfl hrest
  | cons ht _ => exact ⟨_, ht, rfl⟩

/-- Lines below other lines are lines. -/
theorem Lines.of_append {above below : List Text} (h : Lines (above ++ below)) : Lines below := by
  induction above with
  | nil => exact h
  | cons line rest ih =>
      rw [List.cons_append] at h
      exact ih h.tail

/-- All lines but the last have a newline. -/
theorem Lines.count_flatten {above below : List Text} (h : Lines (above ++ below))
    (hbelow : below ≠ []) : above.flatten.count '\n' = above.length := by
  induction above with
  | nil => rfl
  | cons line rest ih =>
      rw [List.cons_append] at h
      obtain ⟨t, ht, rfl⟩ := h.exists_newline (List.append_ne_nil_of_right_ne_nil rest hbelow)
      rw [List.flatten_cons, List.count_append, count_newline ht, ih h.tail, List.length_cons,
        Nat.add_comm]

/-- Lines above other lines are lines. -/
theorem Lines.of_append_left {above below : List Text} (h : Lines (above ++ below)) :
    Lines above := by
  induction above with
  | nil => exact .nil
  | cons line rest ih =>
      rw [List.cons_append] at h
      generalize hmore : rest ++ below = more at h ih
      cases h with
      | last hne ht =>
          rw [(List.append_eq_nil_iff.mp hmore).1]
          exact .last hne ht
      | cons ht hrest => exact .cons ht (ih hrest)

/-- Lines with others below them end with a newline. -/
theorem Lines.getLast?_flatten {above below : List Text} (h : Lines (above ++ below))
    (hbelow : below ≠ []) : ∀ c ∈ above.flatten.getLast?, c = '\n' := by
  induction above with
  | nil => exact fun c hc => absurd hc (Option.not_mem_none c)
  | cons line rest ih =>
      rw [List.cons_append] at h
      obtain ⟨t, -, rfl⟩ := h.exists_newline (List.append_ne_nil_of_right_ne_nil rest hbelow)
      intro c hc
      rw [List.flatten_cons, List.getLast?_append] at hc
      cases hlast : rest.flatten.getLast? with
      | some d =>
          rw [hlast, Option.some_or, Option.mem_some_iff] at hc
          exact hc ▸ ih h.tail d hlast
      | none =>
          rw [hlast, Option.none_or, List.getLast?_concat, Option.mem_some_iff] at hc
          exact hc.symm

/-! ## Cutting joined texts -/

/-- A text that ends with its line is cut apart from what follows it. -/
theorem terminatedLines_append {s : Text} (h : ∀ c ∈ s.getLast?, c = '\n') (t : Text) :
    terminatedLines (s ++ t) = terminatedLines s ++ terminatedLines t := by
  induction s with
  | nil => rfl
  | cons c cs ih =>
      have hrest : ∀ d ∈ cs.getLast?, d = '\n' := by
        intro d hd
        refine h d ?_
        rw [List.getLast?_cons, hd, Option.getD_some]
        rfl
      rw [List.cons_append, terminatedLines, terminatedLines, ih hrest]
      by_cases hc : c = '\n'
      · rw [if_pos hc, if_pos hc, List.cons_append]
      · rw [if_neg hc, if_neg hc]
        cases hlines : terminatedLines cs with
        | nil =>
            have hnil : cs = [] := by rw [← flatten_terminatedLines cs, hlines, List.flatten_nil]
            rw [hnil] at h
            exact absurd (h c rfl) hc
        | cons line lines => rfl

theorem lines_append {s : Text} (h : ∀ c ∈ s.getLast?, c = '\n') (t : Text) :
    lines (s ++ t) = lines s ++ lines t := by
  rw [lines, terminatedLines_append h, List.map_append, lines, lines]

theorem getLast?_newline (t : Text) : ∀ c ∈ (t ++ ['\n']).getLast?, c = '\n' := by
  intro c hc
  rw [List.getLast?_concat, Option.mem_some_iff] at hc
  exact hc.symm

theorem terminatedLines_of_not_mem {t : Text} (hne : t ≠ []) (h : '\n' ∉ t) :
    terminatedLines t = [t] := by
  induction t with
  | nil => exact absurd rfl hne
  | cons c cs ih =>
      rw [List.mem_cons, not_or] at h
      rw [terminatedLines, if_neg (Ne.symm h.1)]
      cases cs with
      | nil => rfl
      | cons d ds => rw [ih (List.cons_ne_nil d ds) h.2]

theorem terminatedLines_newline {t : Text} (h : '\n' ∉ t) :
    terminatedLines (t ++ ['\n']) = [t ++ ['\n']] := by
  induction t with
  | nil => rfl
  | cons c cs ih =>
      rw [List.mem_cons, not_or] at h
      rw [List.cons_append, terminatedLines, if_neg (Ne.symm h.1), ih h.2]

/-- Joined lines are cut into the lines again. -/
theorem Lines.terminatedLines_flatten {lines : List Text} (h : Lines lines) :
    terminatedLines lines.flatten = lines := by
  induction h with
  | nil => rfl
  | last hne ht => rw [List.flatten_singleton, terminatedLines_of_not_mem hne ht]
  | @cons t rest ht _ ih =>
      rw [List.flatten_cons, terminatedLines_append (getLast?_newline t), ih,
        terminatedLines_newline ht, List.singleton_append]

/-! ## Lines without their ends -/

theorem chomp_of_not_mem {t : Text} (h : '\n' ∉ t) : chomp t = t := by
  rw [chomp]
  split
  case h_1 heq | h_2 heq =>
    refine absurd (List.mem_reverse.mp ?_) h
    rw [heq]
    exact List.mem_cons_self
  case h_3 => rfl

theorem mem_of_mem_chomp_newline {t : Text} {c : Char} (h : c ∈ chomp (t ++ ['\n'])) : c ∈ t := by
  rw [chomp, List.reverse_append, List.reverse_singleton, List.singleton_append] at h
  split at h
  case h_1 rest heq =>
    rw [← List.mem_reverse, (List.cons.inj heq).2]
    exact List.mem_cons_of_mem _ (List.mem_reverse.mp h)
  case h_2 rest _ heq =>
    rw [← List.mem_reverse, (List.cons.inj heq).2]
    exact List.mem_reverse.mp h
  case h_3 _ hnot => exact absurd rfl (hnot t.reverse)

theorem Lines.not_newline_of_mem {lines : List Text} (h : Lines lines) {line : Text}
    (hline : line ∈ lines) : '\n' ∉ chomp line := by
  induction h with
  | nil => exact absurd hline List.not_mem_nil
  | last _ ht =>
      rw [List.mem_singleton.mp hline, chomp_of_not_mem ht]
      exact ht
  | cons ht _ ih =>
      rcases List.mem_cons.mp hline with rfl | hrest
      · exact fun hmem => ht (mem_of_mem_chomp_newline hmem)
      · exact ih hrest

theorem not_newline_of_mem_lines {t line : Text} (h : line ∈ lines t) : '\n' ∉ line := by
  obtain ⟨whole, hwhole, rfl⟩ := List.mem_map.mp h
  exact (lines_terminatedLines t).not_newline_of_mem hwhole

end Hotkeys.Text
