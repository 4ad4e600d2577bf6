import Hotkeys.Text.Basic

/-!
# Pieces between separators

Cutting at separators undoes joining with one (`splitOn_join`), no piece holds a separator
(`not_sep_of_mem_splitOn`), characters that are no separators may as well be dropped before the cut
as after it (`splitOn_filter`), and a text without separators stands within one piece, whatever
stands around it (`exists_splitOn_around`).
-/

set_option autoImplicit false

namespace Hotkeys.Text

variable {sep : Char → Bool}

/-! ## Cutting -/

/-- The pieces are those of the list library. -/
theorem splitOn_eq_splitOnP (sep : Char → Bool) (t : Text) : splitOn sep t = t.splitOnP sep := by
  induction t with
  | nil => rfl
  | cons c cs ih =>
      rw [splitOn, ih, List.splitOnP_cons_eq_if_modifyHead]
      by_cases hc : sep c
      · rw [if_pos hc, if_pos hc]
      · rw [if_neg hc, if_neg hc]
        cases hpieces : cs.splitOnP sep with
        | nil => exact absurd hpieces (List.splitOnP_ne_nil sep cs)
        | cons piece pieces => rfl

theorem splitOn_eq_singleton {t : Text} (h : ∀ c ∈ t, sep c = false) : splitOn sep t = [t] := by
  rw [splitOn_eq_splitOnP, List.splitOnP_eq_singleton h]

theorem splitOn_append_cons {t : Text} (ht : ∀ c ∈ t, sep c = false) {s : Char}
    (hs : sep s = true) (rest : Text) : splitOn sep (t ++ s :: rest) = t :: splitOn sep rest := by
  rw [splitOn_eq_splitOnP, splitOn_eq_splitOnP, List.splitOnP_append_cons_of_forall_mem ht s hs]

theorem splitOn_ne_nil (sep : Char → Bool) (t : Text) : splitOn sep t ≠ [] :=
  splitOn_eq_splitOnP sep t ▸ List.splitOnP_ne_nil sep t

theorem splitOn_append_sep {s : Char} (hs : sep s = true) (t rest : Text) :
    splitOn sep (t ++ s :: rest) = splitOn sep t ++ splitOn sep rest := by
  simp only [splitOn_eq_splitOnP, List.splitOnP_append_cons t rest hs]

theorem splitOn_cons_of_not {c : Char} (hc : sep c = false) (cs : Text) :
    splitOn sep (c :: cs) = (splitOn sep cs).modifyHead (c :: ·) := by
  rw [splitOn_eq_splitOnP, splitOn_eq_splitOnP, List.splitOnP_cons_eq_if_modifyHead,
    if_neg (Bool.eq_false_iff.mp hc)]

/-- A text without separators stands within one piece, wherever it stands. -/
theorem exists_splitOn_around (sep : Char → Bool) (before behind : Text) :
    ∃ front first last back, ∀ t : Text, (∀ c ∈ t, sep c = false) →
      splitOn sep (before ++ (t ++ behind)) = front ++ (first ++ (t ++ last)) :: back := by
  induction before with
  | nil =>
      obtain ⟨last, back, hbehind⟩ := List.exists_cons_of_ne_nil (splitOn_ne_nil sep behind)
      refine ⟨[], [], last, back, fun t ht => ?_⟩
      induction t with
      | nil => exact hbehind
      | cons c cs ih =>
          have hcs := ih fun d hd => ht d (List.mem_cons_of_mem c hd)
          simp only [List.nil_append] at hcs ⊢
          rw [List.cons_append, splitOn_cons_of_not (ht c List.mem_cons_self), hcs]
          rfl
  | cons c cs ih =>
      obtain ⟨front, first, last, back, hcs⟩ := ih
      by_cases hc : sep c
      · refine ⟨[] :: front, first, last, back, fun t ht => ?_⟩
        rw [List.cons_append, splitOn, if_pos hc, hcs t ht]
        rfl
      · have hcut : ∀ rest, splitOn sep (c :: rest) = (splitOn sep rest).modifyHead (c :: ·) :=
          splitOn_cons_of_not (Bool.eq_false_iff.mpr hc)
        cases front with
        | nil =>
            refine ⟨[], c :: first, last, back, fun t ht => ?_⟩
            rw [List.cons_append, hcut, hcs t ht]
            rfl
        | cons piece front =>
            refine ⟨(c :: piece) :: front, first, last, back, fun t ht => ?_⟩
            rw [List.cons_append, hcut, hcs t ht]
            rfl

/-- A piece holds characters of the text, and no separator. -/
theorem mem_of_mem_splitOn {t piece : Text} (hpiece : piece ∈ splitOn sep t) {c : Char}
    (hc : c ∈ piece) : c ∈ t ∧ sep c = false := by
  induction t generalizing piece with
  | nil =>
      rw [List.mem_singleton.mp hpiece] at hc
      exact absurd hc List.not_mem_nil
  | cons d ds ih =>
      rw [splitOn] at hpiece
      by_cases hd : sep d
      · rw [if_pos hd] at hpiece
        rcases List.mem_cons.mp hpiece with rfl | hrest
        · exact absurd hc List.not_mem_nil
        · exact (ih hrest hc).imp_left (List.mem_cons_of_mem d)
      · rw [if_neg hd] at hpiece
        cases hpieces : splitOn sep ds with
        | nil => exact absurd hpieces (splitOn_ne_nil sep ds)
        | cons first rest =>
            rw [hpieces] at hpiece ih
            rcases List.mem_cons.mp hpiece with rfl | hrest
            · rcases List.mem_cons.mp hc with rfl | hfirst
              · exact ⟨List.mem_cons_self, Bool.eq_false_iff.mpr hd⟩
              · exact (ih List.mem_cons_self hfirst).imp_left (List.mem_cons_of_mem d)
            · exact (ih (List.mem_cons_of_mem first hrest) hc).imp_left (List.mem_cons_of_mem d)

theorem not_sep_of_mem_splitOn {t piece : Text} (hpiece : piece ∈ splitOn sep t) {c : Char}
    (hc : c ∈ piece) : sep c = false :=
  (mem_of_mem_splitOn hpiece hc).2

/-- Characters other than separators are dropped from a text or from its pieces. -/
theorem splitOn_filter {keep : Char → Bool} (hkeep : ∀ c, sep c = true → keep c = true)
    (t : Text) : splitOn sep (t.filter keep) = (splitOn sep t).map (List.filter keep) := by
  induction t with
  | nil => rfl
  | cons c cs ih =>
      by_cases hsep : sep c
      · rw [List.filter_cons_of_pos (hkeep c hsep), splitOn, splitOn, if_pos hsep, if_pos hsep, ih]
        rfl
      · have hsep : sep c = false := Bool.eq_false_iff.mpr hsep
        rw [splitOn_cons_of_not hsep]
        by_cases hc : keep c
        · rw [List.filter_cons_of_pos hc, splitOn_cons_of_not hsep, ih]
          cases splitOn sep cs with
          | nil => rfl
          | cons piece pieces =>
              rw [List.map_cons, List.modifyHead_cons, List.modifyHead_cons, List.map_cons,
                List.filter_cons_of_pos hc]
        · rw [List.filter_cons_of_neg hc, ih]
          cases splitOn sep cs with
          | nil => rfl
          | cons piece pieces =>
              rw [List.modifyHead_cons, List.map_cons, List.map_cons, List.filter_cons_of_neg hc]

/-- The first cut is the one before which the character does not stand. -/
theorem splitFirst_eq_some_iff {c : Char} {t before after : Text} :
    splitFirst c t = some (before, after) ↔ c ∉ before ∧ t = before ++ c :: after := by
  induction t generalizing before with
  | nil =>
      refine iff_of_false (fun h => nomatch h) fun h => ?_
      exact List.append_ne_nil_of_right_ne_nil before (List.cons_ne_nil c after) h.2.symm
  | cons d ds ih =>
      rw [splitFirst]
      by_cases hd : d = c
      · rw [if_pos hd]
        constructor
        · rintro ⟨⟩
          exact ⟨List.not_mem_nil, hd ▸ rfl⟩
        · rintro ⟨hbefore, ht⟩
          cases before with
          | nil =>
              cases ht
              rfl
          | cons b before =>
              obtain ⟨rfl, -⟩ := List.cons.inj ht
              exact absurd (hd ▸ List.mem_cons_self) hbefore
      · rw [if_neg hd, Option.map_eq_some_iff]
        constructor
        · rintro ⟨cut, hcut, ⟨⟩⟩
          obtain ⟨hbefore, rfl⟩ := ih.mp hcut
          exact ⟨List.not_mem_cons_of_ne_of_not_mem (Ne.symm hd) hbefore, rfl⟩
        · rintro ⟨hbefore, ht⟩
          cases before with
          | nil => exact absurd (List.cons.inj ht).1 hd
          | cons b before =>
              obtain ⟨rfl, rfl⟩ := List.cons.inj ht
              have hcut := ih.mpr ⟨fun h => hbefore (List.mem_cons_of_mem d h), rfl⟩
              exact ⟨(before, after), hcut, rfl⟩

/-! ## Joining -/

theorem join_cons_cons (s : Text) (piece next : Text) (pieces : List Text) :
    join s (piece :: next :: pieces) = piece ++ s ++ join s (next :: pieces) :=
  List.intercalate_cons_cons

theorem join_singleton (s piece : Text) : join s [piece] = piece :=
  List.append_nil piece

/-- Cutting undoes joining with a separator, if no piece holds one. -/
theorem splitOn_join {s : Char} (hs : sep s = true) {pieces : List Text} (hne : pieces ≠ [])
    (h : ∀ piece ∈ pieces, ∀ c ∈ piece, sep c = false) :
    splitOn sep (join [s] pieces) = pieces := by
  induction pieces with
  | nil => exact absurd rfl hne
  | cons piece rest ih =>
      have hpiece := h piece List.mem_cons_self
      cases rest with
      | nil => rw [join_singleton, splitOn_eq_singleton hpiece]
      | cons next more =>
          have hrest := ih (List.cons_ne_nil next more) fun p hp =>
            h p (List.mem_cons_of_mem piece hp)
          rw [join_cons_cons, List.append_assoc, List.singleton_append,
            splitOn_append_cons hpiece hs, hrest]

/-- A joined text holds the characters of the pieces and those of the separator. -/
theorem mem_join {s : Char} {pieces : List Text} {c : Char} (h : c ∈ join [s] pieces) :
    c = s ∨ ∃ piece ∈ pieces, c ∈ piece := by
  induction pieces with
  | nil => exact absurd h List.not_mem_nil
  | cons piece rest ih =>
      cases rest with
      | nil =>
          rw [join_singleton] at h
          exact Or.inr ⟨piece, List.mem_cons_self, h⟩
      | cons next more =>
          rw [join_cons_cons, List.append_assoc, List.mem_append, List.singleton_append,
            List.mem_cons] at h
          rcases h with hpiece | hs | hrest
          · exact Or.inr ⟨piece, List.mem_cons_self, hpiece⟩
          · exact Or.inl hs
          · exact (ih hrest).imp_right fun ⟨found, hfound, hc⟩ =>
              ⟨found, List.mem_cons_of_mem piece hfound, hc⟩

/-! ## Beginnings -/

theorem after?_eq_some_iff {lead t rest : Text} : after? lead t = some rest ↔ t = lead ++ rest := by
  fun_induction after? lead t with
  | case1 t => simp
  | case2 a lead => simp
  | case3 lead c t ih => simp [ih]
  | case4 a lead b t hne => simp [Ne.symm hne]

/-- A text that lacks a character of a beginning does not begin with it. -/
theorem after?_of_not_mem {lead t : Text} {c : Char} (hlead : c ∈ lead) (ht : c ∉ t) :
    after? lead t = none := by
  refine Option.eq_none_iff_forall_ne_some.mpr fun rest hrest => ht ?_
  rw [after?_eq_some_iff.mp hrest]
  exact List.mem_append_left rest hlead

theorem beginsWith_iff {t lead : Text} : beginsWith t lead = true ↔ lead <+: t := by
  rw [beginsWith, Option.isSome_iff_exists]
  exact exists_congr fun rest => after?_eq_some_iff.trans eq_comm

/-- A character that a beginning lacks ends the search for it. -/
theorem beginsWith_append_cons {lead : Text} {c : Char} (h : c ∉ lead) (t rest : Text) :
    beginsWith (t ++ c :: rest) lead = beginsWith t lead := by
  induction lead generalizing t with
  | nil => rfl
  | cons a lead ih =>
      rw [List.mem_cons, not_or] at h
      cases t with
      | nil => rw [List.nil_append, beginsWith, after?, if_neg (Ne.symm h.1), beginsWith, after?]
      | cons b t =>
          rw [List.cons_append, beginsWith, beginsWith, after?, after?]
          by_cases hab : a = b
          · rw [if_pos hab, if_pos hab]
            exact ih h.2 t
          · rw [if_neg hab, if_neg hab]

end Hotkeys.Text
