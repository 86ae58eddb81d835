import ProbeReport.Text.Search

-- Texts that are cut at a character, and lines in particular.
namespace ProbeReport.Text

-- Lines with their ends.
def unlines (lines : List (List Char)) : List Char := lines.flatMap (· ++ ['\n'])

section Split

variable {separator c : Char} {t : List Char}

theorem unlines_cons (line : List Char) (more : List (List Char)) :
    unlines (line :: more) = line ++ '\n' :: unlines more := by
  rw [unlines, List.flatMap_cons, List.append_assoc]
  rfl

theorem splitAt_cons_self (separator : Char) (t : List Char) :
    splitAt separator (separator :: t) = [] :: splitAt separator t := if_pos rfl

-- The first piece ends before the first separator.
theorem exists_splitAt (separator : Char) (t : List Char) :
    ∃ more, splitAt separator t = t.takeWhile (· ≠ separator) :: more := by
  induction t with
  | nil => exact ⟨[], rfl⟩
  | cons c t ih =>
      obtain ⟨more, hm⟩ := ih
      by_cases hc : c = separator
      · subst hc
        exact ⟨splitAt c t, by rw [splitAt_cons_self, List.takeWhile_cons_of_neg (by simp)]⟩
      · have ht : (c :: t).takeWhile (· ≠ separator) = c :: t.takeWhile (· ≠ separator) :=
          List.takeWhile_cons_of_pos (decide_eq_true hc)
        exact ⟨more, by rw [splitAt, if_neg hc, hm, ht]⟩

theorem splitAt_cons_of_ne (hc : c ≠ separator) {first : List Char} {more : List (List Char)}
    (h : splitAt separator t = first :: more) :
    splitAt separator (c :: t) = (c :: first) :: more := by
  rw [splitAt, if_neg hc, h]

theorem splitAt_eq_splitOn (separator : Char) (t : List Char) :
    splitAt separator t = t.splitOn separator := by
  induction t with
  | nil => rfl
  | cons c t ih =>
      rw [List.splitOn_cons_eq_if_modifyHead, ← ih]
      obtain ⟨more, hm⟩ := exists_splitAt separator t
      by_cases hc : c = separator
      · rw [hc, splitAt_cons_self, if_pos (beq_self_eq_true separator)]
      · rw [splitAt_cons_of_ne hc hm, hm, if_neg (by simpa using hc), List.modifyHead_cons]

theorem unlines_splitAt (t : List Char) : unlines (splitAt '\n' t) = t ++ ['\n'] := by
  induction t with
  | nil => rfl
  | cons c t ih =>
      obtain ⟨more, hm⟩ := exists_splitAt '\n' t
      by_cases hc : c = '\n'
      · rw [hc, splitAt_cons_self, unlines_cons, ih]
        rfl
      · rw [splitAt_cons_of_ne hc hm, unlines_cons, List.cons_append, ← unlines_cons, ← hm, ih]
        rfl

theorem of_mem_splitAt {line : List Char} (h : line ∈ splitAt separator t) (hc : c ∈ line) :
    c ∈ t ∧ c ≠ separator := by
  induction t generalizing line with
  | nil =>
      rw [List.mem_singleton.1 h] at hc
      cases hc
  | cons d t ih =>
      obtain ⟨more, hm⟩ := exists_splitAt separator t
      have hlater (hl : line ∈ splitAt separator t) : c ∈ d :: t ∧ c ≠ separator :=
        (ih hl hc).imp_left (List.mem_cons_of_mem d)
      by_cases hd : d = separator
      · rw [hd, splitAt_cons_self, List.mem_cons] at h
        obtain rfl | h := h
        · cases hc
        · exact hlater h
      · rw [splitAt_cons_of_ne hd hm, List.mem_cons] at h
        obtain rfl | h := h
        · rw [List.mem_cons] at hc
          obtain rfl | hc := hc
          · exact ⟨List.mem_cons_self, hd⟩
          · have hf := ih (hm ▸ List.mem_cons_self) hc
            exact ⟨List.mem_cons_of_mem d hf.1, hf.2⟩
        · exact hlater (hm ▸ List.mem_cons_of_mem _ h)

-- Pieces without a separator come back.
theorem splitAt_intercalate {pieces : List (List Char)} (hn : pieces ≠ [])
    (h : ∀ piece ∈ pieces, separator ∉ piece) :
    splitAt separator ([separator].intercalate pieces) = pieces := by
  rw [splitAt_eq_splitOn]
  exact List.splitOn_intercalate separator h hn

end Split

end ProbeReport.Text
