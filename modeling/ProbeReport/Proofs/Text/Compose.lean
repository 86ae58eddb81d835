import ProbeReport.Text.Compose

-- Blanks and controls are left alone when marks are joined to their carriers.
namespace ProbeReport.Text

-- What holds of all entries of a table is checked row by row.
def CodeSet.AllEntries (check : List Char → Bool) (rows : List String) : Prop :=
  ∀ entry ∈ entries rows, check entry = true

section AllEntries

open CodeSet

variable {check : List Char → Bool} {rows : List String}

theorem allEntries_nil : AllEntries check [] := by
  simp [AllEntries, entries]

-- The row stands here as characters, since a text is slow to take apart within a proof.
theorem allEntries_cons {row : List Char} (h : (splitAt ' ' row).all check = true)
    (hs : AllEntries check rows) : AllEntries check (String.ofList row :: rows) := by
  intro entry he
  rw [entries, List.flatMap_cons, String.toList_ofList, List.mem_append] at he
  exact he.elim (List.all_eq_true.1 h entry) (hs entry)

theorem forall_mem_map_entries {α : Type} {f : List Char → α} (p : α → Bool)
    (h : AllEntries (fun entry => p (f entry)) rows) :
    ∀ value ∈ (entries rows).map f, p value = true :=
  List.forall_mem_map.2 h

end AllEntries

-- Whether a code point is none of a blank or control.
def isBehindBlanks (code : Nat) : Bool := 0x20 < code

theorem composites_behindBlanks :
    ∀ entry ∈ composites,
      (isBehindBlanks entry.1.1 && isBehindBlanks entry.1.2 && isBehindBlanks entry.2) = true := by
  dsimp only [composites]
  apply forall_mem_map_entries fun entry : (Nat × Nat) × Nat =>
    isBehindBlanks entry.1.1 && isBehindBlanks entry.1.2 && isBehindBlanks entry.2
  repeat refine allEntries_cons (by decide +kernel) ?_
  exact allEntries_nil

theorem composite?_behindBlanks {carrier mark whole : Char}
    (h : composite? carrier mark = some whole) : 0x20 < carrier.toNat ∧ 0x20 < mark.toNat := by
  obtain ⟨code, hc, -⟩ := Option.map_eq_some_iff.1 h
  rw [Option.or_eq_some_iff] at hc
  obtain hs | ⟨-, hl⟩ := hc
  · rw [syllable?] at hs
    split at hs
    · omega
    · split at hs
      · omega
      · cases hs
  · obtain ⟨front, back, he, -⟩ := List.lookup_eq_some_iff.1 hl
    have hb := composites_behindBlanks ((carrier.toNat, mark.toNat), code) (by simp [he])
    simp only [isBehindBlanks, Bool.and_eq_true, decide_eq_true_eq] at hb
    exact hb.1

section Blank

variable {c : Char}

theorem decomposeChar_of_blank (hc : c.toNat ≤ 0x20) (depth : Nat) :
    decomposeChar depth c = [c] := by
  cases depth with
  | zero => rfl
  | succ depth =>
      rw [decomposeChar]
      split
      · rename_i hf
        have hb := composites_behindBlanks _ (List.mem_of_find?_eq_some hf)
        have hw := List.find?_some hf
        simp only [isBehindBlanks, Bool.and_eq_true, decide_eq_true_eq] at hb hw
        omega
      · rfl

theorem mem_placeMark {d : Char} {s : List Char} : c ∈ placeMark d s ↔ c = d ∨ c ∈ s := by
  induction s with
  | nil => simp [placeMark]
  | cons e s ih =>
      rw [placeMark]
      split
      · rw [List.mem_cons, ih, List.mem_cons, or_left_comm]
      · rw [List.mem_cons]

theorem mem_orderMarks {s : List Char} : c ∈ orderMarks s ↔ c ∈ s := by
  induction s with
  | nil => rfl
  | cons d s ih => rw [orderMarks, List.foldr_cons, mem_placeMark, ← orderMarks, ih, List.mem_cons]

-- A blank stays whether it is looked at as a carrier or as a mark.
theorem mem_joinFrom (hc : c.toNat ≤ 0x20) {carrier : Char} {kept s : List Char}
    (h : c = carrier ∨ c ∈ kept ∨ c ∈ s) : c ∈ joinFrom carrier kept s := by
  induction s generalizing carrier kept with
  | nil =>
      unfold joinFrom
      rw [List.mem_cons, List.mem_reverse]
      simpa using h
  | cons d s ih =>
      unfold joinFrom
      extract_lets meets
      split
      · rename_i whole hw
        rw [Option.ite_none_right_eq_some] at hw
        obtain ⟨hcarrier, hmark⟩ := composite?_behindBlanks hw.2
        refine ih ?_
        rw [List.mem_cons] at h
        obtain rfl | hk | rfl | hs := h
        · omega
        · exact .inr (.inl hk)
        · omega
        · exact .inr (.inr hs)
      · rw [List.mem_cons] at h
        split
        · rw [List.cons_append, List.mem_cons, List.mem_append, List.mem_reverse]
          obtain hcarrier | hk | hd | hs := h
          · exact .inl hcarrier
          · exact .inr (.inl hk)
          · exact .inr (.inr (ih (.inl hd)))
          · exact .inr (.inr (ih (.inr (.inr hs))))
        · refine ih ?_
          rw [List.mem_cons]
          obtain hcarrier | hk | hd | hs := h
          · exact .inl hcarrier
          · exact .inr (.inl (.inr hk))
          · exact .inr (.inl (.inl hd))
          · exact .inr (.inr hs)

theorem mem_compose (hc : c.toNat ≤ 0x20) {s : List Char} (h : c ∈ s) : c ∈ compose s := by
  have hd : c ∈ orderMarks (s.flatMap (decomposeChar mostMarks)) := by
    rw [mem_orderMarks, List.mem_flatMap]
    exact ⟨c, h, by rw [decomposeChar_of_blank hc]; exact List.mem_singleton_self c⟩
  unfold compose
  split
  · rename_i he
    rw [he] at hd
    cases hd
  · rename_i d rest he
    rw [he, List.mem_cons] at hd
    exact mem_joinFrom hc (hd.imp_right .inr)

end Blank

end ProbeReport.Text
