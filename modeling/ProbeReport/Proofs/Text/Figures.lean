import Mathlib.Algebra.Group.Nat.Defs
import ProbeReport.Proofs.Text.Digit

namespace ProbeReport.Text

-- A text of decimal digits that is so wide and has this value.
structure Figures (width : Nat) (t : List Char) (n : Nat) : Prop where
  width_eq : t.length = width
  isDigit : ∀ c ∈ t, c.isDigit = true
  value_eq : Nat.ofDigitChars 10 t 0 = n

namespace Figures

variable {width n m : Nat} {c d : Char} {t u : List Char}

theorem zero (h : Figures 0 t n) : t = [] ∧ n = 0 := by
  obtain ⟨hw, -, hv⟩ := h
  cases List.eq_nil_of_length_eq_zero hw
  exact ⟨rfl, hv.symm⟩

theorem digit_eq (h : c.isDigit = true) : c.toNat = '0'.toNat + (c.toNat - '0'.toNat) := by
  rw [Char.isDigit, Bool.and_eq_true, decide_eq_true_eq, decide_eq_true_eq] at h
  exact (Nat.add_sub_of_le h.1).symm

theorem digit_le (h : c.isDigit = true) : c.toNat - '0'.toNat ≤ 9 := by
  rw [Char.isDigit, Bool.and_eq_true, decide_eq_true_eq, decide_eq_true_eq] at h
  exact Nat.sub_le_sub_right h.2 '0'.toNat

theorem digit_lt_iff (hc : c.isDigit = true) (hd : d.isDigit = true) :
    c < d ↔ c.toNat - '0'.toNat < d.toNat - '0'.toNat := by
  have h : c < d ↔ c.toNat < d.toNat := Iff.rfl
  have hc' := digit_eq hc
  have hd' := digit_eq hd
  rw [h]
  omega

theorem digit_inj (hc : c.isDigit = true) (hd : d.isDigit = true) :
    c = d ↔ c.toNat - '0'.toNat = d.toNat - '0'.toNat := by
  have hc' := digit_eq hc
  have hd' := digit_eq hd
  rw [← Char.toNat_inj]
  omega

-- The first digit counts for as much as all others cannot reach.
theorem succ (h : Figures (width + 1) t n) :
    ∃ c u rest, t = c :: u ∧ c.isDigit = true ∧ Figures width u rest ∧
      n = 10 ^ width * (c.toNat - '0'.toNat) + rest := by
  cases t with
  | nil => cases h.width_eq
  | cons c u =>
      obtain ⟨hc, hu⟩ := List.forall_mem_cons.1 h.isDigit
      have hl : u.length = width := Nat.succ.inj h.width_eq
      refine ⟨c, u, _, rfl, hc, ⟨hl, hu, rfl⟩, ?_⟩
      rw [← h.value_eq, Nat.ofDigitChars_cons, Nat.ofDigitChars_eq_ofDigitChars_zero, hl, Nat.mul_zero,
        Nat.zero_add]

theorem value_lt (h : Figures width t n) : n < 10 ^ width := by
  induction width generalizing t n with
  | zero =>
      rw [h.zero.2]
      exact Nat.one_pos
  | succ width ih =>
      obtain ⟨c, u, rest, -, hc, hu, rfl⟩ := h.succ
      have hr := ih hu
      have hm := Nat.mul_le_mul_left (10 ^ width) (digit_le hc)
      rw [Nat.pow_succ]
      omega

theorem pow_le (h : Figures (width + 1) t n) (hz : t.head? ≠ some '0') : 10 ^ width ≤ n := by
  obtain ⟨c, u, rest, rfl, hc, -, rfl⟩ := h.succ
  have hpos : c.toNat - '0'.toNat ≠ 0 := by
    intro h0
    have he : c = '0' := (digit_inj hc rfl).2 h0
    exact hz (congrArg some he)
  have hm := Nat.mul_le_mul_left (10 ^ width) (Nat.one_le_iff_ne_zero.2 hpos)
  rw [Nat.mul_one] at hm
  exact Nat.le_trans hm (Nat.le_add_right _ rest)

-- Digits that are equally wide stand in the order of what they count, whatever is behind them.
theorem append_lt_iff (ht : Figures width t n) (hu : Figures width u m) (rest rest' : List Char) :
    t ++ rest < u ++ rest' ↔ n < m ∨ n = m ∧ rest < rest' := by
  induction width generalizing t u n m with
  | zero =>
      obtain ⟨rfl, rfl⟩ := ht.zero
      obtain ⟨rfl, rfl⟩ := hu.zero
      simp
  | succ width ih =>
      obtain ⟨c, t', k, rfl, hc, ht', rfl⟩ := ht.succ
      obtain ⟨d, u', l, rfl, hd, hu', rfl⟩ := hu.succ
      have hk := ht'.value_lt
      have hl := hu'.value_lt
      rw [List.cons_append, List.cons_append, List.cons_lt_cons_iff, ih ht' hu', digit_lt_iff hc hd,
        digit_inj hc hd]
      generalize c.toNat - '0'.toNat = x
      generalize d.toNat - '0'.toNat = y
      rcases Nat.lt_trichotomy x y with h | rfl | h
      · have hm := Nat.mul_le_mul_left (10 ^ width) (Nat.succ_le_of_lt h)
        rw [Nat.mul_succ] at hm
        exact iff_of_true (.inl h) (.inl (by omega))
      · simp only [Nat.lt_irrefl, false_or, true_and, Nat.add_lt_add_iff_left,
          Nat.add_left_cancel_iff]
      · have hm := Nat.mul_le_mul_left (10 ^ width) (Nat.succ_le_of_lt h)
        rw [Nat.mul_succ] at hm
        refine iff_of_false ?_ ?_
        · omega
        · omega

theorem append_inj (ht : Figures width t n) (hu : Figures width u m) {rest rest' : List Char}
    (h : t ++ rest = u ++ rest') : n = m ∧ rest = rest' := by
  obtain ⟨rfl, hr⟩ := List.append_inj h (ht.width_eq.trans hu.width_eq.symm)
  exact ⟨ht.value_eq.symm.trans hu.value_eq, hr⟩

end Figures

-- A number with zeros before it is as wide as it has to be.
theorem figures_padZeros {width n : Nat} (h : (toString n).length ≤ width) :
    Figures width (padZeros width n) n := by
  rw [← String.length_toList] at h
  refine ⟨?_, fun c hc => ?_, ?_⟩
  · rw [padZeros, List.length_append, List.length_replicate]
    omega
  · rw [padZeros, List.mem_append] at hc
    obtain hc | hc := hc
    · rw [List.eq_of_mem_replicate hc]
      rfl
    · exact isDigit_of_mem_toString hc
  · rw [padZeros, Nat.ofDigitChars_append, Nat.ofDigitChars_replicate_zero, Nat.mul_zero,
      Nat.toString_eq_ofList_toDigits, String.toList_ofList, Nat.ofDigitChars_ten_toDigits]

theorem figures_padZeros_of_lt {width n : Nat} (hw : 0 < width) (h : n < 10 ^ width) :
    Figures width (padZeros width n) n := by
  apply figures_padZeros
  rw [← String.length_toList, Nat.toString_eq_ofList_toDigits, String.toList_ofList]
  exact (Nat.length_toDigits_le_iff (by decide) hw).2 h

-- A number that is wider has no zeros before it.
theorem exists_figures {width : Nat} (hw : 0 < width) (n : Nat) :
    ∃ wide, width ≤ wide ∧ Figures wide (padZeros width n) n ∧
      (wide = width ∨ (padZeros width n).head? ≠ some '0') := by
  by_cases h : (toString n).length ≤ width
  · exact ⟨width, Nat.le_refl _, figures_padZeros h, .inl rfl⟩
  · have hn : n ≠ 0 := by
      rintro rfl
      exact h hw
    have hp : padZeros width n = padZeros (toString n).length n := by
      rw [padZeros, padZeros, String.length_toList, Nat.sub_self, Nat.sub_eq_zero_of_le (by omega)]
    refine ⟨(toString n).length, by omega, hp ▸ figures_padZeros (Nat.le_refl _), .inr ?_⟩
    rw [hp, padZeros, String.length_toList, Nat.sub_self]
    exact head?_toString_ne hn

end ProbeReport.Text
