import ProbeReport.Proofs.Text.Search
import ProbeReport.Text.Digit

-- What numbers look like when they are written, and what is read of them.
namespace ProbeReport.Text

theorem isDigit_of_mem_toString {n : Nat} {c : Char} (h : c ∈ (toString n).toList) :
    c.isDigit = true := by
  rw [Nat.toString_eq_ofList_toDigits, String.toList_ofList] at h
  exact Nat.isDigit_of_mem_toDigits (by decide) (by decide) h

theorem toString_ne_nil (n : Nat) : (toString n).toList ≠ [] := by
  rw [Nat.toString_eq_ofList_toDigits, String.toList_ofList]
  exact Nat.toDigits_ne_nil

-- A number that is not zero does not begin with one.
theorem head?_toString_ne {n : Nat} (hn : n ≠ 0) : (toString n).toList.head? ≠ some '0' := by
  rw [Nat.toString_eq_ofList_toDigits, String.toList_ofList]
  induction n using Nat.strongRecOn with
  | ind n ih =>
      by_cases h : n < 10
      · have hd : ∀ k : Fin 10, k.val ≠ 0 → [Nat.digitChar k].head? ≠ some '0' := by decide
        rw [Nat.toDigits_of_lt_base h]
        exact hd ⟨n, h⟩ hn
      · have ih := ih (n / 10) (by omega) (by omega)
        obtain ⟨c, t, ht⟩ :=
          List.exists_cons_of_ne_nil (Nat.toDigits_ne_nil (b := 10) (n := n / 10))
        rw [Nat.toDigits_of_base_le (by decide) (by omega), ht]
        rwa [ht] at ih

-- The lower-case digits of base sixteen.
def isLowerHex (c : Char) : Bool := c.isDigit || ('a' ≤ c && c ≤ 'f')

theorem toNat_lt_of_isLowerHex {c : Char} (h : isLowerHex c = true) : c.toNat < 0x80 := by
  have hle : c ≤ '9' ∨ c ≤ 'f' := by
    rw [isLowerHex, Bool.or_eq_true] at h
    obtain h | h := h
    · exact .inl (of_decide_eq_true (Bool.and_eq_true_iff.1 h).2)
    · exact .inr (of_decide_eq_true (Bool.and_eq_true_iff.1 h).2)
  obtain hle | hle := hle
  · exact Nat.lt_of_le_of_lt (show c.toNat ≤ '9'.toNat from hle) (by decide)
  · exact Nat.lt_of_le_of_lt (show c.toNat ≤ 'f'.toNat from hle) (by decide)

-- What is said of these digits is checked for each of them.
theorem of_isLowerHex {P : Char → Prop}
    (hall : ∀ n : Fin 128, isLowerHex (Char.ofNat n) = true → P (Char.ofNat n)) {c : Char}
    (h : isLowerHex c = true) : P c := by
  obtain ⟨n, rfl⟩ := exists_ofNat (toNat_lt_of_isLowerHex h)
  exact hall n h

theorem isLowerHex_hexDigit {n : Nat} (h : n < 16) : isLowerHex (hexDigit n) = true := by
  revert n
  decide

theorem isLowerHex_of_mem_hexDigits {n : Nat} {c : Char} (h : c ∈ hexDigits n) :
    isLowerHex c = true := by
  induction n using hexDigits.induct with
  | case1 n hn =>
      rw [hexDigits, if_pos hn, List.mem_singleton] at h
      rw [h]
      exact isLowerHex_hexDigit hn
  | case2 n hn ih =>
      rw [hexDigits, if_neg hn, List.mem_append, List.mem_singleton] at h
      obtain h | rfl := h
      · exact ih h
      · exact isLowerHex_hexDigit (Nat.mod_lt n (by decide))

section Reading

variable {c : Char}

theorem exists_of_isDigit (h : isDigit c = true) : ∃ k : Fin 10, c = Char.ofNat (0x30 + k) := by
  have hascii : c.toNat < 0x80 := by
    simp only [isDigit, Bool.and_eq_true, decide_eq_true_eq] at h
    exact Nat.lt_of_le_of_lt (UInt32.le_iff_toNat_le.1 h.2) (by decide)
  obtain ⟨n, rfl⟩ := exists_ofNat hascii
  revert n
  decide

theorem valueIn_concat (base : Nat) (digits : List Char) (c : Char) :
    valueIn base (digits ++ [c]) = valueIn base digits * base + (hexValue? c).getD 0 := by
  rw [valueIn, List.foldl_append]
  rfl

theorem hexValue?_hexDigit {n : Nat} (h : n < 16) : hexValue? (hexDigit n) = some n := by
  have hall : ∀ n : Fin 16, hexValue? (hexDigit n) = some n.val := by decide
  exact hall ⟨n, h⟩

theorem valueIn_hexDigits (n : Nat) : valueIn 16 (hexDigits n) = n := by
  induction n using hexDigits.induct with
  | case1 n hn =>
      rw [hexDigits, if_pos hn, ← List.nil_append [hexDigit n], valueIn_concat,
        hexValue?_hexDigit hn]
      exact Nat.zero_add n
  | case2 n hn ih =>
      rw [hexDigits, if_neg hn, valueIn_concat, ih, hexValue?_hexDigit (Nat.mod_lt n (by decide))]
      exact Nat.div_add_mod' n 16

theorem hexDigits_ne_nil (n : Nat) : hexDigits n ≠ [] := by
  rw [hexDigits]
  split <;> simp

-- A number below a power of sixteen has no more digits than the power has factors.
theorem length_hexDigits_le {k n : Nat} (hk : 0 < k) (h : n < Nat.pow 16 k) :
    (hexDigits n).length ≤ k := by
  induction n using hexDigits.induct generalizing k with
  | case1 n hn =>
      rw [hexDigits, if_pos hn]
      exact hk
  | case2 n hn ih =>
      obtain ⟨k, rfl⟩ := Nat.exists_eq_add_one.2 hk
      have hpos : 0 < k := by
        refine Nat.pos_of_ne_zero fun hz => hn ?_
        rw [hz] at h
        exact h
      have hlt : n / 16 < Nat.pow 16 k := Nat.div_lt_of_lt_mul (by rwa [Nat.mul_comm])
      rw [hexDigits, if_neg hn, List.length_append, List.length_singleton]
      exact Nat.succ_le_succ (ih hpos hlt)

theorem valueIn_replicate (zeros : Nat) : valueIn 10 (List.replicate zeros '0') = 0 := by
  induction zeros with
  | zero => rfl
  | succ zeros ih =>
      rw [List.replicate_succ', valueIn_concat, ih]
      rfl

end Reading

end ProbeReport.Text
