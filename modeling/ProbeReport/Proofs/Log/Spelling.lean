import ProbeReport.Log.Float
import ProbeReport.Proofs.Json.Grammar
import ProbeReport.Proofs.Text.Digit

-- The numbers of the log are spelled as a JSON text wants them.
namespace ProbeReport.Log

open Json.Grammar

section Digits

theorem isDigit_of_mem_toString {n : Nat} {c : Char} (h : c ∈ (toString n).toList) :
    IsDigit c := by
  have hd := Text.isDigit_of_mem_toString h
  rw [Char.isDigit, Bool.and_eq_true, decide_eq_true_eq, decide_eq_true_eq] at hd
  exact hd

theorem digits_toString (n : Nat) : Digits (toString n).toList :=
  ⟨Text.toString_ne_nil n, fun _ h => isDigit_of_mem_toString h⟩

theorem isDigit_of_mem_zeros {n : Nat} {c : Char} (h : c ∈ List.replicate n '0') : IsDigit c := by
  rw [List.eq_of_mem_replicate h]
  decide

-- Digits that do not begin with a zero.
inductive Significant : List Char → Prop where
  | mk {c : Char} {t : List Char} :
      IsDigit c → c ≠ '0' → (∀ d ∈ t, IsDigit d) → Significant (c :: t)

theorem Significant.isDigit {t : List Char} (h : Significant t) : ∀ c ∈ t, IsDigit c := by
  obtain ⟨hc, -, ht⟩ := h
  exact List.forall_mem_cons.2 ⟨hc, ht⟩

theorem Significant.whole {t : List Char} (h : Significant t) : Whole t := by
  obtain ⟨hc, hz, ht⟩ := h
  exact .digits hc hz ht

theorem significant_toString {n : Nat} (hn : n ≠ 0) : Significant (toString n).toList := by
  have hz := Text.head?_toString_ne hn
  obtain ⟨-, hd⟩ := digits_toString n
  obtain ⟨c, t, ht⟩ := List.exists_cons_of_ne_nil (Text.toString_ne_nil n)
  rw [ht] at hz hd ⊢
  exact .mk (hd c List.mem_cons_self) (fun hc => hz (congrArg some hc))
    fun d h => hd d (List.mem_cons_of_mem _ h)

theorem whole_toString (n : Nat) : Whole (toString n).toList := by
  by_cases hn : n = 0
  · rw [hn]
    exact .zero
  · exact (significant_toString hn).whole

end Digits

-- A number without a minus. One may always be put before it.
inductive Unsigned : List Char → Prop where
  | mk {whole fraction exponent : List Char} :
      Whole whole → Fraction fraction → Exponent exponent exponent →
      Unsigned (whole ++ fraction ++ exponent)

section Numbers

theorem Unsigned.number {t minus : List Char} (h : Unsigned t) (hm : Minus minus) :
    Number (minus ++ t) (minus ++ t) := by
  obtain ⟨hw, hf, hx⟩ := h
  have hn := Number.mk hm hw hf hx
  simpa only [List.append_assoc] using hn

theorem Unsigned.signed {t : List Char} (h : Unsigned t) (negative : Bool) :
    Number (if negative then "-" ++ String.ofList t else String.ofList t).toList
      (if negative then "-" ++ String.ofList t else String.ofList t).toList := by
  cases negative with
  | false => simpa using h.number .absent
  | true => simpa using h.number .present

theorem number_toString (n : Int) : Number (toString n).toList (toString n).toList := by
  have hu (n : Nat) : Unsigned (toString n).toList := by
    have h := Unsigned.mk (whole_toString n) .absent .absent
    rwa [List.append_nil, List.append_nil] at h
  cases n with
  | ofNat n => exact (hu n).number .absent
  | negSucc n =>
      have ht : (toString (Int.negSucc n)).toList = ['-'] ++ (toString (n + 1)).toList :=
        String.toList_append
      rw [ht]
      exact (hu (n + 1)).number .present

theorem unsigned_decimal {whole digits : List Char} (hw : Whole whole) (hd : Digits digits) :
    Unsigned (whole ++ '.' :: digits) := by
  have h := Unsigned.mk hw (.present hd) .absent
  rwa [List.append_nil] at h

theorem digits_zero : Digits ['0'] := by
  refine ⟨nofun, fun d hd => ?_⟩
  rw [List.mem_singleton.1 hd]
  decide

theorem unsigned_zero : Unsigned ['0', '.', '0'] := unsigned_decimal .zero digits_zero

variable {t : List Char}

-- Zeros take the places up to the point.
theorem unsigned_integral (h : Significant t) (count : Nat) :
    Unsigned (t ++ List.replicate count '0' ++ ['.', '0']) := by
  obtain ⟨hc, hz, ht⟩ := h
  refine unsigned_decimal (.digits hc hz fun d hd => ?_) digits_zero
  exact (List.mem_append.1 hd).elim (ht d) isDigit_of_mem_zeros

-- The point stands between two digits.
theorem unsigned_mixed (h : Significant t) {count : Nat} (hl : count + 1 < t.length) :
    Unsigned (t.take (count + 1) ++ '.' :: t.drop (count + 1)) := by
  have hd := h.isDigit
  obtain ⟨hc, hz, ht⟩ := h
  refine unsigned_decimal (.digits hc hz fun d h => ht d (List.mem_of_mem_take h)) ⟨?_, ?_⟩
  · intro hn
    rw [List.drop_eq_nil_iff] at hn
    omega
  · intro d h
    exact hd d (List.mem_of_mem_drop h)

-- Zeros take the places behind the point.
theorem unsigned_fractional (h : Significant t) (count : Nat) :
    Unsigned ('0' :: '.' :: List.replicate count '0' ++ t) := by
  have hd : Digits (List.replicate count '0' ++ t) := by
    constructor
    · obtain ⟨-, -, -⟩ := h
      simp
    · intro d hd
      exact (List.mem_append.1 hd).elim isDigit_of_mem_zeros (h.isDigit d)
  exact unsigned_decimal .zero hd

theorem unsigned_scientific (h : Significant t) {sign : Char} (hs : sign = '+' ∨ sign = '-')
    (exponent : Nat) :
    Unsigned (t.take 1 ++ (if t.length = 1 then [] else '.' :: t.drop 1) ++
      'e' :: sign :: (toString exponent).toList) := by
  have hx := Exponent.signed (.inl rfl) hs (digits_toString exponent)
  obtain ⟨hc, hz, ht⟩ := h
  rename_i c t
  have hw : Whole [c] := .digits hc hz nofun
  cases t with
  | nil => exact .mk hw .absent hx
  | cons d more => exact .mk hw (.present ⟨nofun, ht⟩) hx

theorem unsigned_scaledText {s : Decimal.Scaled} (hs : s.digits ≠ 0) :
    Unsigned (scaledText s) := by
  have hd := significant_toString hs
  rw [scaledText]
  generalize (toString s.digits).toList = t at hd
  generalize hlead : (t.length : Int) + s.exponent - 1 = leading
  dsimp only
  by_cases hplain : -5 ≤ leading ∧ leading < 16
  · rw [if_pos hplain]
    by_cases hwhole : 0 ≤ s.exponent
    · rw [if_pos hwhole]
      exact unsigned_integral hd _
    · rw [if_neg hwhole]
      by_cases hpoint : 0 ≤ leading
      · rw [if_pos hpoint]
        exact unsigned_mixed hd (by omega)
      · rw [if_neg hpoint]
        exact unsigned_fractional hd _
  · rw [if_neg hplain]
    exact unsigned_scientific hd (by split <;> simp) _

end Numbers

end ProbeReport.Log
