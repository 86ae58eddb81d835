import Mathlib.Data.List.TakeWhile
import ProbeReport.Proofs.Decimal.Shortest
import ProbeReport.Proofs.Log.Spelling

-- What the spelling of a float amounts to, and how it is laid out.
namespace ProbeReport.Log

open Json.Grammar

-- The parts of a text on both sides of a mark.
def before (mark : Char) (t : List Char) : List Char := t.takeWhile (· ≠ mark)

def behind (mark : Char) (t : List Char) : List Char := (t.dropWhile (· ≠ mark)).drop 1

def count (digits : List Char) : Nat := Nat.ofDigitChars 10 digits 0

-- An exponent may have a sign.
def power : List Char → Int
  | '-' :: digits => -count digits
  | '+' :: digits => count digits
  | digits => count digits

-- What digits with a point amount to.
def pointed (t : List Char) : ℚ :=
  count (before '.' t ++ behind '.' t) * 10 ^ (-(behind '.' t).length : Int)

-- What a number without a minus amounts to.
def amount (t : List Char) : ℚ := pointed (before 'e' t) * 10 ^ power (behind 'e' t)

-- How a float without its sign is spelled: with the fewest digits that are read as it, by a point
-- unless it is very big or very small, and without zeros that could be left out.
structure Spells (n : Nat) (t : List Char) : Prop where
  shortest : ∃ s : Decimal.Scaled, amount t = s.digits * 10 ^ s.exponent ∧ Decimal.IsShortest n s
  scientific : 'e' ∈ t ↔ amount t ≠ 0 ∧ (amount t < 10 ^ (-5 : Int) ∨ 10 ^ (16 : Int) ≤ amount t)
  pointed : 'e' ∉ t → '.' ∈ t
  tidy : ∀ front, before 'e' t = front ++ ['0'] → front.getLast? = some '.'

section Reading

variable {mark : Char} {t rest : List Char}

theorem before_append (h : mark ∉ t) : before mark (t ++ mark :: rest) = t := by
  have hpos : ∀ c ∈ t, decide (c ≠ mark) = true := fun c hc => decide_eq_true fun he => h (he ▸ hc)
  rw [before, List.takeWhile_append_of_pos hpos, List.takeWhile_cons_of_neg (by simp),
    List.append_nil]

theorem behind_append (h : mark ∉ t) : behind mark (t ++ mark :: rest) = rest := by
  have hpos : ∀ c ∈ t, decide (c ≠ mark) = true := fun c hc => decide_eq_true fun he => h (he ▸ hc)
  rw [behind, List.dropWhile_append_of_pos hpos, List.dropWhile_cons_of_neg (by simp)]
  rfl

theorem before_of_not_mem (h : mark ∉ t) : before mark t = t :=
  List.takeWhile_eq_self_iff.2 fun _ hc => decide_eq_true fun he => h (he ▸ hc)

theorem behind_of_not_mem (h : mark ∉ t) : behind mark t = [] := by
  have hd : t.dropWhile (· ≠ mark) = [] :=
    List.dropWhile_eq_nil_iff.2 fun _ hc => decide_eq_true fun he => h (he ▸ hc)
  rw [behind, hd]
  rfl

theorem amount_of_not_mem (h : 'e' ∉ t) : amount t = pointed t := by
  rw [amount, before_of_not_mem h, behind_of_not_mem h]
  exact mul_one _

theorem amount_scientific (h : 'e' ∉ t) :
    amount (t ++ 'e' :: rest) = pointed t * 10 ^ power rest := by
  rw [amount, before_append h, behind_append h]

theorem pointed_append (h : '.' ∉ t) :
    pointed (t ++ '.' :: rest) = Decimal.point (count (t ++ rest)) (-rest.length) := by
  rw [pointed, before_append h, behind_append h, Decimal.point]

theorem pointed_of_not_mem (h : '.' ∉ t) : pointed t = count t := by
  rw [pointed, before_of_not_mem h, behind_of_not_mem h, List.append_nil]
  exact mul_one _

end Reading

section Counting

variable {t : List Char}

theorem count_toString (n : Nat) : count (toString n).toList = n := by
  rw [count, Nat.toString_eq_ofList_toDigits, String.toList_ofList, Nat.ofDigitChars_ten_toDigits]

theorem count_append_zeros (t : List Char) (zeros : Nat) :
    count (t ++ List.replicate zeros '0') = count t * 10 ^ zeros := by
  rw [count, Nat.ofDigitChars_append, Nat.ofDigitChars_replicate_zero, Nat.mul_comm, count]

theorem count_zeros_append (zeros : Nat) (t : List Char) :
    count (List.replicate zeros '0' ++ t) = count t := by
  rw [count, Nat.ofDigitChars_append, Nat.ofDigitChars_replicate_zero, Nat.mul_zero, count]

-- Marks are no digits.
theorem not_mem_of_isDigit {c : Char} (h : ∀ d ∈ t, IsDigit d) (hc : ¬IsDigit c) : c ∉ t :=
  fun hm => hc (h c hm)

end Counting

section Layout

variable {s : Decimal.Scaled}

-- The power of ten of the first digit.
def leading (s : Decimal.Scaled) : Int := ((toString s.digits).toList.length : Int) + s.exponent - 1

-- Digits around a point, for digits at an exponent. The last of them is the same, or the one zero
-- that there must be.
structure Positional (t : List Char) (exponent : Int) (whole fraction : List Char) : Prop where
  whole_digits : ∀ c ∈ whole, IsDigit c
  fraction_digits : ∀ c ∈ fraction, IsDigit c
  amount_eq : Decimal.point (count (whole ++ fraction)) (-fraction.length) =
    Decimal.point (count t) exponent
  last : fraction = ['0'] ∨ fraction.getLast? = t.getLast?

section Points

variable {t : List Char} (ht : ∀ c ∈ t, IsDigit c)

include ht

theorem positional_integral (k : Nat) :
    Positional t k (t ++ List.replicate k '0') ['0'] := by
  refine ⟨fun c hc => ?_, fun c hc => ?_, ?_, .inl rfl⟩
  · exact (List.mem_append.1 hc).elim (ht c) isDigit_of_mem_zeros
  · exact digits_zero.2 c hc
  · rw [List.append_assoc, ← List.replicate_succ', count_append_zeros, Decimal.point_mul_pow]
    congr 1
    push_cast
    simp

theorem positional_mixed {k : Nat} (hk : k < t.length) :
    Positional t (k - t.length) (t.take k) (t.drop k) := by
  refine ⟨fun c hc => ht c (List.mem_of_mem_take hc), fun c hc => ht c (List.mem_of_mem_drop hc),
    ?_, .inr ?_⟩
  · rw [List.take_append_drop, List.length_drop]
    congr 1
    omega
  · rw [List.getLast?_drop, if_neg (by omega)]

theorem positional_fractional (hn : t ≠ []) (k : Nat) :
    Positional t (-(k + t.length)) ['0'] (List.replicate k '0' ++ t) := by
  refine ⟨digits_zero.2, fun c hc => ?_, ?_, .inr ?_⟩
  · exact (List.mem_append.1 hc).elim isDigit_of_mem_zeros (ht c)
  · have hz : ['0'] ++ (List.replicate k '0' ++ t) = List.replicate (k + 1) '0' ++ t := by
      rw [← List.append_assoc, List.replicate_succ]
      rfl
    rw [hz, count_zeros_append, List.length_append, List.length_replicate]
    rfl
  · rw [List.getLast?_append_of_ne_nil _ hn]

end Points

theorem exists_positional (h : -5 ≤ leading s ∧ leading s < 16) :
    ∃ whole fraction, scaledText s = whole ++ '.' :: fraction ∧
      Positional (toString s.digits).toList s.exponent whole fraction := by
  have hd := (digits_toString s.digits).2
  have hn := Text.toString_ne_nil s.digits
  have htext : scaledText s =
      (let digits := (toString s.digits).toList
      if 0 ≤ s.exponent then digits ++ List.replicate s.exponent.toNat '0' ++ ['.', '0']
      else if 0 ≤ leading s then
        digits.take ((leading s).toNat + 1) ++ '.' :: digits.drop ((leading s).toNat + 1)
      else '0' :: '.' :: List.replicate (-leading s - 1).toNat '0' ++ digits) := if_pos h
  have hleading : leading s = ((toString s.digits).toList.length : Int) + s.exponent - 1 := rfl
  generalize (toString s.digits).toList = t at hd hn htext hleading
  dsimp only at htext
  by_cases hwhole : 0 ≤ s.exponent
  · rw [if_pos hwhole] at htext
    have hp := positional_integral hd s.exponent.toNat
    rw [Int.toNat_of_nonneg hwhole] at hp
    exact ⟨_, _, htext, hp⟩
  · rw [if_neg hwhole] at htext
    by_cases hpoint : 0 ≤ leading s
    · rw [if_pos hpoint] at htext
      have hp := positional_mixed hd (k := (leading s).toNat + 1) (by omega)
      have he : (((leading s).toNat + 1 : ℕ) : Int) - t.length = s.exponent := by omega
      rw [he] at hp
      exact ⟨_, _, htext, hp⟩
    · rw [if_neg hpoint] at htext
      have hp := positional_fractional hd hn (-leading s - 1).toNat
      have he : -(((-leading s - 1).toNat : Int) + t.length) = s.exponent := by omega
      rw [he] at hp
      exact ⟨_, _, htext, hp⟩

-- One digit before the point, the others behind it, and the power of ten that moves the point.
theorem exists_scientific (h : ¬(-5 ≤ leading s ∧ leading s < 16)) :
    ∃ digits rest, scaledText s = digits ++ 'e' :: rest ∧ 'e' ∉ digits ∧
      pointed digits = Decimal.point s.digits (s.exponent - leading s) ∧
      power rest = leading s ∧ digits.getLast? = (toString s.digits).toList.getLast? := by
  have hd := (digits_toString s.digits).2
  have hc := count_toString s.digits
  have hn := Text.toString_ne_nil s.digits
  have hleading : leading s = ((toString s.digits).toList.length : Int) + s.exponent - 1 := rfl
  have htext : scaledText s = (let digits := (toString s.digits).toList
      let fraction := if digits.length = 1 then [] else '.' :: digits.drop 1
      let sign := if leading s < 0 then '-' else '+'
      digits.take 1 ++ fraction ++ 'e' :: sign :: (toString (leading s).natAbs).toList) := if_neg h
  generalize (toString s.digits).toList = t at hd hc hn hleading htext
  obtain ⟨c, t, rfl⟩ := List.exists_cons_of_ne_nil hn
  have hfirst : IsDigit c := hd c List.mem_cons_self
  have hpower : power ((if leading s < 0 then '-' else '+') ::
      (toString (leading s).natAbs).toList) = leading s := by
    by_cases hs : leading s < 0
    · rw [if_pos hs, power, count_toString]
      omega
    · rw [if_neg hs, power, count_toString]
      omega
  have hmark {mark : Char} (hm : ¬IsDigit mark) : mark ∉ [c] ∧ mark ∉ t :=
    ⟨not_mem_of_isDigit (List.forall_mem_singleton.2 hfirst) hm,
      not_mem_of_isDigit (fun d h => hd d (List.mem_cons_of_mem c h)) hm⟩
  cases t with
  | nil =>
      refine ⟨[c], _, htext, (hmark (by decide)).1, ?_, hpower, rfl⟩
      have hexp : s.exponent - leading s = 0 := by
        rw [List.length_singleton] at hleading
        omega
      rw [pointed_of_not_mem (hmark (by decide)).1, hc, Decimal.point, hexp, zpow_zero, mul_one]
  | cons d more =>
      refine ⟨[c] ++ '.' :: d :: more, _, htext, ?_, ?_, hpower, ?_⟩
      · refine fun hm => (List.mem_append.1 hm).elim (hmark (by decide)).1 fun hm => ?_
        exact (List.mem_cons.1 hm).elim (by decide) (hmark (by decide)).2
      · have hexp : s.exponent - leading s = -((d :: more).length : Int) := by
          rw [hleading, List.length_cons]
          push_cast
          ring
        rw [pointed_append (hmark (by decide)).1, List.singleton_append, hc, hexp]
      · rw [List.getLast?_append_of_ne_nil _ (List.cons_ne_nil _ _), List.getLast?_cons_cons,
          List.getLast?_cons_cons]

end Layout

section Spelling

variable {s : Decimal.Scaled} {n : Nat}

theorem Positional.not_mem {t whole fraction : List Char} {exponent : Int}
    (h : Positional t exponent whole fraction) :
    'e' ∉ whole ++ '.' :: fraction ∧ '.' ∉ whole := by
  rw [List.mem_append, List.mem_cons, not_or, not_or]
  exact ⟨⟨not_mem_of_isDigit h.whole_digits (by decide), by decide,
    not_mem_of_isDigit h.fraction_digits (by decide)⟩,
    not_mem_of_isDigit h.whole_digits (by decide)⟩

theorem mem_scaledText_iff : 'e' ∈ scaledText s ↔ ¬(-5 ≤ leading s ∧ leading s < 16) := by
  by_cases h : -5 ≤ leading s ∧ leading s < 16
  · obtain ⟨whole, fraction, htext, hp⟩ := exists_positional h
    rw [htext]
    exact iff_of_false hp.not_mem.1 (not_not.2 h)
  · obtain ⟨digits, rest, htext, -⟩ := exists_scientific h
    rw [htext]
    exact iff_of_true (by simp) h

theorem amount_scaledText (s : Decimal.Scaled) :
    amount (scaledText s) = Decimal.point s.digits s.exponent := by
  by_cases h : -5 ≤ leading s ∧ leading s < 16
  · obtain ⟨whole, fraction, htext, hp⟩ := exists_positional h
    rw [htext, amount_of_not_mem hp.not_mem.1, pointed_append hp.not_mem.2, hp.amount_eq,
      count_toString]
  · obtain ⟨digits, rest, htext, hm, hp, hw, -⟩ := exists_scientific h
    rw [htext, amount_scientific hm, hp, hw, Decimal.point, Decimal.point, mul_assoc,
      ← zpow_add₀ (by norm_num), Int.sub_add_cancel]

-- The first digit tells how big a number is.
theorem zpow_leading_bounds (hs : s.digits ≠ 0) :
    10 ^ leading s ≤ Decimal.point s.digits s.exponent ∧
      Decimal.point s.digits s.exponent < 10 ^ (leading s + 1) := by
  obtain ⟨hl, hu⟩ := Decimal.Interval.pow_length_bounds (Nat.pos_of_ne_zero hs)
  have hlen : leading s = ((toString s.digits).length : Int) + s.exponent - 1 := by
    rw [← String.length_toList]
    rfl
  have hpos : 0 < (toString s.digits).length := by
    rw [← String.length_toList]
    exact List.length_pos_iff.2 (Text.toString_ne_nil s.digits)
  generalize (toString s.digits).length = length at hl hu hlen hpos
  constructor
  · have hp : Decimal.point _ s.exponent ≤ Decimal.point _ s.exponent := Decimal.point_mono hl
    rw [Decimal.point_pow] at hp
    have he : ((length - 1 : ℕ) : Int) + s.exponent = leading s := by omega
    rwa [he] at hp
  · have hq : (s.digits : ℚ) < (10 ^ length : ℕ) := by exact_mod_cast hu
    have hp : Decimal.point s.digits s.exponent < Decimal.point (10 ^ length) s.exponent :=
      mul_lt_mul_of_pos_right hq (Decimal.ten_zpow_pos s.exponent)
    rw [Decimal.point_pow] at hp
    have he : (length : Int) + s.exponent = leading s + 1 := by omega
    rwa [he] at hp

theorem getLast?_toString_ne {k : Nat} (h : k % 10 ≠ 0) :
    (toString k).toList.getLast? ≠ some '0' := by
  have hd : ∀ r : Fin 10, r.val ≠ 0 → Nat.digitChar r ≠ '0' := by decide
  rw [Nat.toString_eq_ofList_toDigits, String.toList_ofList]
  by_cases hk : k < 10
  · rw [Nat.toDigits_of_lt_base hk, List.getLast?_singleton, ne_eq, Option.some.injEq]
    exact hd ⟨k, hk⟩ (show k ≠ 0 by omega)
  · rw [Nat.toDigits_of_base_le (by decide) (by omega), List.getLast?_concat, ne_eq,
      Option.some.injEq]
    exact hd ⟨k % 10, Nat.mod_lt k (by decide)⟩ h

theorem spells_scaledText (h : Decimal.IsShortest n s) (hn : 0 < n) (hz : s.digits % 10 ≠ 0) :
    Spells n (scaledText s) := by
  have hs := h.digits_ne_zero hn
  obtain ⟨hl, hu⟩ := zpow_leading_bounds hs
  have hlast := getLast?_toString_ne hz
  refine ⟨⟨s, amount_scaledText s, h⟩, ?_, fun he => ?_, fun front hf => ?_⟩
  · have hpos : Decimal.point s.digits s.exponent ≠ 0 :=
      ((zpow_pos (by norm_num) (leading s)).trans_le hl).ne'
    rw [mem_scaledText_iff, amount_scaledText, not_and_or, and_iff_right hpos]
    have hone : (1 : ℚ) < 10 := by norm_num
    have hsmall : ¬-5 ≤ leading s ↔ Decimal.point s.digits s.exponent < 10 ^ (-5 : Int) := by
      rw [not_le]
      constructor
      · exact fun h => hu.trans_le (zpow_le_zpow_right₀ hone.le (by omega))
      · exact fun h => (zpow_lt_zpow_iff_right₀ hone).1 (hl.trans_lt h)
    have hbig : ¬leading s < 16 ↔ 10 ^ (16 : Int) ≤ Decimal.point s.digits s.exponent := by
      rw [not_lt]
      constructor
      · exact fun h => (zpow_le_zpow_right₀ hone.le h).trans hl
      · exact fun h => Int.le_of_lt_add_one ((zpow_lt_zpow_iff_right₀ hone).1 (h.trans_lt hu))
    rw [hsmall, hbig]
  · obtain ⟨whole, fraction, htext, -⟩ := exists_positional (not_not.1 (mt mem_scaledText_iff.2 he))
    rw [htext]
    simp
  · by_cases hplain : -5 ≤ leading s ∧ leading s < 16
    · obtain ⟨whole, fraction, htext, hp⟩ := exists_positional hplain
      rw [htext, before_of_not_mem hp.not_mem.1] at hf
      obtain rfl | hfraction := hp.last
      · have hpoint : whole ++ ['.'] = front := by
          rw [List.append_cons] at hf
          exact (List.append_inj' hf rfl).1
        rw [← hpoint, List.getLast?_concat]
      · have hend := congrArg List.getLast? hf
        obtain ⟨c, hc⟩ := Option.ne_none_iff_exists'.1
          (mt List.getLast?_eq_none_iff.1 (Text.toString_ne_nil s.digits))
        rw [List.getLast?_append_of_ne_nil _ (List.cons_ne_nil _ _), List.getLast?_cons,
          hfraction, hc, Option.getD_some, List.getLast?_concat] at hend
        exact absurd (hc.trans hend) hlast
    · obtain ⟨digits, rest, htext, hm, -, -, hdigits⟩ := exists_scientific hplain
      rw [htext, before_append hm] at hf
      rw [hf, List.getLast?_concat] at hdigits
      exact absurd hdigits.symm hlast

theorem spells_zero : Spells 0 ['0', '.', '0'] := by
  have hamount : amount ['0', '.', '0'] = 0 := by
    rw [amount_of_not_mem (by decide)]
    exact zero_mul _
  refine ⟨⟨⟨0, 0⟩, ?_, Decimal.isShortest_zero⟩, ?_, fun _ => by decide, fun front hf => ?_⟩
  · rw [hamount, Nat.cast_zero, zero_mul]
  · rw [hamount]
    exact iff_of_false (by decide) fun h => h.1 rfl
  · have hb : before 'e' ['0', '.', '0'] = ['0', '.'] ++ ['0'] := by decide
    rw [hb] at hf
    rw [← (List.append_inj' hf rfl).1]
    rfl

-- Where a float is finite it is spelled, and has a minus before it where its sign is set.
theorem floatText?_of_isFinite {bits : Nat} (h : Decimal.IsFinite bits) :
    ∃ t, floatText? bits =
        some (if bits / Nat.pow 2 63 % 2 = 1 then "-" ++ String.ofList t else String.ofList t) ∧
      Unsigned t ∧ Spells (bits % Nat.pow 2 63) t := by
  rw [floatText?, Decimal.ofBits_of_isFinite h]
  obtain hz | hn := Nat.eq_zero_or_pos (bits % Nat.pow 2 63)
  · have hm : Decimal.mantissa 0 = 0 := rfl
    refine ⟨['0', '.', '0'], ?_, unsigned_zero, hz ▸ spells_zero⟩
    rw [hz, hm]
    by_cases hnegative : bits / Nat.pow 2 63 % 2 = 1
    · rw [decide_eq_true hnegative, if_pos hnegative]
      rfl
    · rw [decide_eq_false hnegative, if_neg hnegative]
      rfl
  · have hm := Decimal.mantissa_pos hn
    obtain ⟨hs, hz⟩ := Decimal.shortest_isShortest hn
    refine ⟨scaledText (Decimal.shortest _ _), ?_,
      unsigned_scaledText (hs.digits_ne_zero hn), spells_scaledText hs hn hz⟩
    generalize Decimal.mantissa (bits % Nat.pow 2 63) = mantissa at hm
    obtain ⟨m, rfl⟩ := Nat.exists_eq_add_one.2 hm
    simp

theorem floatText?_of_not_isFinite {bits : Nat} (h : ¬Decimal.IsFinite bits) :
    floatText? bits = none := by
  rw [floatText?]
  obtain ⟨negative, hb⟩ | hb := Decimal.ofBits_of_not_isFinite h <;> rw [hb]

end Spelling

end ProbeReport.Log
