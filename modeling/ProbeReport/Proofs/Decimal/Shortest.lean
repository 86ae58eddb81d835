import Mathlib.Data.Nat.Digits.Lemmas
import ProbeReport.Proofs.Decimal.Binary

-- The fewest digits that are read as a float are found, and of all that are as few the nearest.
namespace ProbeReport.Decimal

theorem zpow_eq_div (b : ℚ) (e : Int) : b ^ e = b ^ e.toNat / b ^ (-e).toNat := by
  cases e with
  | ofNat n => simp
  | negSucc n => simp [zpow_negSucc, Int.neg_negSucc]

theorem cast_max_sub_min (a b : Nat) : ((max a b - min a b : ℕ) : ℚ) = |(a : ℚ) - b| := by
  obtain h | h := le_total a b
  · have hq : (a : ℚ) - b ≤ 0 := sub_nonpos.2 (by exact_mod_cast h)
    rw [max_eq_right h, min_eq_left h, Nat.cast_sub h, abs_of_nonpos hq, neg_sub]
  · have hq : (0 : ℚ) ≤ a - b := sub_nonneg.2 (by exact_mod_cast h)
    rw [max_eq_left h, min_eq_right h, Nat.cast_sub h, abs_of_nonneg hq]

theorem ten_zpow_pos (e : Int) : (0 : ℚ) < 10 ^ e := by positivity

-- A point of a grid of decimals.
def point (digits : Nat) (exponent : Int) : ℚ := digits * 10 ^ exponent

section Point

theorem point_eq_div (digits : Nat) (exponent : Int) :
    point digits exponent =
      (digits * Nat.pow 10 exponent.toNat : ℕ) / (Nat.pow 10 (-exponent).toNat : ℕ) := by
  rw [point, zpow_eq_div]
  push_cast [Nat.pow_eq]
  ring

theorem point_mono {d e : Nat} (h : d ≤ e) : point d exponent ≤ point e exponent := by
  have hde : (d : ℚ) ≤ e := by exact_mod_cast h
  exact mul_le_mul_of_nonneg_right hde (ten_zpow_pos exponent).le

theorem point_mul_pow (digits power : Nat) (exponent : Int) :
    point (digits * 10 ^ power) exponent = point digits (power + exponent) := by
  rw [point, point, zpow_add₀ (by norm_num), zpow_natCast]
  push_cast
  ring

theorem point_pow (power : Nat) (exponent : Int) :
    point (10 ^ power) exponent = 10 ^ ((power : Int) + exponent) := by
  rw [← Nat.one_mul (10 ^ power), point_mul_pow, point, Nat.cast_one, one_mul]

end Point

namespace Interval

variable {i : Interval}

def value (i : Interval) : ℚ := i.middle / i.denominator

def Contains (i : Interval) (q : ℚ) : Prop :=
  if i.closed then i.low / i.denominator ≤ q ∧ q ≤ i.high / i.denominator
  else i.low / i.denominator < q ∧ q < i.high / i.denominator

-- The number stands within its interval.
structure Proper (i : Interval) : Prop where
  positive : 0 < i.low
  below : i.low < i.middle
  above : i.middle < i.high
  denominator : 0 < i.denominator

section Containment

variable {p q r : ℚ}

theorem Contains.between (hp : i.Contains p) (hr : i.Contains r) (h : p ≤ q) (h' : q ≤ r) :
    i.Contains q := by
  unfold Contains at *
  split at hp
  · rename_i hc
    rw [if_pos hc] at hr ⊢
    exact ⟨hp.1.trans h, h'.trans hr.2⟩
  · rename_i hc
    rw [if_neg hc] at hr ⊢
    exact ⟨hp.1.trans_le h, h'.trans_lt hr.2⟩

theorem contains_of_lt (h : i.low / i.denominator < q) (h' : q < i.high / i.denominator) :
    i.Contains q := by
  unfold Contains
  split
  · exact ⟨h.le, h'.le⟩
  · exact ⟨h, h'⟩

theorem Contains.low_le (h : i.Contains q) : i.low / i.denominator ≤ q := by
  unfold Contains at h
  split at h
  · exact h.1
  · exact h.1.le

variable (hi : i.Proper)

include hi

theorem Proper.low_lt_value : i.low / i.denominator < i.value := by
  have hd : (0 : ℚ) < i.denominator := by exact_mod_cast hi.denominator
  have hl : (i.low : ℚ) < i.middle := by exact_mod_cast hi.below
  exact div_lt_div_of_pos_right hl hd

theorem Proper.value_lt_high : i.value < i.high / i.denominator := by
  have hd : (0 : ℚ) < i.denominator := by exact_mod_cast hi.denominator
  have hl : (i.middle : ℚ) < i.high := by exact_mod_cast hi.above
  exact div_lt_div_of_pos_right hl hd

theorem Proper.contains_value : i.Contains i.value :=
  contains_of_lt hi.low_lt_value hi.value_lt_high

theorem Proper.low_pos : (0 : ℚ) < i.low / i.denominator := by
  have hd : (0 : ℚ) < i.denominator := by exact_mod_cast hi.denominator
  have hl : (0 : ℚ) < i.low := by exact_mod_cast hi.positive
  exact div_pos hl hd

-- Without digits nothing but zero is written, which is not inside.
theorem Proper.digits_ne_zero {digits : Nat} {exponent : Int}
    (h : i.Contains (point digits exponent)) : digits ≠ 0 := by
  rintro rfl
  have hlow := hi.low_pos.trans_le h.low_le
  rw [point, Nat.cast_zero, zero_mul] at hlow
  exact lt_irrefl 0 hlow

end Containment

section Grid

variable {digits : Nat} {exponent : Int}

section Fractions

variable {n down : Nat}

-- Sides of an inequality between fractions are multiplied with each other's denominators.
theorem inside_iff (hi : i.Proper) (hd : 0 < down) :
    (if i.closed then
      decide (i.low * down ≤ n * i.denominator) && decide (n * i.denominator ≤ i.high * down)
      else decide (i.low * down < n * i.denominator) &&
        decide (n * i.denominator < i.high * down)) = true ↔ i.Contains ((n : ℚ) / down) := by
  have hpos : (0 : ℚ) < down := by exact_mod_cast hd
  have hden : (0 : ℚ) < i.denominator := by exact_mod_cast hi.denominator
  have hle (k : Nat) : k * down ≤ n * i.denominator ↔ (k : ℚ) / i.denominator ≤ n / down := by
    rw [div_le_div_iff₀ hden hpos]
    exact_mod_cast Iff.rfl
  have hge (k : Nat) : n * i.denominator ≤ k * down ↔ (n : ℚ) / down ≤ k / i.denominator := by
    rw [div_le_div_iff₀ hpos hden]
    exact_mod_cast Iff.rfl
  have hlt (k : Nat) : k * down < n * i.denominator ↔ (k : ℚ) / i.denominator < n / down := by
    rw [div_lt_div_iff₀ hden hpos]
    exact_mod_cast Iff.rfl
  have hgt (k : Nat) : n * i.denominator < k * down ↔ (n : ℚ) / down < k / i.denominator := by
    rw [div_lt_div_iff₀ hpos hden]
    exact_mod_cast Iff.rfl
  unfold Contains
  split <;> simp only [Bool.and_eq_true, decide_eq_true_eq, hle, hge, hlt, hgt]

theorem cast_distance (hi : i.Proper) (hd : 0 < down) :
    ((max (n * i.denominator) (i.middle * down) -
      min (n * i.denominator) (i.middle * down) : ℕ) : ℚ) =
      |(n : ℚ) / down - i.middle / i.denominator| * (down * i.denominator : ℕ) := by
  have hpos : (0 : ℚ) < down := by exact_mod_cast hd
  have hden : (0 : ℚ) < i.denominator := by exact_mod_cast hi.denominator
  have hunit : (0 : ℚ) < (down * i.denominator : ℕ) := by
    rw [Nat.cast_mul]
    exact mul_pos hpos hden
  rw [cast_max_sub_min, ← abs_of_pos hunit, ← abs_mul]
  congr 1
  push_cast
  field_simp

end Fractions

-- Distances on one grid are measured in one unit.
theorem distance?_cases (hi : i.Proper) (digits : Nat) (exponent : Int) :
    (∃ d, i.distance? digits exponent = some d ∧ i.Contains (point digits exponent) ∧
      (d : ℚ) = |point digits exponent - i.value| *
        (Nat.pow 10 (-exponent).toNat * i.denominator : ℕ)) ∨
    i.distance? digits exponent = none ∧ ¬i.Contains (point digits exponent) := by
  have hdown : 0 < Nat.pow 10 (-exponent).toNat := Nat.pow_pos (by decide)
  rw [distance?, point_eq_div, value]
  generalize digits * Nat.pow 10 exponent.toNat = n
  generalize Nat.pow 10 (-exponent).toNat = down at hdown ⊢
  rw [← cast_distance hi hdown, ← inside_iff hi hdown]
  by_cases h : (if i.closed then
      decide (i.low * down ≤ n * i.denominator) && decide (n * i.denominator ≤ i.high * down)
      else decide (i.low * down < n * i.denominator) &&
        decide (n * i.denominator < i.high * down)) = true
  · exact .inl ⟨_, if_pos h, h, rfl⟩
  · exact .inr ⟨if_neg h, h⟩

-- The number stands between two points of the grid.
structure Floor (i : Interval) (exponent : Int) (below : Nat) : Prop where
  le : point below exponent ≤ i.value
  lt : i.value < point (below + 1) exponent

theorem floor_below (hi : i.Proper) (exponent : Int) :
    i.Floor exponent (i.middle * Nat.pow 10 (-exponent).toNat /
      (i.denominator * Nat.pow 10 exponent.toNat)) := by
  have hup : 0 < Nat.pow 10 exponent.toNat := Nat.pow_pos (by decide)
  have hdown : 0 < Nat.pow 10 (-exponent).toNat := Nat.pow_pos (by decide)
  have hden : (0 : ℚ) < i.denominator := by exact_mod_cast hi.denominator
  have hpos : (0 : ℚ) < (Nat.pow 10 (-exponent).toNat : ℕ) := by exact_mod_cast hdown
  have hunit : 0 < i.denominator * Nat.pow 10 exponent.toNat := Nat.mul_pos hi.denominator hup
  constructor
  · have hle := Nat.div_mul_le_self (i.middle * Nat.pow 10 (-exponent).toNat)
      (i.denominator * Nat.pow 10 exponent.toNat)
    rw [point_eq_div, value, div_le_div_iff₀ hpos hden]
    norm_cast
    rwa [Nat.mul_assoc, Nat.mul_comm (Nat.pow 10 exponent.toNat)]
  · have hlt := Nat.lt_div_mul_add hunit (a := i.middle * Nat.pow 10 (-exponent).toNat)
    rw [← Nat.succ_mul] at hlt
    rw [point_eq_div, value, div_lt_div_iff₀ hden hpos]
    norm_cast
    rwa [Nat.mul_assoc, Nat.mul_comm (Nat.pow 10 exponent.toNat)]

section Neighbours

variable {below : Nat}

-- A point on either side is no nearer than the neighbour there, which is then inside as well.
theorem Floor.nearest (h : i.Floor exponent below) (hi : i.Proper)
    (hd : i.Contains (point digits exponent)) :
    ∃ d, (d = below ∨ d = below + 1) ∧ i.Contains (point d exponent) ∧
      |point d exponent - i.value| ≤ |point digits exponent - i.value| := by
  obtain hl | hg := Nat.lt_or_ge below digits
  · have hp : point (below + 1) exponent ≤ point digits exponent := point_mono hl
    refine ⟨below + 1, .inr rfl, hi.contains_value.between hd h.lt.le hp, ?_⟩
    rw [abs_of_pos (by linarith [h.lt]), abs_of_pos (by linarith [h.lt])]
    linarith
  · have hp : point digits exponent ≤ point below exponent := point_mono hg
    refine ⟨below, .inl rfl, hd.between hi.contains_value hp h.le, ?_⟩
    rw [abs_of_nonpos (by linarith [h.le]), abs_of_nonpos (by linarith [h.le])]
    linarith

-- What is found on a grid is inside, and as near as anything inside.
structure IsNearest (i : Interval) (exponent : Int) (digits : Nat) : Prop where
  contains : i.Contains (point digits exponent)
  nearest : ∀ d, i.Contains (point d exponent) →
    |point digits exponent - i.value| ≤ |point d exponent - i.value|

-- It is enough to be as near as the other neighbour.
theorem Floor.isNearest_below (h : i.Floor exponent below) (hi : i.Proper)
    (hc : i.Contains (point below exponent))
    (hn : i.Contains (point (below + 1) exponent) →
      |point below exponent - i.value| ≤ |point (below + 1) exponent - i.value|) :
    i.IsNearest exponent below := by
  refine ⟨hc, fun d hd => ?_⟩
  obtain ⟨neighbour, rfl | rfl, hin, hle⟩ := h.nearest hi hd
  · exact hle
  · exact (hn hin).trans hle

theorem Floor.isNearest_above (h : i.Floor exponent below) (hi : i.Proper)
    (hc : i.Contains (point (below + 1) exponent))
    (hn : i.Contains (point below exponent) →
      |point (below + 1) exponent - i.value| ≤ |point below exponent - i.value|) :
    i.IsNearest exponent (below + 1) := by
  refine ⟨hc, fun d hd => ?_⟩
  obtain ⟨neighbour, rfl | rfl, hin, hle⟩ := h.nearest hi hd
  · exact (hn hin).trans hle
  · exact hle

theorem onGrid?_spec (hi : i.Proper) (exponent : Int) :
    (∃ digits, i.onGrid? exponent = some digits ∧ i.IsNearest exponent digits) ∨
      i.onGrid? exponent = none ∧ ∀ digits, ¬i.Contains (point digits exponent) := by
  have hf := floor_below hi exponent
  rw [onGrid?]
  generalize i.middle * Nat.pow 10 (-exponent).toNat /
    (i.denominator * Nat.pow 10 exponent.toNat) = below at hf
  have hunit : (0 : ℚ) < (Nat.pow 10 (-exponent).toNat * i.denominator : ℕ) := by
    exact_mod_cast Nat.mul_pos (Nat.pow_pos (by decide)) hi.denominator
  obtain ⟨k, hk, hc, hd⟩ | ⟨hk, hc⟩ := distance?_cases hi below exponent <;>
    obtain ⟨k', hk', hc', hd'⟩ | ⟨hk', hc'⟩ := distance?_cases hi (below + 1) exponent <;>
    rw [hk, hk']
  · have hbelow (h : k ≤ k') : i.IsNearest exponent below := by
      rw [← Nat.cast_le (α := ℚ), hd, hd', mul_le_mul_iff_of_pos_right hunit] at h
      exact hf.isNearest_below hi hc fun _ => h
    have habove (h : k' ≤ k) : i.IsNearest exponent (below + 1) := by
      rw [← Nat.cast_le (α := ℚ), hd, hd', mul_le_mul_iff_of_pos_right hunit] at h
      exact hf.isNearest_above hi hc' fun _ => h
    refine .inl ?_
    dsimp only
    by_cases hlt : k < k'
    · exact ⟨below, if_pos hlt, hbelow hlt.le⟩
    · rw [if_neg hlt]
      by_cases hgt : k' < k
      · exact ⟨below + 1, if_pos hgt, habove hgt.le⟩
      · rw [if_neg hgt]
        split
        · exact ⟨below, rfl, hbelow (by omega)⟩
        · exact ⟨below + 1, rfl, habove (by omega)⟩
  · exact .inl ⟨below, rfl, hf.isNearest_below hi hc fun h => absurd h hc'⟩
  · exact .inl ⟨below + 1, rfl, hf.isNearest_above hi hc' fun h => absurd h hc⟩
  · refine .inr ⟨rfl, fun d h => ?_⟩
    obtain ⟨d, rfl | rfl, h, -⟩ := hf.nearest hi h
    · exact hc h
    · exact hc' h

end Neighbours

end Grid

section Magnitude

-- As many digits as a whole number has, so big it is.
theorem pow_length_bounds {count : Nat} (h : 0 < count) :
    10 ^ ((toString count).length - 1) ≤ count ∧ count < 10 ^ (toString count).length := by
  rw [← String.length_toList, Nat.toString_eq_ofList_toDigits, String.toList_ofList]
  have hpos : 0 < (Nat.toDigits 10 count).length := Nat.length_toDigits_pos
  refine ⟨?_, (Nat.length_toDigits_le_iff (by decide) hpos).1 (Nat.le_refl _)⟩
  by_contra hlt
  obtain hz | hz := Nat.eq_zero_or_pos ((Nat.toDigits 10 count).length - 1)
  · rw [hz] at hlt
    omega
  · have hle := (Nat.length_toDigits_le_iff (by decide) hz).2 (Nat.not_le.1 hlt)
    omega

-- With so many places moved before the point, the digits there tell the power of ten.
theorem zpow_length_bounds {v : ℚ} {count places : Nat} (hpos : 0 < count)
    (hlow : (count : ℚ) ≤ v * 10 ^ places) (hhigh : v * 10 ^ places < count + 1) :
    (10 : ℚ) ^ (((toString count).length : Int) - places - 1) ≤ v ∧
      v < 10 ^ (((toString count).length : Int) - places) := by
  obtain ⟨hl, hu⟩ := pow_length_bounds hpos
  have hlen : 0 < (toString count).length := by
    by_contra hz
    rw [Nat.eq_zero_of_not_pos hz] at hu
    omega
  generalize (toString count).length = length at hl hu hlen
  have hunit : (0 : ℚ) < 10 ^ places := by positivity
  constructor
  · have he : (length : Int) - places - 1 = ((length - 1 : ℕ) : Int) - places := by omega
    rw [he, zpow_sub₀ (by norm_num), zpow_natCast, zpow_natCast, div_le_iff₀ hunit]
    have hq : (10 : ℚ) ^ (length - 1) ≤ count := by exact_mod_cast hl
    exact hq.trans hlow
  · rw [zpow_sub₀ (by norm_num), zpow_natCast, zpow_natCast, lt_div_iff₀ hunit]
    have hq : (count : ℚ) + 1 ≤ 10 ^ length := by exact_mod_cast hu
    exact hhigh.trans_le hq

theorem magnitude_spec (hi : i.Proper) {places : Nat} (hp : places = 400)
    (h : 1 ≤ i.value * 10 ^ places) :
    10 ^ (i.magnitude - 1) ≤ i.value ∧ i.value < 10 ^ i.magnitude := by
  have hden : (0 : ℚ) < i.denominator := by exact_mod_cast hi.denominator
  have hmagnitude : i.magnitude = ((toString (i.middle * Nat.pow 10 places /
      i.denominator)).length : Int) - places := by
    have hplaces : (400 : Int) = places := by
      rw [hp]
      rfl
    rw [magnitude, ← hp, hplaces]
  generalize hc : i.middle * Nat.pow 10 places / i.denominator = count at hmagnitude
  have hlow : (count : ℚ) ≤ i.value * 10 ^ places := by
    have hle : count * i.denominator ≤ i.middle * Nat.pow 10 places :=
      hc ▸ Nat.div_mul_le_self _ _
    rw [value, div_mul_eq_mul_div, le_div_iff₀ hden]
    exact_mod_cast hle
  have hhigh : i.value * 10 ^ places < count + 1 := by
    have hlt : i.middle * Nat.pow 10 places < (count + 1) * i.denominator := by
      rw [Nat.succ_mul, ← hc]
      exact Nat.lt_div_mul_add hi.denominator
    rw [value, div_mul_eq_mul_div, div_lt_iff₀ hden]
    exact_mod_cast hlt
  have hpos : 0 < count := by
    have hq : (0 : ℚ) < count := by linarith
    exact_mod_cast hq
  rw [hmagnitude]
  exact zpow_length_bounds hpos hlow hhigh

end Magnitude

section Coarse

variable {magnitude exponent : Int} {digits k : Nat}

-- Numbers with few digits lie on a coarse grid, or below the leading power of ten, which does.
theorem exists_coarse (hi : i.Proper) (hl : 10 ^ (magnitude - 1) ≤ i.value) (hk : 0 < k)
    (hd : digits < 10 ^ k) (hc : i.Contains (point digits exponent)) :
    ∃ d, i.Contains (point d (magnitude - k)) ∧
      |point d (magnitude - k) - i.value| ≤ |point digits exponent - i.value| := by
  by_cases he : magnitude - k ≤ exponent
  · have hp : point (digits * 10 ^ (exponent - (magnitude - k)).toNat) (magnitude - k) =
        point digits exponent := by
      rw [point_mul_pow]
      congr 1
      omega
    exact ⟨_, hp ▸ hc, le_of_eq (by rw [hp])⟩
  · have hlead : point (10 ^ (k - 1)) (magnitude - k) = 10 ^ (magnitude - 1) := by
      rw [point_pow]
      congr 1
      omega
    have hbelow : point digits exponent ≤ 10 ^ (magnitude - 1) := by
      have hmono : point digits exponent ≤ point (10 ^ k) exponent := point_mono hd.le
      refine hmono.trans ?_
      rw [point_pow]
      exact zpow_le_zpow_right₀ (by norm_num) (by omega)
    refine ⟨10 ^ (k - 1), ?_, ?_⟩
    · rw [hlead]
      exact hc.between hi.contains_value hbelow hl
    · rw [hlead, abs_of_nonpos (by linarith), abs_of_nonpos (by linarith)]
      linarith

-- The point above all others with as many digits is a power of ten.
theorem IsNearest.le_pow (h : i.IsNearest (magnitude - k) digits) (hi : i.Proper)
    (hu : i.value < 10 ^ magnitude) : digits ≤ 10 ^ k := by
  have hlead : point (10 ^ k) (magnitude - k) = 10 ^ magnitude := by
    rw [point_pow]
    congr 1
    omega
  by_contra hlt
  have hstep : point (10 ^ k) (magnitude - k) < point digits (magnitude - k) := by
    have hq : ((10 ^ k : ℕ) : ℚ) < digits := by exact_mod_cast Nat.not_le.1 hlt
    exact mul_lt_mul_of_pos_right hq (ten_zpow_pos _)
  rw [hlead] at hstep
  have hc : i.Contains (point (10 ^ k) (magnitude - k)) := by
    rw [hlead]
    exact hi.contains_value.between h.contains hu.le hstep.le
  have hn := h.nearest _ hc
  rw [hlead, abs_of_pos (by linarith), abs_of_pos (by linarith)] at hn
  linarith

end Coarse

section Around

variable {m n : Nat} {e : Int}

theorem around_proper (hm : 0 < m) (e : Int) : (around m e).Proper := by
  have hunit : 0 < Nat.pow 2 (e - 2).toNat := Nat.pow_pos (by decide)
  constructor
  · apply Nat.mul_pos _ hunit
    split <;> omega
  · apply Nat.mul_lt_mul_of_pos_right _ hunit
    split <;> omega
  · exact Nat.mul_lt_mul_of_pos_right (by omega) hunit
  · exact Nat.pow_pos (by decide)

-- All is counted in quarters of the last place.
theorem quarters_eq (k : Nat) (e : Int) :
    ((k * Nat.pow 2 (e - 2).toNat : ℕ) : ℚ) / (Nat.pow 2 (2 - e).toNat : ℕ) = k * 2 ^ e / 4 := by
  have hpow : (2 : ℚ) ^ e = 2 ^ (e - 2) * 4 := by
    have h4 : (4 : ℚ) = 2 ^ (2 : Int) := by norm_num
    rw [h4, ← zpow_add₀ two_ne_zero, Int.sub_add_cancel]
  rw [hpow, zpow_eq_div, Int.neg_sub]
  push_cast [Nat.pow_eq]
  ring

theorem value_around (n : Nat) : (around (mantissa n) (scale n)).value = worth n := by
  have h := quarters_eq (4 * mantissa n) (scale n)
  rw [worth]
  refine h.trans ?_
  push_cast
  ring

theorem high_around (n : Nat) :
    ((around (mantissa n) (scale n)).high : ℚ) / (around (mantissa n) (scale n)).denominator =
      (worth n + worth (n + 1)) / 2 := by
  have h := quarters_eq (4 * mantissa n + 2) (scale n)
  rw [worth_succ, worth]
  refine h.trans ?_
  push_cast
  ring

theorem low_around (hn : 0 < n) :
    ((around (mantissa n) (scale n)).low : ℚ) / (around (mantissa n) (scale n)).denominator =
      (worth (n - 1) + worth n) / 2 := by
  have hworth := worth_succ (n - 1)
  have hscale := scale_pred hn
  rw [Nat.sub_add_cancel hn] at hworth
  by_cases hc : mantissa n = Nat.pow 2 52 ∧ scale n ≠ -1074
  · have h := quarters_eq (4 * mantissa n - 1) (scale n)
    have hm : 1 ≤ 4 * mantissa n := by
      rw [hc.1]
      decide
    rw [if_pos hc] at hscale
    rw [hscale, zpow_sub_one₀ two_ne_zero] at hworth
    rw [Interval.around]
    simp only [if_pos hc]
    rw [h, Nat.cast_sub hm, eq_sub_of_add_eq hworth.symm, worth]
    push_cast
    ring
  · have h := quarters_eq (4 * mantissa n - 2) (scale n)
    have hm : 2 ≤ 4 * mantissa n := by
      have h := mantissa_pos hn
      omega
    rw [if_neg hc] at hscale
    rw [hscale] at hworth
    rw [Interval.around]
    simp only [if_neg hc]
    rw [h, Nat.cast_sub hm, eq_sub_of_add_eq hworth.symm, worth]
    push_cast
    ring

-- What rounds to a float is what is read as it.
theorem contains_around_iff (hn : 0 < n) {q : ℚ} :
    (around (mantissa n) (scale n)).Contains q ↔ ReadsAs q n := by
  have heven : n % 2 = mantissa n % 2 := by
    have hpow : Nat.pow 2 52 = 4503599627370496 := by norm_num
    unfold mantissa fractionOf
    rw [hpow]
    split <;> omega
  have hclosed : (around (mantissa n) (scale n)).closed = decide (mantissa n % 2 = 0) := rfl
  unfold Contains
  rw [readsAs_iff hn, low_around hn, high_around, hclosed, heven]
  by_cases hm : mantissa n % 2 = 0
  · simp only [hm, decide_true, if_true, and_true]
    constructor
    · rintro ⟨hl, hh⟩
      exact ⟨(show worth (n - 1) + worth n ≤ 2 * q by linarith).lt_or_eq,
        (show 2 * q ≤ worth n + worth (n + 1) by linarith).lt_or_eq.imp_right Eq.symm⟩
    · rintro ⟨hl, hh⟩
      constructor
      · obtain hl | hl := hl <;> linarith
      · obtain hh | hh := hh <;> linarith
  · simp only [hm, decide_false, Bool.false_eq_true, if_false, and_false, or_false]
    constructor
    · rintro ⟨hl, hh⟩
      constructor <;> linarith
    · rintro ⟨hl, hh⟩
      constructor <;> linarith

-- The floats next to a float lie further apart than numbers with seventeen digits.
theorem ten_zpow_lt_gap (hn : 0 < n) {magnitude : Int}
    (h : (10 : ℚ) ^ (magnitude - 1) ≤ worth n) :
    (10 : ℚ) ^ (magnitude - 17) < (worth (n + 1) - worth (n - 1)) / 2 := by
  have hworth := worth_succ (n - 1)
  have hscale := scale_pred hn
  rw [Nat.sub_add_cancel hn] at hworth
  have hstep : (10 : ℚ) ^ (magnitude - 17) * 10 ^ 16 = 10 ^ (magnitude - 1) := by
    rw [← zpow_natCast, ← zpow_add₀ (by norm_num)]
    congr 1
    push_cast
    ring
  have hunit := two_zpow_pos (scale n)
  have hlt : (mantissa n : ℚ) < 2 ^ 53 := by exact_mod_cast mantissa_lt n
  have hsucc : worth (n + 1) = worth n + 2 ^ scale n := worth_succ n
  have hvalue : worth n = mantissa n * 2 ^ scale n := rfl
  by_cases hc : mantissa n = Nat.pow 2 52 ∧ scale n ≠ -1074
  · have hm : (mantissa n : ℚ) = 2 ^ 52 := by
      rw [hc.1]
      norm_num
    rw [if_pos hc] at hscale
    rw [hscale, zpow_sub_one₀ two_ne_zero] at hworth
    rw [hm] at hvalue
    linarith
  · rw [if_neg hc] at hscale
    rw [hscale] at hworth
    have hbound : worth n < 2 ^ 53 * 2 ^ scale n := by
      rw [hvalue]
      exact mul_lt_mul_of_pos_right hlt hunit
    linarith

-- So seventeen digits are always enough.
theorem exists_contains_seventeen (hn : 0 < n) {magnitude : Int}
    (h : (10 : ℚ) ^ (magnitude - 1) ≤ worth n) :
    ∃ digits, (around (mantissa n) (scale n)).Contains (point digits (magnitude - 17)) := by
  have hproper := around_proper (mantissa_pos hn) (scale n)
  have hfloor := floor_below hproper (magnitude - 17)
  generalize (around (mantissa n) (scale n)).middle * Nat.pow 10 (-(magnitude - 17)).toNat /
    ((around (mantissa n) (scale n)).denominator * Nat.pow 10 (magnitude - 17).toNat) =
      below at hfloor
  have hstep : point (below + 1) (magnitude - 17) =
      point below (magnitude - 17) + 10 ^ (magnitude - 17) := by
    rw [point, point]
    push_cast
    ring
  have hwide := ten_zpow_lt_gap hn h
  have hlow := hproper.low_lt_value
  have hhigh := hproper.value_lt_high
  rw [low_around hn] at hlow
  rw [high_around] at hhigh
  by_cases hin : (worth (n - 1) + worth n) / 2 < point below (magnitude - 17)
  · refine ⟨below, contains_of_lt ?_ ?_⟩
    · rw [low_around hn]
      exact hin
    · rw [high_around]
      exact hfloor.le.trans_lt hhigh
  · refine ⟨below + 1, contains_of_lt ?_ ?_⟩
    · rw [low_around hn]
      exact hlow.trans hfloor.lt
    · rw [high_around, hstep]
      linarith

end Around

end Interval

section Search

variable {α : Type} {s : Scaled}

-- What is found first is found where nothing was before.
theorem exists_of_findSome?_range {f : Nat → Option α} {count : Nat} {b : α}
    (h : (List.range count).findSome? f = some b) :
    ∃ n < count, f n = some b ∧ ∀ m < n, f m = none := by
  induction count with
  | zero => cases h
  | succ count ih =>
      rw [List.range_succ, List.findSome?_append, Option.or_eq_some_iff] at h
      obtain h | ⟨hn, h⟩ := h
      · obtain ⟨n, hn, hf⟩ := ih h
        exact ⟨n, Nat.lt_succ_of_lt hn, hf⟩
      · rw [List.findSome?_eq_none_iff] at hn
        refine ⟨count, Nat.lt_succ_self count, by simpa using h, fun m hm => ?_⟩
        exact hn m (List.mem_range.2 hm)

theorem point_dropZeros (fuel : Nat) (s : Scaled) :
    point (dropZeros fuel s).digits (dropZeros fuel s).exponent =
      point s.digits s.exponent := by
  induction fuel generalizing s with
  | zero => rfl
  | succ fuel ih =>
      rw [dropZeros]
      split
      · rename_i h
        have hd : (s.digits : ℚ) = (s.digits / 10 : ℕ) * 10 := by
          exact_mod_cast (Nat.div_mul_cancel (Nat.dvd_of_mod_eq_zero h.2)).symm
        rw [ih, point, point, hd, zpow_add_one₀ (by norm_num)]
        ring
      · rfl

theorem digits_dropZeros_le (fuel : Nat) (s : Scaled) :
    (dropZeros fuel s).digits ≤ s.digits := by
  induction fuel generalizing s with
  | zero => exact Nat.le_refl _
  | succ fuel ih =>
      rw [dropZeros]
      split
      · exact (ih _).trans (Nat.div_le_self _ _)
      · exact Nat.le_refl _

-- With enough fuel no zero is left at the end.
theorem mod_dropZeros {fuel : Nat} (hs : s.digits ≠ 0) (h : s.digits < 10 ^ fuel) :
    (dropZeros fuel s).digits % 10 ≠ 0 := by
  induction fuel generalizing s with
  | zero => omega
  | succ fuel ih =>
      rw [dropZeros]
      split
      · rename_i hz
        rw [pow_succ] at h
        exact ih (by dsimp only; omega) (Nat.div_lt_of_lt_mul (by rwa [Nat.mul_comm]))
      · rename_i hz
        exact fun hm => hz ⟨hs, hm⟩

-- A power of ten keeps one digit.
theorem digits_dropZeros_pow {fuel power : Nat} (h : power ≤ fuel) (exponent : Int) :
    (dropZeros fuel ⟨10 ^ power, exponent⟩).digits = 1 := by
  induction power generalizing fuel exponent with
  | zero => cases fuel <;> rfl
  | succ power ih =>
      obtain ⟨fuel, rfl⟩ := Nat.exists_eq_add_one.2 (Nat.lt_of_lt_of_le (Nat.succ_pos power) h)
      have hz : (10 : ℕ) ^ (power + 1) ≠ 0 ∧ 10 ^ (power + 1) % 10 = 0 :=
        ⟨pow_ne_zero _ (by decide), by rw [pow_succ, Nat.mul_mod_left]⟩
      rw [dropZeros, if_pos hz, pow_succ, Nat.mul_div_cancel _ (by decide)]
      exact ih (Nat.le_of_succ_le_succ h) _

end Search

-- What is asked of the digits for a float: that they are read as it, that there are none fewer, and
-- that of those that are no more none is nearer.
structure IsShortest (n : Nat) (s : Scaled) : Prop where
  reads : ReadsAs (s.digits * 10 ^ s.exponent) n
  fewest : ∀ (k digits : Nat) (exponent : Int), digits < 10 ^ k →
    ReadsAs (digits * 10 ^ exponent) n → s.digits < 10 ^ k
  nearest : ∀ (digits : Nat) (exponent : Int), (∀ k, s.digits < 10 ^ k → digits < 10 ^ k) →
    ReadsAs (digits * 10 ^ exponent) n →
      |s.digits * 10 ^ s.exponent - worth n| ≤ |digits * 10 ^ exponent - worth n|

section Shortest

variable {n : Nat}

-- Eight is less than ten.
theorem one_le_zpow_mul_pow (k : Nat) : 1 ≤ (2 : ℚ) ^ (-3 * (k : Int)) * 10 ^ k := by
  rw [zpow_mul, zpow_natCast, ← mul_pow]
  exact one_le_pow₀ (by norm_num)

-- Every float is far from the smallest numbers that are counted with.
theorem one_le_worth_mul (hn : 0 < n) {places : Nat} (hp : places = 400) :
    1 ≤ worth n * 10 ^ places := by
  have hm : (1 : ℚ) ≤ mantissa n := by exact_mod_cast mantissa_pos hn
  have hs : (-1074 : Int) ≤ scale n := by
    unfold scale
    split <;> omega
  have hunit : (2 : ℚ) ^ (-1074 : Int) ≤ worth n := by
    have hle : (2 : ℚ) ^ (-1074 : Int) ≤ 2 ^ scale n := zpow_le_zpow_right₀ (by norm_num) hs
    exact hle.trans (le_mul_of_one_le_left (two_zpow_pos _).le hm)
  have hten : (10 : ℚ) ^ 358 ≤ 10 ^ places := pow_le_pow_right₀ (by norm_num) (by omega)
  calc
    1 ≤ (2 : ℚ) ^ (-3 * ((358 : ℕ) : Int)) * 10 ^ 358 := one_le_zpow_mul_pow 358
    _ = 2 ^ (-1074 : Int) * 10 ^ 358 := rfl
    _ ≤ worth n * 10 ^ 358 := mul_le_mul_of_nonneg_right hunit (by positivity)
    _ ≤ worth n * 10 ^ places := mul_le_mul_of_nonneg_left hten (worth_pos hn).le

-- The search ends on the coarsest grid that has anything inside.
theorem exists_shortest_eq (hn : 0 < n) {magnitude : Int}
    (hm : (Interval.around (mantissa n) (scale n)).magnitude = magnitude)
    (hl : 10 ^ (magnitude - 1) ≤ worth n) :
    ∃ (k digits : Nat), 0 < k ∧ k ≤ 17 ∧
      (Interval.around (mantissa n) (scale n)).IsNearest (magnitude - k) digits ∧
      (∀ j, 0 < j → j < k →
        ∀ d, ¬(Interval.around (mantissa n) (scale n)).Contains (point d (magnitude - j))) ∧
      shortest (mantissa n) (scale n) = dropZeros 20 ⟨digits, magnitude - k⟩ := by
  have hi := Interval.around_proper (mantissa_pos hn) (scale n)
  obtain ⟨far, hfar⟩ := Interval.exists_contains_seventeen hn hl
  rw [shortest]
  simp only [List.findSome?_map, hm]
  have hexponent (j : Nat) : magnitude - Int.ofNat j - 1 = magnitude - ((j + 1 : ℕ) : Int) := by
    push_cast
    exact Int.sub_sub _ _ _
  generalize hr : List.findSome? _ _ = found
  cases found with
  | none =>
      rw [List.findSome?_eq_none_iff] at hr
      have hlast := hr 16 (by decide)
      rw [Function.comp_apply, hexponent, Option.map_eq_none_iff] at hlast
      obtain ⟨d, hd, -⟩ | ⟨-, hno⟩ := Interval.onGrid?_spec hi (magnitude - 17)
      · exact absurd (hlast.symm.trans hd) (Option.some_ne_none d).symm
      · exact absurd hfar (hno far)
  | some s =>
      obtain ⟨j, hj, hs, hbefore⟩ := exists_of_findSome?_range hr
      rw [Function.comp_apply, hexponent] at hs
      obtain ⟨digits, hd, rfl⟩ := Option.map_eq_some_iff.1 hs
      refine ⟨j + 1, digits, Nat.succ_pos j, hj, ?_, fun k hk hlt d hc => ?_, rfl⟩
      · obtain ⟨d, he, hnear⟩ | ⟨hno, -⟩ := Interval.onGrid?_spec hi (magnitude - (j + 1 : ℕ))
        · rw [hd, Option.some.injEq] at he
          exact he ▸ hnear
        · rw [hd] at hno
          cases hno
      · have hnone := hbefore (k - 1) (by omega)
        rw [Function.comp_apply, hexponent, Nat.sub_add_cancel hk, Option.map_eq_none_iff] at hnone
        obtain ⟨e, he, -⟩ | ⟨-, hno⟩ := Interval.onGrid?_spec hi (magnitude - k)
        · rw [hnone] at he
          cases he
        · exact hno d hc

theorem IsShortest.digits_ne_zero {s : Scaled} (h : IsShortest n s) (hn : 0 < n) :
    s.digits ≠ 0 := by
  intro hz
  have hread := h.reads 0 hn.ne
  rw [hz, Nat.cast_zero, zero_mul, worth_zero, zero_sub, abs_neg, abs_of_pos (worth_pos hn),
    sub_zero, abs_zero] at hread
  obtain hlt | ⟨he, -⟩ := hread
  · exact absurd hlt (worth_pos hn).le.not_gt
  · exact (worth_pos hn).ne' he

theorem isShortest_zero : IsShortest 0 ⟨0, 0⟩ := by
  refine ⟨?_, fun k d e hd _ => Nat.pow_pos (by decide), fun d e _ _ => ?_⟩
  · rw [Nat.cast_zero, zero_mul]
    exact readsAs_zero
  · rw [Nat.cast_zero, zero_mul, worth_zero, sub_zero, abs_zero]
    exact abs_nonneg _

theorem shortest_isShortest (hn : 0 < n) :
    IsShortest n (shortest (mantissa n) (scale n)) ∧
      (shortest (mantissa n) (scale n)).digits % 10 ≠ 0 := by
  have hi := Interval.around_proper (mantissa_pos hn) (scale n)
  have hvalue := Interval.value_around n
  obtain ⟨hl, hu⟩ := Interval.magnitude_spec hi rfl (hvalue ▸ one_le_worth_mul hn rfl)
  generalize hm : (Interval.around (mantissa n) (scale n)).magnitude = magnitude at hl hu
  rw [hvalue] at hl
  obtain ⟨k, digits, hk, hk17, hd, hbefore, hs⟩ := exists_shortest_eq hn hm hl
  have hpoint := point_dropZeros 20 ⟨digits, magnitude - k⟩
  have hless : (dropZeros 20 ⟨digits, magnitude - k⟩).digits < 10 ^ k := by
    obtain he | hlt := (hd.le_pow hi hu).eq_or_lt
    · rw [he, digits_dropZeros_pow (by omega)]
      exact Nat.one_lt_pow (by omega) (by decide)
    · exact (digits_dropZeros_le 20 ⟨digits, magnitude - k⟩).trans_lt hlt
  have hnonzero := hi.digits_ne_zero hd.contains
  have hfuel : digits < 10 ^ 20 := by
    have hpow : 10 ^ k ≤ 10 ^ 17 := Nat.pow_le_pow_right (by decide) hk17
    exact ((hd.le_pow hi hu).trans hpow).trans_lt (by decide)
  rw [hs]
  rw [point] at hpoint
  refine ⟨⟨?_, ?_, ?_⟩, mod_dropZeros hnonzero hfuel⟩
  · rw [hpoint, ← Interval.contains_around_iff hn]
    exact hd.contains
  · intro j d e hde hread
    rw [← Interval.contains_around_iff hn] at hread
    obtain hkj | hjk := Nat.lt_or_ge j k |>.symm
    · exact hless.trans_le (Nat.pow_le_pow_right (by decide) hkj)
    · have hj : 0 < j := by
        obtain rfl | hj := Nat.eq_zero_or_pos j
        · exact absurd (Nat.lt_one_iff.1 hde) (hi.digits_ne_zero hread)
        · exact hj
      obtain ⟨c, hc, -⟩ := Interval.exists_coarse hi (hvalue ▸ hl) hj hde hread
      exact absurd hc (hbefore j hj hjk c)
  · intro d e hde hread
    rw [← Interval.contains_around_iff hn] at hread
    rw [hpoint, ← hvalue]
    obtain ⟨c, hc, hle⟩ := Interval.exists_coarse hi (hvalue ▸ hl) hk (hde k hless) hread
    exact (hd.nearest c hc).trans hle

end Shortest

end ProbeReport.Decimal
