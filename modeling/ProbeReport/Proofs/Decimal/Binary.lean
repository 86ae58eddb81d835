import Mathlib.Algebra.Order.Field.Power
import Mathlib.Data.Rat.Cast.Order
import Mathlib.Order.Monotone.Basic
import Mathlib.Tactic.FieldSimp
import Mathlib.Tactic.Linarith
import Mathlib.Tactic.LinearCombination
import Mathlib.Tactic.Positivity
import Mathlib.Tactic.Ring
import ProbeReport.Decimal.Shortest

-- What bits stand for, and which numbers are read as them. Floats are counted upwards from zero,
-- which is to leave out their signs.
namespace ProbeReport.Decimal

def fractionOf (n : Nat) : Nat := n % Nat.pow 2 52

def exponentOf (n : Nat) : Nat := n / Nat.pow 2 52

def mantissa (n : Nat) : Nat :=
  if exponentOf n = 0 then fractionOf n else Nat.pow 2 52 + fractionOf n

-- The smallest floats share the exponent of those after them.
def scale (n : Nat) : Int := if exponentOf n = 0 then -1074 else (exponentOf n : Int) - 1075

-- What a float is worth. One beyond the last finite float takes part, since numbers that are as
-- near to it are too big.
def worth (n : Nat) : ℚ := mantissa n * 2 ^ scale n

-- A number is read as the float that is nearest, and as the even one of two that are equally near.
def ReadsAs (q : ℚ) (n : Nat) : Prop :=
  ∀ m ≠ n, |q - worth n| < |q - worth m| ∨ |q - worth n| = |q - worth m| ∧ n % 2 = 0

section Worth

theorem two_zpow_pos (e : Int) : (0 : ℚ) < 2 ^ e := by positivity

-- Where a fraction is full the next float has the next exponent, and half the mantissa.
theorem worth_succ (n : Nat) : worth (n + 1) = worth n + 2 ^ scale n := by
  have hpow : Nat.pow 2 52 = 4503599627370496 := by norm_num
  have hnext : (mantissa (n + 1) = mantissa n + 1 ∧ scale (n + 1) = scale n) ∨
      (2 * mantissa (n + 1) = mantissa n + 1 ∧ scale (n + 1) = scale n + 1) := by
    simp only [mantissa, scale, exponentOf, fractionOf, hpow]
    by_cases hf : n % 4503599627370496 + 1 = 4503599627370496
    · have hd : (n + 1) / 4503599627370496 = n / 4503599627370496 + 1 := by omega
      have hm : (n + 1) % 4503599627370496 = 0 := by omega
      rw [hd, hm]
      by_cases he : n / 4503599627370496 = 0
      · rw [he, Nat.zero_add, if_pos rfl, if_pos rfl, if_neg one_ne_zero, if_neg one_ne_zero]
        omega
      · rw [if_neg he, if_neg he, if_neg (Nat.succ_ne_zero _), if_neg (Nat.succ_ne_zero _)]
        omega
    · have hd : (n + 1) / 4503599627370496 = n / 4503599627370496 := by omega
      have hm : (n + 1) % 4503599627370496 = n % 4503599627370496 + 1 := by omega
      rw [hd, hm]
      split <;> omega
  have hs := two_zpow_pos (scale n)
  unfold worth
  obtain ⟨hm, he⟩ | ⟨hm, he⟩ := hnext
  · rw [hm, he]
    push_cast
    ring
  · have hm : (2 : ℚ) * mantissa (n + 1) = mantissa n + 1 := by exact_mod_cast hm
    rw [he, zpow_add₀ two_ne_zero, zpow_one]
    linear_combination 2 ^ scale n * hm

-- Below a power of two floats lie half as far apart.
theorem scale_pred {n : Nat} (hn : 0 < n) :
    scale (n - 1) = if mantissa n = Nat.pow 2 52 ∧ scale n ≠ -1074 then scale n - 1
      else scale n := by
  have hpow : Nat.pow 2 52 = 4503599627370496 := by norm_num
  simp only [mantissa, scale, exponentOf, fractionOf, hpow]
  obtain hf | hf := Nat.eq_zero_or_pos (n % 4503599627370496)
  · have hd : (n - 1) / 4503599627370496 + 1 = n / 4503599627370496 := by omega
    rw [hf, ← hd, if_neg (Nat.succ_ne_zero _), if_neg (Nat.succ_ne_zero _)]
    split <;> split <;> omega
  · have hd : (n - 1) / 4503599627370496 = n / 4503599627370496 := by omega
    rw [hd]
    split <;> split <;> omega

theorem worth_strictMono : StrictMono worth :=
  strictMono_nat_of_lt_succ fun n => by
    rw [worth_succ]
    linarith [two_zpow_pos (scale n)]

theorem worth_zero : worth 0 = 0 := by
  have hm : mantissa 0 = 0 := rfl
  rw [worth, hm, Nat.cast_zero, zero_mul]

theorem worth_pos {n : Nat} (hn : 0 < n) : 0 < worth n := by
  rw [← worth_zero]
  exact worth_strictMono hn

theorem mantissa_lt (n : Nat) : mantissa n < Nat.pow 2 53 := by
  have hpow : Nat.pow 2 52 = 4503599627370496 := by norm_num
  have hpow' : Nat.pow 2 53 = 9007199254740992 := by norm_num
  unfold mantissa fractionOf
  rw [hpow, hpow']
  split <;> omega

theorem mantissa_pos {n : Nat} (hn : 0 < n) : 0 < mantissa n := by
  have h := worth_pos hn
  rw [worth, mul_pos_iff_of_pos_right (two_zpow_pos _)] at h
  exact_mod_cast h

theorem readsAs_zero : ReadsAs 0 0 := by
  intro m hm
  have hp := worth_pos (Nat.pos_of_ne_zero hm)
  refine .inl ?_
  rw [worth_zero, sub_zero, abs_zero, zero_sub, abs_neg, abs_of_pos hp]
  exact hp

end Worth

section Bits

variable {bits : Nat}

theorem fractionOf_mod (bits : Nat) : fractionOf (bits % Nat.pow 2 63) = bits % Nat.pow 2 52 := by
  have hpow : Nat.pow 2 63 = Nat.pow 2 52 * Nat.pow 2 11 := by norm_num
  rw [fractionOf, hpow, Nat.mod_mul_right_mod]

theorem exponentOf_mod (bits : Nat) :
    exponentOf (bits % Nat.pow 2 63) = bits / Nat.pow 2 52 % Nat.pow 2 11 := by
  have hpow : Nat.pow 2 63 = Nat.pow 2 52 * Nat.pow 2 11 := by norm_num
  rw [exponentOf, hpow, Nat.mod_mul_right_div_self]

-- Bits that stand for a number. Those of infinities and of what is no number at all have all
-- bits of the exponent set.
def IsFinite (bits : Nat) : Prop := exponentOf (bits % Nat.pow 2 63) ≠ 2047

theorem ofBits_of_isFinite (h : IsFinite bits) :
    Binary.ofBits bits = .finite (bits / Nat.pow 2 63 % 2 = 1) (mantissa (bits % Nat.pow 2 63))
      (scale (bits % Nat.pow 2 63)) := by
  rw [IsFinite] at h
  rw [Binary.ofBits, ← fractionOf_mod, ← exponentOf_mod, mantissa, scale]
  rw [if_neg h]
  split <;> rfl

theorem ofBits_of_not_isFinite (h : ¬IsFinite bits) :
    (∃ negative, Binary.ofBits bits = .infinite negative) ∨ Binary.ofBits bits = .notANumber := by
  rw [IsFinite, not_not, exponentOf_mod] at h
  rw [Binary.ofBits]
  rw [if_pos h]
  split
  · exact .inl ⟨_, rfl⟩
  · exact .inr rfl

end Bits

section Nearest

variable {q a b : ℚ} {n : Nat}

-- Of two numbers the nearer is on the same side of the middle.
theorem nearer_iff (h : a < b) :
    (|q - b| < |q - a| ↔ a + b < 2 * q) ∧ (|q - a| < |q - b| ↔ 2 * q < a + b) ∧
      (|q - b| = |q - a| ↔ a + b = 2 * q) := by
  obtain ⟨hb, hq⟩ | ⟨hb, hq⟩ := abs_cases (q - b) <;>
    obtain ⟨ha, hp⟩ | ⟨ha, hp⟩ := abs_cases (q - a) <;> rw [ha, hb]
  all_goals
    refine ⟨⟨?_, ?_⟩, ⟨?_, ?_⟩, ?_, ?_⟩
    all_goals
      intro _
      linarith

-- It is enough to look at the neighbours.
theorem readsAs_iff (hn : 0 < n) :
    ReadsAs q n ↔
      (worth (n - 1) + worth n < 2 * q ∨ worth (n - 1) + worth n = 2 * q ∧ n % 2 = 0) ∧
      (2 * q < worth n + worth (n + 1) ∨ worth n + worth (n + 1) = 2 * q ∧ n % 2 = 0) := by
  have hbelow : worth (n - 1) < worth n := worth_strictMono (by omega)
  have habove : worth n < worth (n + 1) := worth_strictMono (by omega)
  constructor
  · intro h
    have hl := h (n - 1) (by omega)
    have hu := h (n + 1) (by omega)
    rw [(nearer_iff hbelow).1, (nearer_iff hbelow).2.2] at hl
    rw [(nearer_iff habove).2.1, eq_comm, (nearer_iff habove).2.2] at hu
    exact ⟨hl, hu⟩
  · rintro ⟨hl, hu⟩ m hm
    obtain hlt | hgt := Nat.lt_or_gt_of_ne hm
    · have hle : worth m ≤ worth (n - 1) := worth_strictMono.monotone (by omega)
      have hmn := worth_strictMono hlt
      rw [(nearer_iff hmn).1, (nearer_iff hmn).2.2]
      obtain hl | ⟨hl, he⟩ := hl
      · exact .inl (by linarith)
      · obtain heq | hlt := hle.eq_or_lt
        · exact .inr ⟨by linarith, he⟩
        · exact .inl (by linarith)
    · have hle : worth (n + 1) ≤ worth m := worth_strictMono.monotone (by omega)
      have hnm := worth_strictMono hgt
      rw [(nearer_iff hnm).2.1, eq_comm, (nearer_iff hnm).2.2]
      obtain hu | ⟨hu, he⟩ := hu
      · exact .inl (by linarith)
      · obtain heq | hlt := hle.eq_or_lt
        · exact .inr ⟨by linarith, he⟩
        · exact .inl (by linarith)

end Nearest

end ProbeReport.Decimal
