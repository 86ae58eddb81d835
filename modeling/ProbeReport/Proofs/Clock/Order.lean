import Mathlib.Data.Nat.Basic
import ProbeReport.Proofs.Clock.Stamp

-- Time stamps stand in the order of time.
namespace ProbeReport

open Calendar Text

namespace Moment

-- Dates come first, then the time of the day.
def Before (m k : Moment) : Prop :=
  m.date.Before k.date ∨ m.date = k.date ∧
    (m.hour < k.hour ∨ m.hour = k.hour ∧
      (m.minute < k.minute ∨ m.minute = k.minute ∧
        (m.second < k.second ∨ m.second = k.second ∧ m.milli < k.milli)))

-- Four digits are enough up to there.
theorem wide_eq {wide year : Nat} {t : List Char} (hw : 4 ≤ wide)
    (hz : wide = 4 ∨ t.head? ≠ some '0') (h : Figures wide t year) (hy : year < 10000) :
    wide = 4 := by
  by_contra hn
  obtain ⟨less, rfl⟩ := Nat.exists_eq_add_of_le' hw
  have hlead := h.pow_le (hz.resolve_left hn)
  have hpow : 10 ^ 4 ≤ 10 ^ (less + 3) := Nat.pow_le_pow_right (by decide) (by omega)
  omega

theorem Reads.length_toList {t : List Char} {m : Moment} (h : Reads t m)
    (hy : m.date.year < 10000) : t.length = 24 := by
  obtain ⟨hw, hz, hyear, hmo, hd, hh, hmi, hs, hms⟩ := h
  rw [Reads.length_eq hyear hmo hd hh hmi hs hms, wide_eq hw hz hyear hy]

-- With years of four digits, the order of the texts is the order of what they tell.
theorem Reads.lt_iff {t u : List Char} {m k : Moment} (hm : Reads t m) (hk : Reads u k)
    (hym : m.date.year < 10000) (hyk : k.date.year < 10000) : t < u ↔ m.Before k := by
  obtain ⟨hw, hz, hy, hmo, hd, hh, hmi, hs, hms⟩ := hm
  obtain ⟨hw', hz', hy', hmo', hd', hh', hmi', hs', hms'⟩ := hk
  cases wide_eq hw hz hy hym
  cases wide_eq hw' hz' hy' hyk
  simp only [List.append_assoc, List.cons_append]
  rw [hy.append_lt_iff hy', List.cons_lt_cons_self, hmo.append_lt_iff hmo', List.cons_lt_cons_self,
    hd.append_lt_iff hd', List.cons_lt_cons_self, hh.append_lt_iff hh', List.cons_lt_cons_self,
    hmi.append_lt_iff hmi', List.cons_lt_cons_self, hs.append_lt_iff hs', List.cons_lt_cons_self,
    hms.append_lt_iff hms', Before, Date.Before, Date.eq_iff]
  simp only [List.lt_irrefl, and_false, or_false, and_or_left, or_assoc, and_assoc]

end Moment

namespace Instant

-- The time from the start of 1970, and the millisecond that an instant falls in.
def elapsed (t : Instant) : Nat := 1000000000 * t.seconds + t.nanos

def millisecond (t : Instant) : Nat := t.elapsed / 1000000

theorem millisecond_eq (t : Instant) :
    t.millisecond = 1000 * t.seconds + t.moment.milli := by
  rw [millisecond, elapsed, moment]
  dsimp only
  omega

theorem date_eq_iff {a b : Instant} :
    a.moment.date = b.moment.date ↔ a.seconds / 86400 = b.seconds / 86400 := by
  refine ⟨fun h => ?_, fun h => congrArg dateOf h⟩
  have hcount := congrArg Date.count h
  rw [moment, moment, count_dateOf, count_dateOf] at hcount
  exact Int.ofNat.inj hcount

theorem year_moment_lt {t : Instant} (h : t.seconds < 253402300800) :
    t.moment.date.year < 10000 := year_dateOf_lt (by omega)

-- What a stamp tells grows with time.
theorem millisecond_lt_of_before {a b : Instant} (ha : a.nanos < 1000000000)
    (h : a.moment.Before b.moment) : a.millisecond < b.millisecond := by
  rw [millisecond_eq, millisecond_eq]
  have hmilli : a.moment.milli < 1000 := (isReal_moment ha).milli
  have hseconds : a.seconds ≤ b.seconds ∧
      (a.seconds = b.seconds → a.moment.milli < b.moment.milli) := by
    obtain hdate | ⟨hdate, htime⟩ := h
    · have hcount :=
        count_lt_of_before (isReal_dateOf _) (isReal_dateOf _) (le_year_dateOf _) hdate
      rw [count_dateOf, count_dateOf] at hcount
      omega
    · have hdays := date_eq_iff.1 hdate
      dsimp only [moment] at htime ⊢
      omega
  omega

-- Lines of a log stand in the order of time. Up to the year ten thousand all stamps are equally
-- long, none comes before that of an earlier instant, and two are the same for the same millisecond
-- only.
theorem stamp_sorts {a b : Instant} (ha : a.nanos < 1000000000) (hb : b.nanos < 1000000000)
    (hab : a.elapsed ≤ b.elapsed) (hlast : b.seconds < 253402300800) :
    a.stamp ≤ b.stamp ∧ a.stamp.length = b.stamp.length ∧
      (a.stamp = b.stamp ↔ a.millisecond = b.millisecond) := by
  have hfirst : a.seconds < 253402300800 := by
    rw [elapsed, elapsed] at hab
    omega
  have hra := reads_stamp ha
  have hrb := reads_stamp hb
  have hya := year_moment_lt hfirst
  have hyb := year_moment_lt hlast
  refine ⟨fun hlt => ?_, ?_, fun h => ?_, fun h => ?_⟩
  · have hm := millisecond_lt_of_before hb ((hrb.lt_iff hra hyb hya).1 hlt)
    have hle : a.millisecond ≤ b.millisecond := Nat.div_le_div_right hab
    exact Nat.not_lt.2 hle hm
  · rw [← String.length_toList, ← String.length_toList, hra.length_toList hya,
      hrb.length_toList hyb]
  · rw [h] at hra
    have hmoment : a.moment = b.moment := hra.unique hrb
    have hs := seconds_moment a
    rw [hmoment, seconds_moment b] at hs
    rw [millisecond_eq, millisecond_eq, hmoment]
    omega
  · have hma : a.moment.milli < 1000 := (isReal_moment ha).milli
    have hmb : b.moment.milli < 1000 := (isReal_moment hb).milli
    rw [millisecond_eq, millisecond_eq] at h
    have hs : a.seconds = b.seconds := by omega
    have hn : a.nanos / 1000000 = b.nanos / 1000000 := by
      rw [moment, moment] at h
      dsimp only at h
      omega
    rw [stamp, stamp, hs, hn]

-- A nanosecond from the end of a leap day to the next month.
theorem stamp_sorts_leap_day :
    (⟨951868799, 999999999⟩ : Instant).stamp ≤ (⟨951868800, 0⟩ : Instant).stamp ∧
      (⟨951868799, 999999999⟩ : Instant).stamp.length = (⟨951868800, 0⟩ : Instant).stamp.length ∧
      (⟨951868799, 999999999⟩ : Instant).stamp ≠ (⟨951868800, 0⟩ : Instant).stamp := by
  obtain ⟨hle, hlength, heq⟩ := stamp_sorts (a := ⟨951868799, 999999999⟩) (b := ⟨951868800, 0⟩)
    (by decide) (by decide) (by decide) (by decide)
  exact ⟨hle, hlength, mt heq.1 (by decide)⟩

end Instant

end ProbeReport
