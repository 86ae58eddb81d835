import ProbeReport.Proofs.Clock.Calendar
import ProbeReport.Proofs.Text.Figures

-- A time stamp tells when it was made.
namespace ProbeReport

open Calendar Text

-- What is written in a time stamp.
structure Moment where
  date : Date
  hour : Nat
  minute : Nat
  second : Nat
  milli : Nat

namespace Moment

-- A moment that calendar and clock have.
structure IsReal (m : Moment) : Prop where
  date : m.date.IsReal
  hour : m.hour < 24
  minute : m.minute < 60
  second : m.second < 60
  milli : m.milli < 1000

-- The whole seconds from the start of 1970.
def seconds (m : Moment) : Int :=
  86400 * m.date.count + 3600 * m.hour + 60 * m.minute + m.second

-- How a moment is written. The year has four digits, or more when it needs them.
inductive Reads : List Char → Moment → Prop where
  | mk {wide : Nat} {year month day hour minute second milli : List Char} {m : Moment} :
      4 ≤ wide → (wide = 4 ∨ year.head? ≠ some '0') → Figures wide year m.date.year →
      Figures 2 month m.date.month → Figures 2 day m.date.day → Figures 2 hour m.hour →
      Figures 2 minute m.minute → Figures 2 second m.second → Figures 3 milli m.milli →
      Reads (year ++ '-' :: month ++ '-' :: day ++ 'T' :: hour ++ ':' :: minute ++
        ':' :: second ++ '.' :: milli ++ ['Z']) m

-- How wide the year is shows in the length of the whole.
theorem Reads.length_eq {wide : Nat} {year month day hour minute second milli : List Char}
    {m : Moment} (hy : Figures wide year m.date.year) (hmo : Figures 2 month m.date.month)
    (hd : Figures 2 day m.date.day) (hh : Figures 2 hour m.hour) (hmi : Figures 2 minute m.minute)
    (hs : Figures 2 second m.second) (hms : Figures 3 milli m.milli) :
    (year ++ '-' :: month ++ '-' :: day ++ 'T' :: hour ++ ':' :: minute ++
        ':' :: second ++ '.' :: milli ++ ['Z']).length = wide + 20 := by
  simp only [List.length_append, List.length_cons, List.length_nil, hy.width_eq, hmo.width_eq,
    hd.width_eq, hh.width_eq, hmi.width_eq, hs.width_eq, hms.width_eq]

-- A text can be read in one way only.
theorem Reads.unique {t : List Char} {m m' : Moment} (h : Reads t m) (h' : Reads t m') :
    m = m' := by
  generalize ht : t = u at h'
  obtain ⟨-, -, hy, hmo, hd, hh, hmi, hs, hms⟩ := h
  obtain ⟨-, -, hy', hmo', hd', hh', hmi', hs', hms'⟩ := h'
  have hw := congrArg List.length ht
  rw [length_eq hy hmo hd hh hmi hs hms, length_eq hy' hmo' hd' hh' hmi' hs' hms',
    Nat.add_right_cancel_iff] at hw
  cases hw
  simp only [List.append_assoc, List.cons_append] at ht
  obtain ⟨eyear, ht⟩ := hy.append_inj hy' ht
  obtain ⟨emonth, ht⟩ := hmo.append_inj hmo' (List.cons.inj ht).2
  obtain ⟨eday, ht⟩ := hd.append_inj hd' (List.cons.inj ht).2
  obtain ⟨ehour, ht⟩ := hh.append_inj hh' (List.cons.inj ht).2
  obtain ⟨eminute, ht⟩ := hmi.append_inj hmi' (List.cons.inj ht).2
  obtain ⟨esecond, ht⟩ := hs.append_inj hs' (List.cons.inj ht).2
  obtain ⟨emilli, ht⟩ := hms.append_inj hms' (List.cons.inj ht).2
  obtain ⟨⟨_, _, _⟩, _, _, _, _⟩ := m
  obtain ⟨⟨_, _, _⟩, _, _, _, _⟩ := m'
  cases eyear
  cases emonth
  cases eday
  cases ehour
  cases eminute
  cases esecond
  cases emilli
  rfl

end Moment

namespace Instant

-- What the stamp of an instant tells.
def moment (t : Instant) : Moment :=
  { date := dateOf (t.seconds / 86400)
    hour := t.seconds % 86400 / 3600
    minute := t.seconds % 86400 % 3600 / 60
    second := t.seconds % 86400 % 60
    milli := t.nanos / 1000000 }

theorem isReal_moment {t : Instant} (h : t.nanos < 1000000000) : t.moment.IsReal := by
  refine ⟨isReal_dateOf _, ?_, ?_, ?_, ?_⟩ <;> rw [moment] <;> dsimp only <;> omega

theorem seconds_moment (t : Instant) : t.moment.seconds = t.seconds := by
  rw [Moment.seconds, moment]
  dsimp only
  rw [count_dateOf]
  omega

theorem toList_stamp (t : Instant) :
    t.stamp.toList =
      padZeros 4 t.moment.date.year ++ '-' :: padZeros 2 t.moment.date.month ++
        '-' :: padZeros 2 t.moment.date.day ++ 'T' :: padZeros 2 t.moment.hour ++
        ':' :: padZeros 2 t.moment.minute ++ ':' :: padZeros 2 t.moment.second ++
        '.' :: padZeros 3 t.moment.milli ++ ['Z'] := by
  rw [stamp, String.toList_ofList]
  rfl

theorem reads_stamp {t : Instant} (h : t.nanos < 1000000000) :
    Moment.Reads t.stamp.toList t.moment := by
  have hreal := isReal_moment h
  obtain ⟨⟨-, hmonth, -, hday⟩, hhour, hminute, hsecond, hmilli⟩ := hreal
  have hlength : monthLength t.moment.date.year t.moment.date.month ≤ 31 := by
    rw [monthLength]
    split <;> split <;> decide
  have two {n : Nat} (hn : n < 100) : Figures 2 (padZeros 2 n) n :=
    figures_padZeros_of_lt (by decide) hn
  obtain ⟨wide, hw, hyear, hzero⟩ := exists_figures (show 0 < 4 by decide) t.moment.date.year
  rw [toList_stamp]
  exact .mk hw hzero hyear (two (by omega)) (two (by omega)) (two (by omega)) (two (by omega))
    (two (by omega)) (figures_padZeros_of_lt (by decide) hmilli)

-- A time stamp can be inverted. It reads as one moment only, which calendar and clock have, and the
-- closed form gets the seconds of the instant back from it, to the millisecond. The walk over the
-- years ends for every instant, with the year and the day in it that are told.
theorem stamp_inverts {t : Instant} (h : t.nanos < 1000000000) :
    ∃ m : Moment, (∀ m', Moment.Reads t.stamp.toList m' ↔ m' = m) ∧ m.IsReal ∧
      m.seconds = t.seconds ∧ m.milli = t.nanos / 1000000 ∧
      Settles 1970 (t.seconds / 86400) m.date.year m.date.dayOfYear := by
  have hreads := reads_stamp h
  refine ⟨t.moment, fun m => ⟨fun hm => hm.unique hreads, ?_⟩, isReal_moment h, seconds_moment t,
    rfl, settles_dateOf _⟩
  rintro rfl
  exact hreads

-- The last second of a leap day in a full century.
theorem stamp_inverts_leap_day :
    ∃ m : Moment, Moment.Reads "2000-02-29T23:59:59.999Z".toList m ∧ m.IsReal ∧
      m.seconds = 951868799 ∧ m.milli = 999 := by
  obtain ⟨m, hread, hreal, hs, hms, -⟩ :=
    stamp_inverts (t := ⟨951868799, 999999999⟩) (by decide)
  have he : (⟨951868799, 999999999⟩ : Instant).stamp = "2000-02-29T23:59:59.999Z" := by
    decide +kernel
  rw [he] at hread
  exact ⟨m, (hread m).2 rfl, hreal, hs, hms⟩

end Instant

end ProbeReport
