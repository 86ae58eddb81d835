import Mathlib.Algebra.GroupWithZero.Nat
import ProbeReport.Clock

-- The calendar in closed form, and the walk over its years.
namespace ProbeReport.Calendar

-- How long a month is. Leap years are those that four divides, but among full centuries only
-- those that four hundred divides.
def monthLength (year month : Nat) : Nat :=
  if month = 2 then if 4 ∣ year ∧ (100 ∣ year → 400 ∣ year) then 29 else 28
  else if month ∈ [4, 6, 9, 11] then 30 else 31

-- A date that the calendar has.
structure Date.IsReal (d : Date) : Prop where
  one_le_month : 1 ≤ d.month
  month_le : d.month ≤ 12
  one_le_day : 1 ≤ d.day
  day_le : d.day ≤ monthLength d.year d.month

-- The days from the first of January 1970 to a date, in closed form. Years begin in March here, so
-- that a leap day ends one, and they repeat after four hundred.
def Date.count (d : Date) : Int :=
  let year := if d.month ≤ 2 then d.year - 1 else d.year
  let dayOfYear := (153 * ((d.month + 9) % 12) + 2) / 5 + (d.day - 1)
  let ofEra := year % 400
  let dayOfEra := 365 * ofEra + ofEra / 4 - ofEra / 100 + dayOfYear
  146097 * (year / 400 : Nat) + dayOfEra - 719468

-- The days of its year that are over before a date begins.
def Date.dayOfYear (d : Date) : Nat :=
  ((monthLengths d.year).take (d.month - 1)).sum + (d.day - 1)

-- Letting years go by as long as the days that are left fill them, from a year on. The walk over
-- the years ends with the year that the days fall into and those of its days that are over.
inductive Settles : Nat → Nat → Nat → Nat → Prop where
  | here {year days : Nat} : days < yearLength year → Settles year days year days
  | later {year days last left : Nat} :
      yearLength year ≤ days → Settles (year + 1) (days - yearLength year) last left →
      Settles year days last left

section Years

-- All days of the years before one, from the year one on.
def daysBefore (year : Nat) : Nat :=
  365 * (year - 1) + (year - 1) / 4 - (year - 1) / 100 + (year - 1) / 400

theorem isLeap_iff {year : Nat} :
    isLeap year = true ↔ 4 ∣ year ∧ (100 ∣ year → 400 ∣ year) := by
  simp only [isLeap, Bool.or_eq_true, Bool.and_eq_true, decide_eq_true_eq]
  omega

theorem yearLength_eq (year : Nat) :
    yearLength year = 365 + if isLeap year then 1 else 0 := by
  rw [yearLength]
  split <;> rfl

theorem daysBefore_succ {year : Nat} (h : 1 ≤ year) :
    daysBefore (year + 1) = daysBefore year + yearLength year := by
  obtain ⟨past, rfl⟩ := Nat.exists_eq_add_of_le' h
  have hfour : 100 ∣ past + 1 → 4 ∣ past + 1 := Nat.dvd_trans (by decide)
  have hhundred : 400 ∣ past + 1 → 100 ∣ past + 1 := Nat.dvd_trans (by decide)
  have hle : past / 100 ≤ 365 * past := by omega
  rw [yearLength_eq, daysBefore, daysBefore, Nat.add_sub_cancel, Nat.add_sub_cancel, Nat.succ_div,
    Nat.succ_div, Nat.succ_div]
  simp only [isLeap_iff]
  by_cases h4 : 4 ∣ past + 1
  · by_cases h100 : 100 ∣ past + 1
    · by_cases h400 : 400 ∣ past + 1
      · simp only [h4, h100, h400, implies_true, and_self, if_true]
        omega
      · simp only [h4, h100, h400, true_implies, and_false, if_true, if_false]
        omega
    · simp only [h4, h100, mt hhundred h100, false_implies, and_self, if_true, if_false]
      omega
  · have h100 := mt hfour h4
    simp only [h4, h100, mt hhundred h100, false_and, if_false]
    omega

theorem daysBefore_mono {year later : Nat} (h : 1 ≤ year) (hl : year ≤ later) :
    daysBefore year ≤ daysBefore later := by
  induction hl with
  | refl => exact Nat.le_refl _
  | @step later hl ih =>
      rw [daysBefore_succ (Nat.le_trans h hl)]
      omega

-- After four hundred years the calendar repeats.
theorem daysBefore_era {year : Nat} (h : 1 ≤ year) (eras : Nat) :
    daysBefore (year + eraYears * eras) = daysBefore year + eraDays * eras := by
  simp only [daysBefore, eraYears, eraDays]
  omega

theorem daysBefore_eq (year : Nat) :
    daysBefore (year + 1) =
      146097 * (year / 400) + (365 * (year % 400) + year % 400 / 4 - year % 400 / 100) := by
  rw [daysBefore, Nat.add_sub_cancel]
  omega

theorem isLeap_era (year eras : Nat) : isLeap (year + eraYears * eras) = isLeap year := by
  rw [Bool.eq_iff_iff, isLeap_iff, isLeap_iff, eraYears]
  omega

theorem yearLength_era (year eras : Nat) :
    yearLength (year + eraYears * eras) = yearLength year := by
  rw [yearLength_eq, yearLength_eq, isLeap_era]

-- The walk ends with the only year that has that many days left. By induction on the years that
-- it passes: each of them is filled by what is left up to there.
theorem settles_of_daysBefore {year days last left : Nat} (h : 1 ≤ year) (hl : year ≤ last)
    (hleft : left < yearLength last) (hd : daysBefore year + days = daysBefore last + left) :
    Settles year days last left := by
  obtain ⟨passed, rfl⟩ := Nat.exists_eq_add_of_le hl
  induction passed generalizing year days with
  | zero =>
      have he : days = left := Nat.add_left_cancel hd
      rw [he]
      exact .here hleft
  | succ passed ih =>
      have hs := daysBefore_succ h
      have hm : daysBefore (year + 1) ≤ daysBefore (year + (passed + 1)) :=
        daysBefore_mono (by omega) (by omega)
      have hy : year + (passed + 1) = year + 1 + passed := by omega
      have hfull : yearLength year ≤ days := by omega
      refine .later hfull ?_
      rw [hy] at hleft hd ⊢
      exact ih (by omega) (by omega) hleft (by omega)

end Years

section Dates

-- A day that spans in a row have room for falls into one of them, behind all days of the spans
-- before it.
theorem exists_locate {spans : List Nat} {day : Nat} (h : day < spans.sum) :
    ∃ index within span, locate spans day = (index, within) ∧ spans[index]? = some span ∧
      within < span ∧ (spans.take index).sum + within = day := by
  induction spans generalizing day with
  | nil => simp at h
  | cons span rest ih =>
      by_cases hd : day < span
      · exact ⟨0, day, span, by rw [locate, if_pos hd], rfl, hd, by simp⟩
      · rw [List.sum_cons] at h
        obtain ⟨index, within, span', hl, hs, hw, ht⟩ := ih (show day - span < rest.sum by omega)
        refine ⟨index + 1, within, span', by rw [locate, if_neg hd, hl], hs, hw, ?_⟩
        rw [List.take_succ_cons, List.sum_cons]
        omega

theorem sum_yearLengths (years : Nat) :
    daysBefore 1970 + ((List.range years).map fun i => yearLength (1970 + i)).sum =
      daysBefore (1970 + years) := by
  induction years with
  | zero => rfl
  | succ years ih =>
      have hs := daysBefore_succ (show 1 ≤ 1970 + years by omega)
      rw [List.range_succ, List.map_append, List.sum_append, ← Nat.add_assoc, ih, ← Nat.add_assoc,
        hs]
      simp

theorem sum_eraLengths : eraLengths.sum = eraDays := by
  have he := daysBefore_era (show 1 ≤ 1970 by decide) 1
  rw [Nat.mul_one, Nat.mul_one, ← sum_yearLengths] at he
  rw [eraLengths, Nat.add_left_cancel he]

theorem sum_take_eraLengths {years : Nat} (h : years ≤ eraYears) :
    daysBefore 1970 + (eraLengths.take years).sum = daysBefore (1970 + years) := by
  rw [← sum_yearLengths, eraLengths, ← List.map_take, List.take_range, Nat.min_eq_left h]

theorem monthLength_eq (year month : Nat) :
    monthLength year month =
      if month = 2 then if isLeap year then 29 else 28
      else if month ∈ [4, 6, 9, 11] then 30 else 31 := by
  simp only [monthLength, isLeap_iff]

section Months

variable (year : Nat) {index : Nat}

theorem length_monthLengths : (monthLengths year).length = 12 := rfl

theorem monthLengths_getElem? (h : index < 12) :
    (monthLengths year)[index]? = some (monthLength year (index + 1)) := by
  rw [monthLength_eq, monthLengths]
  generalize isLeap year = leap
  revert leap index
  decide

theorem sum_monthLengths : (monthLengths year).sum = yearLength year := by
  rw [yearLength_eq, monthLengths]
  generalize isLeap year = leap
  revert leap
  decide

theorem sum_take_succ (h : index < 12) :
    ((monthLengths year).take (index + 1)).sum =
      ((monthLengths year).take index).sum + monthLength year (index + 1) := by
  rw [List.take_add_one, monthLengths_getElem? year h, List.sum_append]
  rfl

-- Counted from March on, the months follow one rule.
theorem sum_take_monthLengths (h : index < 12) :
    ((monthLengths year).take index).sum + 306 =
      (153 * ((index + 10) % 12) + 2) / 5 + if index < 2 then 0 else yearLength year := by
  rw [yearLength_eq, monthLengths]
  generalize isLeap year = leap
  revert leap index
  decide

end Months

-- Where the days of an era fall: so many of its years are over, and so many days of the next.
theorem exists_locate_era (days : Nat) :
    ∃ index within, locate eraLengths (days % eraDays) = (index, within) ∧
      within < yearLength (1970 + index) ∧
      daysBefore 1970 + days % eraDays = daysBefore (1970 + index) + within := by
  have hera : days % eraDays < eraLengths.sum := by
    rw [sum_eraLengths]
    exact Nat.mod_lt _ (by decide)
  obtain ⟨index, within, span, hl, hs, hw, ht⟩ := exists_locate hera
  obtain ⟨hi, hspan⟩ := List.getElem?_eq_some_iff.1 hs
  have hi : index < eraYears := by
    simpa only [eraLengths, List.length_map, List.length_range] using hi
  have hspan : span = yearLength (1970 + index) := by
    rw [← hspan]
    simp only [eraLengths, List.getElem_map, List.getElem_range]
  have hsum := sum_take_eraLengths (Nat.le_of_lt hi)
  exact ⟨index, within, hl, hspan ▸ hw, by omega⟩

-- The year of a day, behind all years before it.
theorem exists_year (days : Nat) :
    ∃ year within,
      dateOf days = ⟨year, (locate (monthLengths year) within).1 + 1,
        (locate (monthLengths year) within).2 + 1⟩ ∧
      1970 ≤ year ∧ within < yearLength year ∧
      daysBefore 1970 + days = daysBefore year + within := by
  obtain ⟨index, within, hl, hw, hd⟩ := exists_locate_era days
  have hy : 1970 + eraYears * (days / eraDays) + index =
      1970 + index + eraYears * (days / eraDays) := by omega
  have hera := daysBefore_era (show 1 ≤ 1970 + index by omega) (days / eraDays)
  have hdays := Nat.div_add_mod days eraDays
  rw [← yearLength_era (1970 + index) (days / eraDays), ← hy] at hw
  rw [← hy] at hera
  exact ⟨_, within, by rw [dateOf, hl], by omega, hw, by omega⟩

-- The date of a day, behind all years before it and all months of its year before it.
theorem dateOf_spec (days : Nat) :
    ∃ year month day, dateOf days = ⟨year, month + 1, day + 1⟩ ∧ 1970 ≤ year ∧ month < 12 ∧
      day < monthLength year (month + 1) ∧
      ((monthLengths year).take month).sum + day < yearLength year ∧
      daysBefore 1970 + days = daysBefore year + (((monthLengths year).take month).sum + day) := by
  obtain ⟨year, within, hdate, hy, hw, hd⟩ := exists_year days
  rw [← sum_monthLengths] at hw
  obtain ⟨month, day, span, hl, hs, hday, hsum⟩ := exists_locate hw
  have hm : month < 12 := (List.getElem?_eq_some_iff.1 hs).1
  rw [monthLengths_getElem? year hm, Option.some.injEq] at hs
  rw [sum_monthLengths, ← hsum] at hw
  refine ⟨year, month, day, ?_, hy, hm, hs ▸ hday, hw, by omega⟩
  rw [hdate, hl]

theorem isReal_dateOf (days : Nat) : (dateOf days).IsReal := by
  obtain ⟨year, month, day, hdate, -, hm, hd, -⟩ := dateOf_spec days
  rw [hdate]
  exact ⟨Nat.le_add_left 1 month, hm, Nat.le_add_left 1 day, hd⟩

theorem le_year_dateOf (days : Nat) : 1970 ≤ (dateOf days).year := by
  obtain ⟨year, month, day, hdate, hy, -⟩ := dateOf_spec days
  rw [hdate]
  exact hy

theorem daysBefore_dateOf (days : Nat) :
    daysBefore (dateOf days).year + (dateOf days).dayOfYear = daysBefore 1970 + days := by
  obtain ⟨year, month, day, hdate, -, -, -, -, hsum⟩ := dateOf_spec days
  rw [hdate]
  exact hsum.symm

-- The walk over the years ends, whatever the day, and with the year that the date tells.
theorem settles_dateOf (days : Nat) :
    Settles 1970 days (dateOf days).year (dateOf days).dayOfYear := by
  obtain ⟨year, month, day, hdate, hy, -, -, hlt, hsum⟩ := dateOf_spec days
  rw [hdate]
  exact settles_of_daysBefore (by decide) hy hlt hsum

-- The closed form counts the days of all years before a date, and those of its own.
theorem count_eq {d : Date} (hd : d.IsReal) (hy : 1970 ≤ d.year) :
    d.count = daysBefore d.year + d.dayOfYear - daysBefore 1970 := by
  obtain ⟨hm, hm', hday, -⟩ := hd
  have hmonth := sum_take_monthLengths d.year (show d.month - 1 < 12 by omega)
  have hi : (d.month - 1 + 10) % 12 = (d.month + 9) % 12 := by omega
  rw [hi] at hmonth
  rw [Date.count, Date.dayOfYear, show daysBefore 1970 = 719162 from rfl]
  by_cases h : d.month ≤ 2
  · -- such a date belongs to the year that began in the March before it
    have hyears := daysBefore_eq (d.year - 1)
    rw [Nat.sub_add_cancel (show 1 ≤ d.year by omega)] at hyears
    rw [if_pos (by omega)] at hmonth
    rw [if_pos h]
    omega
  · have hyears := daysBefore_eq d.year
    rw [daysBefore_succ (show 1 ≤ d.year by omega)] at hyears
    rw [if_neg (by omega)] at hmonth
    rw [if_neg h]
    omega

theorem count_dateOf (days : Nat) : (dateOf days).count = days := by
  have h := daysBefore_dateOf days
  rw [count_eq (isReal_dateOf days) (le_year_dateOf days)]
  omega

end Dates

section Order

variable {d e : Date}

theorem sum_take_le (year : Nat) {index later : Nat} (h : index ≤ later) :
    ((monthLengths year).take index).sum ≤ ((monthLengths year).take later).sum := by
  have ht := List.take_append_drop index ((monthLengths year).take later)
  rw [List.take_take, Nat.min_eq_left h] at ht
  rw [← ht, List.sum_append]
  exact Nat.le_add_right _ _

-- A date lies before the end of its month.
theorem dayOfYear_lt_month (hd : d.IsReal) :
    d.dayOfYear < ((monthLengths d.year).take d.month).sum := by
  obtain ⟨hm, hm', hday, hday'⟩ := hd
  have hs := sum_take_succ d.year (show d.month - 1 < 12 by omega)
  rw [Nat.sub_add_cancel hm] at hs
  rw [Date.dayOfYear, hs]
  omega

theorem dayOfYear_lt (hd : d.IsReal) : d.dayOfYear < yearLength d.year := by
  have hm := dayOfYear_lt_month hd
  have hle := sum_take_le d.year hd.month_le
  have hsum := sum_monthLengths d.year
  rw [← List.take_length (l := monthLengths d.year), length_monthLengths] at hsum
  omega

theorem Date.eq_iff : d = e ↔ d.year = e.year ∧ d.month = e.month ∧ d.day = e.day := by
  cases d
  cases e
  rw [mk.injEq]

-- Years come first, then months, then days.
def Date.Before (d e : Date) : Prop :=
  d.year < e.year ∨ d.year = e.year ∧ (d.month < e.month ∨ d.month = e.month ∧ d.day < e.day)

theorem count_lt_of_before (hd : d.IsReal) (hr : e.IsReal) (hy : 1970 ≤ d.year)
    (h : d.Before e) : d.count < e.count := by
  have hle : d.year ≤ e.year := by
    obtain h | h := h
    · exact Nat.le_of_lt h
    · exact Nat.le_of_eq h.1
  rw [count_eq hd hy, count_eq hr (Nat.le_trans hy hle)]
  obtain h | ⟨hyear, h⟩ := h
  · have hlt := dayOfYear_lt hd
    have hs := daysBefore_succ (show 1 ≤ d.year by omega)
    have hm : daysBefore (d.year + 1) ≤ daysBefore e.year := daysBefore_mono (by omega) h
    omega
  · have hlt : d.dayOfYear < e.dayOfYear := by
      obtain h | ⟨hmonth, h⟩ := h
      · have hm := dayOfYear_lt_month hd
        have hle := sum_take_le d.year (show d.month ≤ e.month - 1 by omega)
        have he : e.dayOfYear = ((monthLengths e.year).take (e.month - 1)).sum + (e.day - 1) := rfl
        rw [he, ← hyear]
        omega
      · have hday := hd.one_le_day
        rw [Date.dayOfYear, Date.dayOfYear, ← hyear, ← hmonth]
        omega
    rw [hyear]
    omega

-- The first date of the year ten thousand.
theorem year_dateOf_lt {days : Nat} (h : days < 2932897) : (dateOf days).year < 10000 := by
  refine Nat.lt_of_not_le fun hn => ?_
  have hm := daysBefore_mono (show 1 ≤ 10000 by decide) hn
  have hd := daysBefore_dateOf days
  rw [show daysBefore 1970 = 719162 from rfl] at hd
  rw [show daysBefore 10000 = 3652059 from rfl] at hm
  omega

end Order

end ProbeReport.Calendar
