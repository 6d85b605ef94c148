import Mathlib.Tactic.IntervalCases
import Mathlib.Tactic.SplitIfs
import Symposium.Time.Calendar

/-!
# Days of the calendar

A number of days is split into eras of 400 years, years of the era, and days of a year that begins
with March. The year of the era is found with one division, which is right because a century has a
day less than its four-year spans, an era a day more than its centuries, and neither moves a day out
of its year. Main statements: the date of a day is one of the calendar, and has its number.
-/

namespace Symposium.Time

variable {century dayOfCentury dayOfEra spans year yearOfEra days : Int}

/-- Within a century, the spans of 1460 days that are over are hardly ahead of the leap days. -/
lemma spans_of_century (hcentury : 0 ≤ century ∧ century ≤ 3)
    (hday : 0 ≤ dayOfCentury ∧ dayOfCentury < 36524)
    (hspans : spans = (dayOfCentury + 24 * century) / 1460)
    (hyear : year = (dayOfCentury - spans) / 365) :
    0 ≤ year ∧ year ≤ 99 ∧ spans - 1 ≤ year / 4 ∧ year / 4 ≤ spans ∧ 0 ≤ spans ∧ spans ≤ 25 := by
  omega

/-- Within a century, the days of a year are counted up to 365, which is the leap day. -/
lemma dayOfYear_of_century (hcentury : 0 ≤ century ∧ century ≤ 3)
    (hday : 0 ≤ dayOfCentury ∧ dayOfCentury < 36524)
    (hspans : spans = (dayOfCentury + 24 * century) / 1460)
    (hyear : year = (dayOfCentury - spans) / 365) :
    0 ≤ dayOfCentury - (365 * year + year / 4) ∧ dayOfCentury - (365 * year + year / 4) ≤ 365 ∧
      (dayOfCentury - (365 * year + year / 4) = 365 → (year + 1) % 4 = 0 ∧ year ≠ 99) := by
  have hbounds := spans_of_century hcentury hday hspans hyear
  refine ⟨by omega, by omega, fun hlast => ?_⟩
  -- the leap day is the last of a span, so the next year ends one
  have hleaps : year / 4 = spans - 1 := by omega
  have hspan : year = 4 * spans - 1 := by omega
  omega

/-- The number of a day in a year of an era that begins with March. -/
def dayOfYear (dayOfEra yearOfEra : Int) : Int :=
  dayOfEra - (365 * yearOfEra + yearOfEra / 4 - yearOfEra / 100)

/-- Within an era, the days of a year are counted up to 365, which is the leap day. -/
lemma dayOfYear_of_era (hday : 0 ≤ dayOfEra ∧ dayOfEra < daysInEra)
    (hyear : yearOfEra =
      (dayOfEra - dayOfEra / 1460 + dayOfEra / 36524 - dayOfEra / 146096) / 365) :
    0 ≤ yearOfEra ∧ yearOfEra ≤ 399 ∧ 0 ≤ dayOfYear dayOfEra yearOfEra ∧
      dayOfYear dayOfEra yearOfEra ≤ 365 ∧
      (dayOfYear dayOfEra yearOfEra = 365 → isLeap (yearOfEra + 1) = true) := by
  rw [daysInEra] at hday
  simp only [dayOfYear, isLeap, Bool.and_eq_true, Bool.or_eq_true, beq_iff_eq, bne_iff_ne]
  by_cases hlast : dayOfEra = 146096
  · subst hlast
    subst hyear
    decide
  · have hcentury : 0 ≤ dayOfEra / 36524 ∧ dayOfEra / 36524 ≤ 3 := by omega
    have hrest : 0 ≤ dayOfEra % 36524 ∧ dayOfEra % 36524 < 36524 := by omega
    have hbounds := spans_of_century hcentury hrest rfl rfl
    have hdays := dayOfYear_of_century hcentury hrest rfl rfl
    generalize hspans : (dayOfEra % 36524 + 24 * (dayOfEra / 36524)) / 1460 = spans at hbounds hdays
    generalize hyear' : (dayOfEra % 36524 - spans) / 365 = year at hbounds hdays
    have hover : dayOfEra / 1460 = 25 * (dayOfEra / 36524) + spans := by omega
    have hsplit : yearOfEra = 100 * (dayOfEra / 36524) + year := by omega
    have hleaps : yearOfEra / 4 = 25 * (dayOfEra / 36524) + year / 4 := by omega
    have hcenturies : yearOfEra / 100 = dayOfEra / 36524 := by omega
    omega

/-- How a number of days is split into a date. -/
structure Split (days era yearOfEra day month : Int) : Prop where
  sum : days = era * daysInEra + (365 * yearOfEra + yearOfEra / 4 - yearOfEra / 100) + day -
    epochDay
  inEra : 0 ≤ yearOfEra ∧ yearOfEra ≤ 399
  inYear : 0 ≤ day ∧ day ≤ 365
  isLast : day = 365 → isLeap (yearOfEra + 1) = true
  monthOfDay : month = (5 * day + 2) / 153
  date : Date.ofDays days =
    ⟨if (month + 2) % 12 + 1 ≤ 2 then era * 400 + yearOfEra + 1 else era * 400 + yearOfEra,
      (month + 2) % 12 + 1, day - (153 * month + 2) / 5 + 1⟩

/-- Every day lies in an era, a year of it, a month and a day of that. -/
lemma exists_split (days : Int) :
    ∃ era yearOfEra day month, Split days era yearOfEra day month := by
  have hera : 0 ≤ (days + epochDay) % daysInEra ∧ (days + epochDay) % daysInEra < daysInEra := by
    rw [daysInEra]
    omega
  obtain ⟨hfirst, hlast, hday, hbound, hleap⟩ := dayOfYear_of_era hera rfl
  refine ⟨_, _, _, _, ⟨?_, ⟨hfirst, hlast⟩, ⟨hday, hbound⟩, hleap, rfl, rfl⟩⟩
  rw [dayOfYear, daysInEra]
  omega

/-- The day that a date counts is the one of which it is the date. -/
theorem toDays_ofDays (days : Int) : (Date.ofDays days).toDays = days := by
  obtain ⟨era, yearOfEra, day, month, h⟩ := exists_split days
  obtain ⟨hfirst, hlast⟩ := h.inEra
  obtain ⟨hday, hbound⟩ := h.inYear
  have hmonth := h.monthOfDay
  have hback : ((month + 2) % 12 + 1 + 9) % 12 = month := by omega
  have hyear : (if (month + 2) % 12 + 1 ≤ 2 then
      (if (month + 2) % 12 + 1 ≤ 2 then era * 400 + yearOfEra + 1 else era * 400 + yearOfEra) - 1
    else
      if (month + 2) % 12 + 1 ≤ 2 then era * 400 + yearOfEra + 1 else era * 400 + yearOfEra) =
      era * 400 + yearOfEra := by
    split <;> omega
  have hera : (era * 400 + yearOfEra) / 400 = era := by omega
  have hrest : (era * 400 + yearOfEra) % 400 = yearOfEra := by omega
  rw [h.date]
  simp only [Date.toDays, hyear, hback, hera, hrest]
  have hsum := h.sum
  omega

/-- Whether a date is one of the calendar. -/
structure Date.IsValid (date : Date) : Prop where
  month : 1 ≤ date.month ∧ date.month ≤ 12
  day : 1 ≤ date.day ∧ date.day ≤ daysInMonth date.year date.month

/-- Leap years repeat after four hundred years. -/
lemma isLeap_add_eras (era year : Int) : isLeap (era * 400 + year) = isLeap year := by
  have hfour : (era * 400 + year) % 4 = year % 4 := by omega
  have hhundred : (era * 400 + year) % 100 = year % 100 := by omega
  have hera : (era * 400 + year) % 400 = year % 400 := by omega
  simp only [isLeap, hfour, hhundred, hera]

/-- But for February, which comes last, the lengths of the months do not depend on the year. -/
lemma daysInMonth_eq (year : Int) {month : Int} (hfirst : 0 ≤ month) (hlast : month ≤ 10) :
    daysInMonth year ((month + 2) % 12 + 1) =
      (153 * (month + 1) + 2) / 5 - (153 * month + 2) / 5 := by
  interval_cases month <;> rfl

/-- The date of a day is one of the calendar. -/
theorem isValid_ofDays (days : Int) : (Date.ofDays days).IsValid := by
  obtain ⟨era, yearOfEra, day, month, h⟩ := exists_split days
  obtain ⟨hday, hbound⟩ := h.inYear
  have hmonth := h.monthOfDay
  have hfirst : 0 ≤ month := by omega
  rw [h.date]
  constructor
  · show 1 ≤ (month + 2) % 12 + 1 ∧ (month + 2) % 12 + 1 ≤ 12
    omega
  · dsimp only
    refine ⟨by omega, ?_⟩
    -- February is the last month of the shifted year, and the only one of changing length
    by_cases hlast : month ≤ 10
    · rw [daysInMonth_eq _ hfirst hlast]
      omega
    · have hfebruary : month = 11 := by omega
      subst hfebruary
      show day - 337 + 1 ≤ if isLeap (era * 400 + yearOfEra + 1) then 29 else 28
      by_cases hend : day = 365
      · rw [add_assoc, isLeap_add_eras, h.isLast hend, if_pos rfl]
        omega
      · split <;> omega

/-- The number of 0000-01-01. -/
def firstDay : Int := -719528

/-- The number of 9999-12-31. -/
def lastDay : Int := 2932896

/-- The leap days of an era, of which there are most before its last year. -/
lemma leaps_mem (hstart : 0 ≤ yearOfEra) (hend : yearOfEra ≤ 399) :
    0 ≤ yearOfEra / 4 - yearOfEra / 100 ∧ yearOfEra / 4 - yearOfEra / 100 ≤ 96 ∧
      (yearOfEra = 399 → yearOfEra / 4 - yearOfEra / 100 = 96) := by
  omega

/-- January and February are the last months of a year that begins in March. -/
lemma isWinter_iff {month : Int} (hfirst : 0 ≤ month) (hlast : month ≤ 11) :
    (month + 2) % 12 + 1 ≤ 2 ↔ 10 ≤ month := by
  omega

/-- Days of the years 0 to 9999 have dates in these years. -/
theorem year_ofDays (hfirst : firstDay ≤ days) (hlast : days ≤ lastDay) :
    0 ≤ (Date.ofDays days).year ∧ (Date.ofDays days).year ≤ 9999 := by
  obtain ⟨era, yearOfEra, day, month, h⟩ := exists_split days
  obtain ⟨hday, hbound⟩ := h.inYear
  obtain ⟨hstart, hend⟩ := h.inEra
  have hleaps := leaps_mem hstart hend
  have hmonth := h.monthOfDay
  have hsum : days = era * 146097 + 365 * yearOfEra + (yearOfEra / 4 - yearOfEra / 100) + day -
      719468 := by
    have hsum := h.sum
    rw [daysInEra, epochDay] at hsum
    omega
  rw [firstDay] at hfirst
  rw [lastDay] at hlast
  rw [h.date]
  dsimp only
  -- the leap days are as good as any number within their bounds
  generalize yearOfEra / 4 - yearOfEra / 100 = leaps at hsum hleaps
  have hera : -1 ≤ era ∧ era ≤ 24 := by omega
  simp only [isWinter_iff (show 0 ≤ month by omega) (show month ≤ 11 by omega)]
  split
  case isTrue hwinter =>
    have hlast' : era = 24 → yearOfEra ≠ 399 := by omega
    omega
  case isFalse hsummer =>
    have hfirst' : era ≠ -1 := by omega
    omega

/-- No month has more than thirty-one days. -/
lemma daysInMonth_le (year month : Int) : daysInMonth year month ≤ 31 := by
  unfold daysInMonth
  split_ifs <;> decide

/-- The days of January and February are the last of a year that begins in March. -/
lemma dayOfYear_mem {month day : Int} (hjanuary : 1 ≤ month) (hdecember : month ≤ 12)
    (hfirst : 1 ≤ day) (hlast : day ≤ 31) :
    0 ≤ (153 * ((month + 9) % 12) + 2) / 5 + day - 1 ∧
      (153 * ((month + 9) % 12) + 2) / 5 + day - 1 ≤ 367 ∧
      (month ≤ 2 → 306 ≤ (153 * ((month + 9) % 12) + 2) / 5 + day - 1) ∧
      (¬ month ≤ 2 → (153 * ((month + 9) % 12) + 2) / 5 + day - 1 ≤ 305) := by
  interval_cases month <;> simp <;> omega

/-- Dates of the years 0 to 9999 are numbered from the first to the last of these days. -/
theorem toDays_mem {date : Date} (valid : date.IsValid)
    (hyear : 0 ≤ date.year ∧ date.year ≤ 9999) :
    firstDay ≤ date.toDays ∧ date.toDays ≤ lastDay := by
  obtain ⟨⟨hjanuary, hdecember⟩, hfirst, hlast⟩ := valid
  have hlength := hlast.trans (daysInMonth_le date.year date.month)
  have hday := dayOfYear_mem hjanuary hdecember hfirst hlength
  obtain ⟨hstart, hend⟩ := hyear
  rw [firstDay, lastDay]
  simp only [Date.toDays, daysInEra, epochDay]
  generalize (153 * ((date.month + 9) % 12) + 2) / 5 + date.day - 1 = day at hday
  generalize hyear : (if date.month ≤ 2 then date.year - 1 else date.year) = year
  have hsplit := Int.mul_ediv_add_emod year 400
  have hleaps := leaps_mem (show 0 ≤ year % 400 by omega) (by omega)
  generalize hrest : year % 400 = yearOfEra at hsplit hleaps
  generalize year / 400 = era at hsplit
  have hbounds : 0 ≤ yearOfEra ∧ yearOfEra ≤ 399 := by omega
  clear hrest
  rw [add_sub_assoc (era * 146097 + yearOfEra * 365)]
  generalize yearOfEra / 4 - yearOfEra / 100 = leaps at hleaps
  split at hyear
  case isTrue hlate => omega
  case isFalse hearly => omega

end Symposium.Time
