import Mathlib.Tactic.IntervalCases
import Mathlib.Tactic.Lemma
import Telecontrol.Calendar

/-!
# Days of the calendar

The length of a month and of a year, the number of days before a date, and the day of the week that
follows from it. `IsWeekday` says what any numbering of the days of the week has to do: it begins on
a day that is known and goes on from one date to the next, over the ends of months and years. It
leaves no choice, and `weekday` does it.
-/

namespace Telecontrol

namespace Calendar

variable {year : Int} {month day : Nat}

lemma isLeap_iff : isLeap year ↔ year % 4 = 0 ∧ (year % 100 ≠ 0 ∨ year % 400 = 0) := by
  simp [isLeap]

lemma isDate_iff : isDate year month day ↔ 1 ≤ day ∧ day ≤ daysInMonth year month := by
  simp [isDate]

/-- A month without a name has no days. -/
lemma month_range (h : isDate year month day) : 1 ≤ month ∧ month ≤ 12 := by
  obtain ⟨hfirst, hlast⟩ := isDate_iff.1 h
  unfold daysInMonth at hlast
  split at hlast <;> omega

lemma daysInMonth_range (year : Int) (hfirst : 1 ≤ month) (hlast : month ≤ 12) :
    1 ≤ daysInMonth year month ∧ daysInMonth year month ≤ 31 := by
  cases h : isLeap year <;> interval_cases month <;> simp [daysInMonth, h]

def daysInYear (year : Int) : Nat := if isLeap year then 366 else 365

lemma daysBeforeYear_succ (year : Int) :
    daysBeforeYear (year + 1) = daysBeforeYear year + daysInYear year := by
  simp only [daysBeforeYear, daysInYear]
  by_cases h : isLeap year
  · rw [if_pos h]
    rw [isLeap_iff] at h
    omega
  · rw [if_neg h]
    rw [isLeap_iff] at h
    omega

lemma daysBeforeMonth_eq_sum (year : Int) (month : Nat) : daysBeforeMonth year month =
    ((List.range (month - 1)).map fun earlier => daysInMonth year (earlier + 1)).sum := by
  rw [daysBeforeMonth, List.sum_eq_foldr, List.foldr_map]

lemma daysBeforeMonth_succ (year : Int) (h : 1 ≤ month) :
    daysBeforeMonth year (month + 1) = daysBeforeMonth year month + daysInMonth year month := by
  obtain ⟨earlier, rfl⟩ : ∃ earlier, month = earlier + 1 := ⟨month - 1, by omega⟩
  rw [daysBeforeMonth_eq_sum, daysBeforeMonth_eq_sum, Nat.add_sub_cancel, Nat.add_sub_cancel,
    List.range_succ, List.map_append, List.sum_append, List.map_singleton, List.sum_singleton]

lemma daysBeforeMonth_thirteen (year : Int) : daysBeforeMonth year 13 = daysInYear year := by
  unfold daysInYear
  cases h : isLeap year <;> simp [daysBeforeMonth, List.range_succ, daysInMonth, h]

/-- Days up to a date, itself included, from the first day of year 1. -/
def dayNumber (year : Int) (month day : Nat) : Int :=
  daysBeforeYear year + daysBeforeMonth year month + day

lemma weekday_eq (year : Int) (month day : Nat) :
    weekday year month day = ((dayNumber year month day - 1) % 7).toNat + 1 := rfl

lemma weekday_range (year : Int) (month day : Nat) :
    1 ≤ weekday year month day ∧ weekday year month day ≤ 7 := by
  rw [weekday_eq]
  omega

lemma weekday_succ {year' : Int} {month' day' : Nat}
    (h : dayNumber year' month' day' = dayNumber year month day + 1) :
    weekday year' month' day' = weekday year month day % 7 + 1 := by
  rw [weekday_eq, weekday_eq, h]
  omega

/-- A numbering of the days of the week from Monday, 1, to Sunday, 7. -/
structure IsWeekday (numbering : Int → Nat → Nat → Nat) : Prop where
  /-- The year 2000 began on a Saturday. -/
  start : numbering 2000 1 1 = 6
  day : ∀ year month day, isDate year month day → isDate year month (day + 1) →
    numbering year month (day + 1) = numbering year month day % 7 + 1
  month : ∀ year month, 1 ≤ month → month < 12 →
    numbering year (month + 1) 1 = numbering year month (daysInMonth year month) % 7 + 1
  year : ∀ year, numbering (year + 1) 1 1 = numbering year 12 31 % 7 + 1

theorem isWeekday_weekday : IsWeekday weekday where
  start := by decide
  day year month day _ _ := weekday_succ (by rw [dayNumber, dayNumber]; omega)
  month year month h _ := by
    apply weekday_succ
    rw [dayNumber, dayNumber, daysBeforeMonth_succ year h]
    omega
  year year := by
    apply weekday_succ
    have hmonths := daysBeforeMonth_thirteen year
    rw [daysBeforeMonth_succ year (by decide)] at hmonths
    change daysBeforeMonth year 12 + 31 = daysInYear year at hmonths
    rw [dayNumber, dayNumber, daysBeforeYear_succ, ← hmonths]
    change _ + (0 : Int) + 1 = _
    omega

/-- From the year 2000 on two numberings of the days of the week are the same: they go on in the
same way from day to day, from month to month and from year to year. -/
theorem IsWeekday.unique {numbering numbering' : Int → Nat → Nat → Nat} (h : IsWeekday numbering)
    (h' : IsWeekday numbering') (hdate : isDate year month day) (hyear : 2000 ≤ year) :
    numbering year month day = numbering' year month day := by
  have hday (year : Int) (month : Nat)
      (hfirst : numbering year month 1 = numbering' year month 1) (day : Nat)
      (hdate : isDate year month (day + 1)) :
      numbering year month (day + 1) = numbering' year month (day + 1) := by
    induction day with
    | zero => exact hfirst
    | succ day ih =>
      have hbefore : isDate year month (day + 1) := by
        rw [isDate_iff] at hdate ⊢
        omega
      rw [h.day year month _ hbefore hdate, h'.day year month _ hbefore hdate, ih hbefore]
  have hlast (year : Int) (month : Nat) (hmonth : 1 ≤ month ∧ month ≤ 12)
      (hfirst : numbering year month 1 = numbering' year month 1) :
      numbering year month (daysInMonth year month) =
        numbering' year month (daysInMonth year month) := by
    obtain ⟨hdays, -⟩ := daysInMonth_range year hmonth.1 hmonth.2
    obtain ⟨days, hcount⟩ : ∃ days, daysInMonth year month = days + 1 :=
      ⟨daysInMonth year month - 1, by omega⟩
    rw [hcount]
    exact hday year month hfirst days (isDate_iff.2 ⟨by omega, by omega⟩)
  have hmonth (year : Int) (hfirst : numbering year 1 1 = numbering' year 1 1) (month : Nat)
      (hmonth : month < 12) : numbering year (month + 1) 1 = numbering' year (month + 1) 1 := by
    induction month with
    | zero => exact hfirst
    | succ month ih =>
      rw [h.month year _ (by omega) hmonth, h'.month year _ (by omega) hmonth,
        hlast year (month + 1) (by omega) (ih (by omega))]
  have hyears (passed : Nat) : numbering (2000 + passed) 1 1 = numbering' (2000 + passed) 1 1 := by
    induction passed with
    | zero => exact h.start.trans h'.start.symm
    | succ passed ih =>
      rw [Int.natCast_succ, ← Int.add_assoc, h.year, h'.year]
      have hdecember := hlast _ 12 (by decide) (hmonth _ ih 11 (by decide))
      exact congrArg (· % 7 + 1) hdecember
  obtain ⟨passed, rfl⟩ : ∃ passed : Nat, year = 2000 + passed := ⟨(year - 2000).toNat, by omega⟩
  obtain ⟨hfirst, hlast⟩ := month_range hdate
  obtain ⟨earlier, rfl⟩ : ∃ earlier, month = earlier + 1 := ⟨month - 1, by omega⟩
  obtain ⟨before, rfl⟩ : ∃ before, day = before + 1 :=
    ⟨day - 1, by have := (isDate_iff.1 hdate).1; omega⟩
  exact hday _ _ (hmonth _ (hyears passed) earlier (by omega)) before hdate

/-- A day of March 2024, a leap year, is a Sunday. -/
example : weekday 2024 3 10 = 7 := by decide

end Calendar

namespace DateTime

/-- A time that a calendar and a clock can show. The year is a number of 32 bits, and a leap second
comes at the end of a minute only. -/
structure Valid (t : DateTime) : Prop where
  year : -0x80000000 ≤ t.year ∧ t.year < 0x80000000
  date : Calendar.isDate t.year t.month t.day
  hour : t.hour < 24
  minute : t.minute < 60
  second : t.second < 60
  nanosecond : t.nanosecond < 1000000000 ∨ t.second = 59 ∧ t.nanosecond < 2000000000

/-- Within a leap second. -/
def IsLeap (t : DateTime) : Prop := 1000000000 ≤ t.nanosecond

instance (t : DateTime) : Decidable t.IsLeap := Nat.decLe _ _

/-- Whole milliseconds of the minute. All of a leap second falls to the one before it. -/
def millisecond (t : DateTime) : Nat :=
  if t.IsLeap then 59999 else t.second * 1000 + t.nanosecond / 1000000

/-- The time cut to whole milliseconds. -/
def truncated (t : DateTime) : DateTime :=
  if t.IsLeap then { t with second := 59, nanosecond := 999000000 }
  else { t with nanosecond := t.nanosecond / 1000000 * 1000000 }

variable {t : DateTime}

lemma Valid.millisecond_eq (h : t.Valid) :
    min (t.second * 1000 + t.nanosecond / 1000000) 59999 = t.millisecond := by
  have hsecond := h.second
  have hnanosecond := h.nanosecond
  by_cases hleap : t.IsLeap
  · rw [millisecond, if_pos hleap]
    unfold IsLeap at hleap
    omega
  · rw [millisecond, if_neg hleap]
    unfold IsLeap at hleap
    omega

lemma Valid.millisecond_lt (h : t.Valid) : t.millisecond < 60000 := by
  rw [← h.millisecond_eq]
  omega

lemma truncated_eq (t : DateTime) :
    t.truncated = { t with
      second := t.millisecond / 1000, nanosecond := t.millisecond % 1000 * 1000000 } := by
  by_cases hleap : t.IsLeap
  · rw [truncated, millisecond, if_pos hleap, if_pos hleap]
  · rw [truncated, millisecond, if_neg hleap, if_neg hleap]
    unfold IsLeap at hleap
    have hwhole : (t.second * 1000 + t.nanosecond / 1000000) / 1000 = t.second := by omega
    have hrest : (t.second * 1000 + t.nanosecond / 1000000) % 1000 = t.nanosecond / 1000000 := by
      omega
    rw [hwhole, hrest]

end DateTime

end Telecontrol
