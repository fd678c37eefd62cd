import Mathlib
import Rollup.Time.Calendar

/-!
Every day of the calendar has a date, and the date leads back to the day.
-/
namespace Rollup.Calendar

/-- The months of a year have so many days together. -/
theorem sum_monthLengths (year : Nat) :
    (monthLengths year).sum = if isLeap year then 366 else 365 := by
  cases hLeap : isLeap year <;> simp [monthLengths, hLeap]

/-- No month has more than 31 days. -/
theorem le_of_mem_monthLengths {year length : Nat} (h : length ∈ monthLengths year) :
    length ≤ 31 := by
  cases hLeap : isLeap year <;> simp [monthLengths, hLeap] at h <;> omega

/-- A place in a row of lengths lies in one of them, and its parts lead back to it. -/
theorem splitMonths_spec {lengths : List Nat} {day : Nat} (h : day < lengths.sum) :
    ∃ length, lengths[(splitMonths lengths day).1]? = some length ∧
      (splitMonths lengths day).2 < length ∧
        (lengths.take (splitMonths lengths day).1).sum + (splitMonths lengths day).2 = day := by
  induction lengths generalizing day with
  | nil => simp at h
  | cons length lengths ih =>
      rw [splitMonths]
      by_cases hHere : day < length
      · rw [if_pos hHere]
        exact ⟨length, rfl, hHere, by simp⟩
      · rw [List.sum_cons] at h
        obtain ⟨later, hLater, hInside, hSum⟩ := ih (show day - length < lengths.sum by omega)
        rw [if_neg hHere]
        refine ⟨later, hLater, hInside, ?_⟩
        dsimp only
        rw [List.take_succ_cons, List.sum_cons]
        omega

/-- A year is a leap year if it is the last of its four-year cycle, unless the cycle is the last of
a century that is not the last of its era. -/
theorem isLeap_parts (eras : Nat) {centuries cycles years : Nat} (hCenturies : centuries ≤ 3)
    (hCycles : cycles ≤ 24) (hYears : years ≤ 3) :
    isLeap (400 * eras + 100 * centuries + 4 * cycles + years + 1) = true ↔
      years = 3 ∧ (cycles ≠ 24 ∨ centuries = 3) := by
  simp only [isLeap, Bool.and_eq_true, Bool.or_eq_true, beq_iff_eq, bne_iff_ne, ne_eq]
  omega

/-- A day lies in the year that it is split into. -/
theorem splitYears_lt (day : Nat) :
    (splitYears day).2 < (monthLengths (splitYears day).1).sum := by
  have hCenturies := Nat.min_le_right (day % 146097 / 36524) 3
  have hYears := Nat.min_le_right
    ((day % 146097 - 36524 * min (day % 146097 / 36524) 3) % 1461 / 365) 3
  have hCycles : (day % 146097 - 36524 * min (day % 146097 / 36524) 3) / 1461 ≤ 24 := by omega
  have hLeap := isLeap_parts (day / 146097) hCenturies hCycles hYears
  rw [sum_monthLengths]
  simp only [splitYears, hLeap]
  split <;> omega

/-- The years of the calendar. -/
theorem splitYears_bounds {day : Nat} (h : day < dayCount) :
    1 ≤ (splitYears day).1 ∧ (splitYears day).1 ≤ 9999 := by
  rw [dayCount] at h
  simp only [splitYears]
  omega

/-- The date of a day is one of the calendar and has its number. -/
theorem ofDay_spec {day : Nat} (h : day < dayCount) :
    (ofDay day).isValid = true ∧ (ofDay day).dayNumber = day := by
  obtain ⟨hFirst, hLast⟩ := splitYears_bounds h
  obtain ⟨length, hMonth, hInside, hSum⟩ := splitMonths_spec (splitYears_lt day)
  have hSplit := daysBefore_splitYears day
  constructor
  · rw [Date.isValid, Bool.and_eq_true, decide_eq_true_eq]
    simp only [ofDay, Nat.add_sub_cancel, hMonth]
    exact ⟨⟨hFirst, hLast, Nat.le_add_left 1 _, Nat.le_add_left 1 _⟩, decide_eq_true hInside⟩
  · simp only [Date.dayNumber, ofDay, Nat.add_sub_cancel]
    rw [← List.sum_eq_foldl]
    omega

/-- A date of the calendar is written with four and two and two digits. -/
theorem Date.isValid_bounds {date : Date} (h : date.isValid = true) :
    date.year < 10000 ∧ date.month < 100 ∧ date.day < 100 := by
  simp only [Date.isValid, Bool.and_eq_true, decide_eq_true_eq] at h
  obtain ⟨⟨-, hYear, hMonth, hDay⟩, hLength⟩ := h
  split at hLength
  · rename_i length hFound
    obtain ⟨hIndex, -⟩ := List.getElem?_eq_some_iff.mp hFound
    have hMost := le_of_mem_monthLengths (List.mem_of_getElem? hFound)
    have hMonths : (monthLengths date.year).length = 12 := rfl
    rw [decide_eq_true_eq] at hLength
    omega
  · cases hLength

end Rollup.Calendar
