import Mathlib
import Rollup.Window

/-!
Comparisons of timestamps that lie on one time line. There the order of timestamps is the order of
their positions, and no comparison fails.
-/
namespace Rollup

namespace Timestamp

/-- The reading of a clock that shows universal time. -/
def universal (wall : Nat) (h : wall < Calendar.dayCount * day := by decide) : Timestamp :=
  ⟨wall, some .zero, h⟩

variable {a b : Timestamp}

theorem notAfter_eq (h : a.isAware = b.isAware) :
    a.notAfter b = .ok (decide (a.position ≤ b.position)) := by
  simp [notAfter, le?, h]

/-- A comparison that does not fail is one of places. -/
theorem eq_of_notAfter {answer : Bool} (h : a.notAfter b = .ok answer) :
    answer = decide (a.position ≤ b.position) := by
  by_cases hLine : a.isAware = b.isAware
  · rw [notAfter_eq hLine, Except.ok.injEq] at h
    exact h.symm
  · simp [notAfter, le?, hLine] at h

theorem minus_eq (h : a.isAware = b.isAware) : a.minus b = .ok (a.position - b.position) := by
  simp [minus, gap?, h]

theorem minus_eq_ok_iff {length : Int} :
    a.minus b = .ok length ↔ a.isAware = b.isAware ∧ a.position - b.position = length := by
  rw [minus, gap?]
  by_cases hLine : a.isAware = b.isAware <;> simp [hLine]

theorem before_eq (h : a.isAware = b.isAware) :
    a.before b = .ok (decide (a.position < b.position)) := by
  simp [before, lt?, h]

theorem isSame_iff : a.isSame b = true ↔ a.isAware = b.isAware ∧ a.position = b.position := by
  simp [isSame]

theorem sinceEpoch_lt_iff : a.sinceEpoch < b.sinceEpoch ↔ a.position < b.position := by
  rw [sinceEpoch, sinceEpoch, Int.sub_lt_sub_right_iff]

theorem sinceEpoch_le_iff : a.sinceEpoch ≤ b.sinceEpoch ↔ a.position ≤ b.position := by
  rw [sinceEpoch, sinceEpoch, Int.sub_le_sub_right_iff]

/-- A reading has a timestamp exactly if it lies in the calendar. -/
theorem isSome_ofWall?_iff {wall : Int} {offset : Option Offset} :
    (ofWall? wall offset).isSome = true ↔ 0 ≤ wall ∧ wall < (Calendar.dayCount * day : Nat) := by
  rw [ofWall?]
  by_cases hHigh : wall.toNat < Calendar.dayCount * day
  · rw [dif_pos hHigh]
    by_cases hLow : 0 ≤ wall
    · rw [if_pos hLow]
      exact iff_of_true rfl (by omega)
    · rw [if_neg hLow]
      exact iff_of_false nofun fun h => hLow h.1
  · rw [dif_neg hHigh]
    exact iff_of_false nofun (by omega)

/-- The timestamp of a reading shows it. -/
theorem ofWall?_eq_some_iff {wall : Int} {offset : Option Offset} {t : Timestamp} :
    ofWall? wall offset = some t ↔ t.offset = offset ∧ t.wall = wall := by
  constructor
  · intro h
    rw [ofWall?] at h
    split_ifs at h with hHigh hLow
    cases h
    exact ⟨rfl, Int.toNat_of_nonneg hLow⟩
  · rintro ⟨rfl, rfl⟩
    simp [ofWall?, t.wall_lt]

/-- A timestamp that is moved stays on its time line. -/
theorem shift_eq_ok {micros : Int} (h : a.shift micros = .ok b) :
    b.isAware = a.isAware ∧ b.position = a.position + micros := by
  rw [shift, shift?, ofWall?] at h
  split_ifs at h
  cases h
  cases hOffset : a.offset <;> simp [isAware, position, hOffset] <;> omega

end Timestamp

/-- The ends of a window lie on one time line. -/
def Window.Comparable (window : Window) : Prop :=
  window.start.isAware = window.stop.isAware

/-- Half an hour by universal time. -/
def Window.halfHour : Window :=
  ⟨.universal (738000 * day), .universal (738000 * day + 1800 * second)⟩

/-- A day by universal time. -/
def Window.oneDay : Window :=
  ⟨.universal (737999 * day), .universal (738000 * day)⟩

instance (window : Window) : Decidable window.Comparable :=
  inferInstanceAs (Decidable (_ = _))

end Rollup
