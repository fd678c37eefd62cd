import Mathlib
import Rollup.Trend

/-!
What the trend of a series depends on. The quarters at both ends of a series are of one length and
never overlap, and the trend compares the mean readings in them: nothing that lies between, and no
other reading, has a part in it.
-/
namespace Rollup

section Quarters

variable {α β : Type} {series first middle last : List α}

/-- Both quarters hold a fourth of the series, rounded down. -/
theorem length_quarters (series : List α) :
    (quarters series).1.length = series.length / 4 ∧
      (quarters series).2.length = series.length / 4 := by
  rw [quarters, List.length_take, List.length_drop]
  omega

/-- A series whose ends are as long as its quarters has them for its quarters. -/
theorem quarters_append (hFirst : first.length = (first ++ middle ++ last).length / 4)
    (hLast : last.length = (first ++ middle ++ last).length / 4) :
    quarters (first ++ middle ++ last) = (first, last) := by
  have hEnd : (first ++ middle ++ last).length - last.length = (first ++ middle).length := by
    rw [List.length_append]
    omega
  rw [quarters, ← hFirst]
  refine Prod.ext ?_ ?_
  · rw [List.append_assoc]
    exact List.take_left
  · change (first ++ middle ++ last).drop ((first ++ middle ++ last).length - first.length) = last
    rw [hFirst, ← hLast, hEnd]
    exact List.drop_left

/-- Between the quarters lies the rest of the series. -/
theorem exists_quarters_append (series : List α) :
    ∃ middle, series = (quarters series).1 ++ middle ++ (quarters series).2 := by
  have hShort : series.length / 4 ≤ series.length - series.length / 4 := by omega
  have hTake : series.take (series.length / 4) =
      (series.take (series.length - series.length / 4)).take (series.length / 4) := by
    rw [List.take_take, Nat.min_eq_left hShort]
  refine ⟨(series.take (series.length - series.length / 4)).drop (series.length / 4), ?_⟩
  rw [quarters, hTake, List.take_append_drop, List.take_append_drop]

theorem quarters_map (f : α → β) (series : List α) :
    quarters (series.map f) = ((quarters series).1.map f, (quarters series).2.map f) := by
  rw [quarters, quarters, List.length_map, List.map_take, List.map_drop]

end Quarters

/-- The mean readings of points. -/
def means (points : List Point) : List (PerMetric Float) := points.map fun p => p.readings.mean

variable {points others : List Point}

/-- Averages are those of the mean readings. -/
theorem averages_congr (h : means others = means points) : averages others = averages points := by
  have hLength := congrArg List.length h
  rw [means, means, List.length_map, List.length_map] at hLength
  have hEmpty : others.isEmpty = points.isEmpty := by
    rw [Bool.eq_iff_iff, List.isEmpty_iff_length_eq_zero, List.isEmpty_iff_length_eq_zero, hLength]
  rw [means, means] at h
  simp only [averages, h, hLength, hEmpty]

/-- Without any points there is no change. -/
theorem changes_averages_nil : changes (averages []) (averages []) = .fill 0 := by
  have hNone : percentChange 0 0 = 0 := rfl
  rw [averages, changes, PerMetric.zipWith, PerMetric.fill]
  simp only [List.isEmpty_nil, ↓reduceIte, hNone]

/-- A series too short for quarters is no exception. -/
theorem trend_eq_change (points : List Point) :
    trend points = (comparePeriods (quarters points).1 (quarters points).2).change := by
  obtain ⟨hFirst, hLast⟩ := length_quarters points
  rw [trend, comparePeriods]
  dsimp only
  split
  · rename_i hEmpty
    have hNone : (quarters points).1 = [] := List.isEmpty_iff.mp hEmpty
    have hNoneLast : (quarters points).2 = [] := by
      rw [← List.length_eq_zero_iff, hLast, ← hFirst, hNone, List.length_nil]
    rw [hNone, hNoneLast, changes_averages_nil]
  · rfl

/-- Series with the same mean readings in their quarters have the same trend. -/
theorem trend_congr (hFirst : means (quarters others).1 = means (quarters points).1)
    (hLast : means (quarters others).2 = means (quarters points).2) :
    trend others = trend points := by
  rw [trend_eq_change, trend_eq_change, comparePeriods, comparePeriods, averages_congr hFirst,
    averages_congr hLast]

/-- The trend of a series compares the quarters at its ends by their mean readings, and nothing
else. -/
structure ComparesEnds (points : List Point) : Prop where
  apart : ∃ middle, points = (quarters points).1 ++ middle ++ (quarters points).2
  first_length : (quarters points).1.length = points.length / 4
  last_length : (quarters points).2.length = points.length / 4
  change : trend points = (comparePeriods (quarters points).1 (quarters points).2).change
  middle : ∀ between other, points = (quarters points).1 ++ between ++ (quarters points).2 →
    other.length = between.length →
      trend ((quarters points).1 ++ other ++ (quarters points).2) = trend points
  means : ∀ others, means others = means points → trend others = trend points

theorem trend_comparesEnds (points : List Point) : ComparesEnds points := by
  obtain ⟨hFirst, hLast⟩ := length_quarters points
  constructor
  · exact exists_quarters_append points
  · exact hFirst
  · exact hLast
  · exact trend_eq_change points
  · intro between other hSplit hLength
    have hSame : ((quarters points).1 ++ other ++ (quarters points).2).length = points.length := by
      conv_rhs => rw [hSplit]
      simp only [List.length_append, hLength]
    have hQuarters : quarters ((quarters points).1 ++ other ++ (quarters points).2) =
        quarters points :=
      quarters_append (hSame.symm ▸ hFirst) (hSame.symm ▸ hLast)
    apply trend_congr <;> rw [hQuarters]
  · intro others hMeans
    have hQuarters := congrArg quarters hMeans
    rw [Rollup.means, Rollup.means, quarters_map, quarters_map, Prod.mk.injEq] at hQuarters
    exact trend_congr hQuarters.1 hQuarters.2

/-- Three points are too few for a quarter, and four have one of a single point. -/
example : quarters [1, 2, 3] = ([], []) ∧ quarters [1, 2, 3, 4] = ([1], [4]) := by decide

end Rollup
