import Mathlib
import Rollup.Proofs.Series.Course
import Rollup.Proofs.Store.Held

/-!
What a window shows by itself. A read that lets other rows stand in shows the same as one that does
not, as long as the store answers both alike, unless it says that it has nothing to show.
-/
namespace Rollup.Series

open Program

variable {policy : Policy} {server : String} {window : Window} {tier : Tier} {allowed : Bool}
  {given : Option Value} {exchanges : List Exchange} {result : Except Failure Series}
  {series : Series}

/-- The series of a window by some answers, where nothing may stand in. -/
def bare (policy : Policy) (server : String) (window : Window) (tier : Tier)
    (answers : ∀ question : Read, Except Failure question.Answer) : Except Failure Series :=
  if window.stop.position ≤ window.start.position then .ok (standIn server window tier [])
  else
    match answers (countQuestion policy server window tier) with
    | .error failure => .error (asSeen (countQuestion policy server window tier) failure)
    | .ok count =>
      if count = (0 : Int) then .ok (standIn server window tier [])
      else
        match answers (rangeQuestion policy server window tier) with
        | .error failure => .error (asSeen (rangeQuestion policy server window tier) failure)
        | .ok [] => .ok (standIn server window tier [])
        | .ok (point :: points) =>
          .ok ⟨server, window, tier, point :: points, none,
            decide (((point :: points).length : Int) < count)⟩

/-- The series without what stands in for rows of its window. -/
def stripped (series : Series) : Series :=
  if series.notice = none then series else standIn series.server series.window series.tier []

@[simp] theorem stripped_standIn (points : List Point) :
    (standIn server window tier points).stripped = standIn server window tier [] := by
  simp [stripped, standIn]

theorem points_stripped (series : Series) :
    series.stripped.points = if series.notice = none then series.points else [] := by
  unfold stripped
  split <;> rfl

theorem Course.tier_eq (course : Course policy server window tier allowed exchanges (.ok series)) :
    series.tier = tier := by
  cases course with
  | closed hWindow => rfl
  | counted hWindow follow => cases follow <;> rfl
  | vanished hWindow hNonzero follow => cases follow <;> rfl
  | shown hWindow hNonzero hPoints => rfl

theorem StandInCourse.exists_standIn
    (course : StandInCourse policy server window tier allowed exchanges (.ok series)) :
    ∃ points, series = standIn server window tier points := by
  cases course with
  | barred => exact ⟨[], rfl⟩
  | shown points => exact ⟨points, rfl⟩

theorem notice_standIn (points : List Point) :
    (standIn server window tier points).notice = some .noData ↔ points = [] := by
  cases points <;> simp [standIn]

/-- A series has no points exactly if it says that there are none. -/
theorem Course.notice_eq_noData_iff
    (course : Course policy server window tier allowed exchanges (.ok series)) :
    series.notice = some .noData ↔ series.points = [] := by
  cases course with
  | closed hWindow => exact notice_standIn []
  | counted hWindow follow =>
      obtain ⟨points, rfl⟩ := follow.exists_standIn
      exact notice_standIn points
  | vanished hWindow hNonzero follow =>
      obtain ⟨points, rfl⟩ := follow.exists_standIn
      exact notice_standIn points
  | shown hWindow hNonzero hPoints => simp [hPoints]

theorem StandInCourse.eq_of_barred
    (course : StandInCourse policy server window tier false exchanges result) :
    result = .ok (standIn server window tier []) := by
  cases course
  rfl

namespace Course

/-- Without substitutes, the answers decide how a read ends. -/
theorem eq_bare (answers : ∀ question : Read, Except Failure question.Answer)
    (course : Course policy server window tier false exchanges result)
    (hAnswers : ∀ exchange ∈ exchanges, exchange.answer = answers exchange.question) :
    result = bare policy server window tier answers := by
  cases course with
  | closed hWindow => simp [bare, hWindow]
  | uncounted hWindow failure =>
      have hCount := hAnswers _ List.mem_cons_self
      simp [bare, Int.not_le.mpr hWindow, ← hCount]
  | counted hWindow follow =>
      have hCount := hAnswers _ List.mem_cons_self
      simp [bare, Int.not_le.mpr hWindow, ← hCount, follow.eq_of_barred]
  | unread hWindow hNonzero failure =>
      have hCount := hAnswers _ List.mem_cons_self
      have hRange := hAnswers _ (List.mem_cons_of_mem _ List.mem_cons_self)
      simp [bare, Int.not_le.mpr hWindow, ← hCount, hNonzero, ← hRange]
  | vanished hWindow hNonzero follow =>
      have hCount := hAnswers _ List.mem_cons_self
      have hRange := hAnswers _ (List.mem_cons_of_mem _ List.mem_cons_self)
      simp [bare, Int.not_le.mpr hWindow, ← hCount, hNonzero, ← hRange, follow.eq_of_barred]
  | shown hWindow hNonzero hPoints =>
      have hCount := hAnswers _ List.mem_cons_self
      have hRange := hAnswers _ (List.mem_cons_of_mem _ List.mem_cons_self)
      obtain ⟨point, points, rfl⟩ := List.exists_cons_of_ne_nil hPoints
      simp [bare, Int.not_le.mpr hWindow, ← hCount, hNonzero, ← hRange]

/-- With substitutes, what the window shows by itself is the series without them. -/
theorem bare_eq (answers : ∀ question : Read, Except Failure question.Answer)
    (course : Course policy server window tier allowed exchanges (.ok series))
    (hAnswers : ∀ exchange ∈ exchanges, exchange.answer = answers exchange.question) :
    bare policy server window tier answers = .ok series.stripped := by
  cases course with
  | closed hWindow => simp [bare, hWindow]
  | counted hWindow follow =>
      have hCount := hAnswers _ List.mem_cons_self
      obtain ⟨points, rfl⟩ := follow.exists_standIn
      simp [bare, Int.not_le.mpr hWindow, ← hCount]
  | vanished hWindow hNonzero follow =>
      have hCount := hAnswers _ List.mem_cons_self
      have hRange := hAnswers _ (List.mem_cons_of_mem _ List.mem_cons_self)
      obtain ⟨points, rfl⟩ := follow.exists_standIn
      simp [bare, Int.not_le.mpr hWindow, ← hCount, hNonzero, ← hRange]
  | shown hWindow hNonzero hPoints =>
      have hCount := hAnswers _ List.mem_cons_self
      have hRange := hAnswers _ (List.mem_cons_of_mem _ List.mem_cons_self)
      obtain ⟨point, points, rfl⟩ := List.exists_cons_of_ne_nil hPoints
      simp [bare, Int.not_le.mpr hWindow, ← hCount, hNonzero, ← hRange, stripped]

end Course

/-- A window whose ends have no order is not read at all. -/
theorem read_of_mixed (hWindow : ¬window.Comparable) :
    Series.read policy server window none allowed = fail (.arithmetic .mixedDifference) := by
  have hTier : tierFor none server window = .error (.arithmetic .mixedDifference) := by
    rw [tierFor, Timestamp.minus, Timestamp.gap?, if_neg (Ne.symm hWindow)]
    rfl
  rw [Series.read, hTier]
  rfl

/-- Over a store that holds rows of an open window, a series says nothing about itself, and over one
that holds none it does. -/
theorem Course.notice_eq_none_iff {store : Store}
    (course : Course policy server window tier allowed exchanges (.ok series)) (h : store.Sound)
    (hAnswers : ∀ exchange ∈ exchanges, exchange.answer = (store.answer exchange.question).1)
    (hOpen : window.start.position < window.stop.position) :
    series.notice = none ↔ store.held (policy.source tier) server window ≠ [] := by
  cases course with
  | closed hWindow => omega
  | counted hWindow follow =>
      have hCount := h.count_eq (hAnswers _ List.mem_cons_self).symm
      obtain ⟨points, rfl⟩ := follow.exists_standIn
      have hHeld : store.held (policy.source tier) server window = [] :=
        List.length_eq_zero_iff.mp (Int.ofNat_eq_zero.mp hCount.symm)
      simp [standIn, hHeld]
  | vanished hWindow hNonzero follow =>
      have hCount := h.count_eq (hAnswers _ List.mem_cons_self).symm
      have hRange := h.range_eq (hAnswers _ (List.mem_cons_of_mem _ List.mem_cons_self)).symm
      have hCap := policy.rowCap_pos
      rcases List.take_eq_nil_iff.mp hRange.symm with hZero | hNone
      · omega
      · rw [hNone] at hCount
        exact absurd hCount hNonzero
  | shown hWindow hNonzero hPoints =>
      have hRange := h.range_eq (hAnswers _ (List.mem_cons_of_mem _ List.mem_cons_self)).symm
      refine iff_of_true rfl ?_
      intro hNone
      rw [hNone, List.take_nil, List.map_eq_nil_iff] at hRange
      exact hPoints hRange

end Rollup.Series
