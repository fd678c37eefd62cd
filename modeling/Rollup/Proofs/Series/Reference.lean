import Mathlib
import Rollup.Proofs.Policy
import Rollup.Proofs.Series.Course
import Rollup.Proofs.Store.History
import Rollup.Proofs.Store.Memory

/-!
The read of a series over a store in memory, told by what was written. The points of the tier's
source in order of time and the window fix the result, and the read never fails.
-/
namespace Rollup.Series

open Program

variable (policy : Policy) (server : String) (window : Window) (tier : Tier)

/-- The series of a window, by all points of the server in order of time: the oldest points of the
window up to the cap, or else the most recent points of all if those may stand in. A window that
does not reach past its start shows nothing. -/
def expected (fallback : Bool) (all : List Point) : Series :=
  let inside := all.filter window.holds
  if window.stop.position ≤ window.start.position then
    ⟨server, window, tier, [], some .noData, false⟩
  else if inside ≠ [] then
    ⟨server, window, tier, inside.take (min policy.rowCap inside.length), none,
      decide (policy.rowCap < inside.length)⟩
  else if fallback = true ∧ all ≠ [] then
    ⟨server, window, tier, all.drop (all.length - min policy.recentLimit all.length),
      some .substituted, false⟩
  else ⟨server, window, tier, [], some .noData, false⟩

variable {policy server window tier} {fallback : Bool} {m : Memory}
  {exchanges : List Exchange} {result : Except Failure Series}

theorem expected_closed {all : List Point}
    (hWindow : window.stop.position ≤ window.start.position) :
    expected policy server window tier fallback all = standIn server window tier [] := by
  simp [expected, hWindow, standIn]

theorem expected_inside {all : List Point}
    (hWindow : window.start.position < window.stop.position)
    (hInside : all.filter window.holds ≠ []) :
    expected policy server window tier fallback all =
      ⟨server, window, tier, (all.filter window.holds).take policy.rowCap, none,
        decide (policy.rowCap < (all.filter window.holds).length)⟩ := by
  have hOpen : ¬window.stop.position ≤ window.start.position := by omega
  simp only [expected, hOpen, hInside, ↓reduceIte, ne_eq, not_false_eq_true]
  rw [← List.take_eq_take_min]

theorem expected_outside {all : List Point}
    (hWindow : window.start.position < window.stop.position)
    (hInside : all.filter window.holds = []) :
    expected policy server window tier fallback all =
      standIn server window tier
        (if fallback then Memory.lastPoints policy.recentLimit all else []) := by
  have hOpen : ¬window.stop.position ≤ window.start.position := by omega
  have hLast : all.drop (all.length - min policy.recentLimit all.length) =
      Memory.lastPoints policy.recentLimit all := by
    rw [Memory.lastPoints_natCast policy.recentLimit_pos]
    congr 1
    omega
  simp only [expected, hOpen, hInside, ↓reduceIte, ne_eq, not_true_eq_false, hLast]
  by_cases hAll : all = []
  · subst hAll
    simp [standIn, Memory.lastPoints]
  cases fallback with
  | false => simp [standIn]
  | true =>
      have hShown : Memory.lastPoints policy.recentLimit all ≠ [] := by
        have hLength := List.length_pos_iff.mpr hAll
        have hLimit := policy.recentLimit_pos
        rw [Memory.lastPoints_natCast hLimit, ne_eq, List.drop_eq_nil_iff]
        omega
      simp [standIn, hAll, hShown]

/-- Substitutes are the last points of the chronicle. -/
theorem StandInCourse.result_eq
    (course : StandInCourse policy server window tier fallback exchanges result)
    (hAware : m.Aware (policy.source tier) server)
    (hAnswers : ∀ exchange ∈ exchanges, exchange.answer = m.read exchange.question) :
    result = .ok (standIn server window tier
      (if fallback then Memory.lastPoints policy.recentLimit
        (m.chronicle (policy.source tier) server) else [])) := by
  have hRecent := Memory.read_recent hAware policy.recentLimit
  cases course with
  | barred => rfl
  | failed failure =>
      have hAnswer := hAnswers _ List.mem_cons_self
      rw [hRecent] at hAnswer
      cases hAnswer
  | shown points =>
      have hAnswer := hAnswers _ List.mem_cons_self
      rw [hRecent] at hAnswer
      cases hAnswer
      rfl

/-- A course whose answers are those of a store in memory ends as the chronicle says. -/
theorem Course.result_eq
    (course : Course policy server window tier fallback exchanges result)
    (hAware : m.Aware (policy.source tier) server) (hWindow : window.Aware)
    (hAnswers : ∀ exchange ∈ exchanges, exchange.answer = m.read exchange.question) :
    result = .ok (expected policy server window tier fallback
      (m.chronicle (policy.source tier) server)) := by
  have hCount := Memory.read_count hAware hWindow
  have hRange := Memory.read_range hAware hWindow policy.rowCap
  rw [Memory.firstPoints_natCast] at hRange
  cases course with
  | closed hClosed => rw [expected_closed hClosed]
  | uncounted hOpen failure =>
      have hAnswer := hAnswers _ List.mem_cons_self
      rw [hCount] at hAnswer
      cases hAnswer
  | counted hOpen follow =>
      have hAnswer := hAnswers _ List.mem_cons_self
      rw [hCount, Except.ok.injEq] at hAnswer
      have hInside : (m.chronicle (policy.source tier) server).filter window.holds = [] :=
        List.length_eq_zero_iff.mp (Int.ofNat_eq_zero.mp hAnswer.symm)
      rw [expected_outside hOpen hInside]
      exact follow.result_eq hAware fun exchange hMem =>
        hAnswers exchange (List.mem_cons_of_mem _ hMem)
  | unread hOpen hNonzero failure =>
      have hAnswer := hAnswers _ (List.mem_cons_of_mem _ List.mem_cons_self)
      rw [hRange] at hAnswer
      cases hAnswer
  | vanished hOpen hNonzero follow =>
      have hAnswer := hAnswers _ List.mem_cons_self
      have hPoints := hAnswers _ (List.mem_cons_of_mem _ List.mem_cons_self)
      rw [hCount, Except.ok.injEq] at hAnswer
      rw [hRange, Except.ok.injEq] at hPoints
      have hInside : (m.chronicle (policy.source tier) server).filter window.holds ≠ [] := by
        intro hNil
        rw [hNil] at hAnswer
        exact hNonzero hAnswer
      have hCap := policy.rowCap_pos
      have hTake := List.take_eq_nil_iff.mp hPoints.symm
      rcases hTake with hZero | hNil
      · omega
      · exact absurd hNil hInside
  | shown hOpen hNonzero hPoints =>
      have hAnswer := hAnswers _ List.mem_cons_self
      have hRead := hAnswers _ (List.mem_cons_of_mem _ List.mem_cons_self)
      rw [hCount, Except.ok.injEq] at hAnswer
      rw [hRange, Except.ok.injEq] at hRead
      subst hRead
      have hInside : (m.chronicle (policy.source tier) server).filter window.holds ≠ [] := by
        intro hNil
        rw [hNil] at hPoints
        exact hPoints List.take_nil
      rw [expected_inside hOpen hInside, hAnswer]
      congr 2
      rw [decide_eq_decide, List.length_take]
      omega

end Rollup.Series
