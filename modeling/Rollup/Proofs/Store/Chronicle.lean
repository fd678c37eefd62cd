import Mathlib
import Rollup.Store.Memory
import Rollup.Proofs.Time.Timestamp

/-!
Points in order of time. The order is stable: points of one time keep the order in which they were
given. This says all about a chronicle, since a list of points has only one.
-/
namespace Rollup

/-- Whether a point lies at a place on its time line. -/
def Point.isAt (place : Int) (p : Point) : Bool := p.time.position == place

/-- Whether a window holds a point, both ends included. -/
def Window.holds (window : Window) (p : Point) : Bool :=
  decide (window.start.position ≤ p.time.position ∧ p.time.position ≤ window.stop.position)

/-- All points are aware of their offset. -/
def AllAware (points : List Point) : Prop := ∀ p ∈ points, p.time.isAware = true

/-- The second list holds the points of the first in order of time, those of one time as given. -/
structure Chronicle (points all : List Point) : Prop where
  sorted : all.Pairwise fun a b => a.time.position ≤ b.time.position
  stable : ∀ place, all.filter (Point.isAt place) = points.filter (Point.isAt place)

namespace Chronicle

variable {points all others : List Point}

theorem mem_iff (h : Chronicle points all) {p : Point} : p ∈ all ↔ p ∈ points := by
  have hFilter := congrArg (p ∈ ·) (h.stable p.time.position)
  simpa [Point.isAt] using hFilter

theorem perm (h : Chronicle points all) : all.Perm points := by
  classical
  rw [List.perm_iff_count]
  intro p
  have hHere : Point.isAt p.time.position p = true := by simp [Point.isAt]
  rw [← List.count_filter hHere, h.stable, List.count_filter hHere]

/-- Sorted lists that agree at every place are one list. -/
theorem eq_of_filter_eq (hAll : all.Pairwise fun a b => a.time.position ≤ b.time.position)
    (hOthers : others.Pairwise fun a b => a.time.position ≤ b.time.position)
    (hFilter : ∀ place, all.filter (Point.isAt place) = others.filter (Point.isAt place)) :
    all = others := by
  induction all generalizing others with
  | nil =>
      cases others with
      | nil => rfl
      | cons q others =>
          have hHead := hFilter q.time.position
          simp [Point.isAt] at hHead
  | cons p all ih =>
      cases others with
      | nil =>
          have hHead := hFilter p.time.position
          simp [Point.isAt] at hHead
      | cons q others =>
          have hMem : ∀ r, r ∈ p :: all ↔ r ∈ q :: others := fun r => by
            have := congrArg (r ∈ ·) (hFilter r.time.position)
            simpa [Point.isAt] using this
          have hLe : q.time.position ≤ p.time.position := by
            rcases List.mem_cons.mp ((hMem p).mp List.mem_cons_self) with rfl | hIn
            · exact Int.le_refl _
            · exact List.rel_of_pairwise_cons hOthers hIn
          have hGe : p.time.position ≤ q.time.position := by
            rcases List.mem_cons.mp ((hMem q).mpr List.mem_cons_self) with rfl | hIn
            · exact Int.le_refl _
            · exact List.rel_of_pairwise_cons hAll hIn
          have hPlace : p.time.position = q.time.position := Int.le_antisymm hGe hLe
          have hSame : p = q := by
            have hHead := hFilter p.time.position
            simp only [Point.isAt, hPlace, List.filter_cons, beq_self_eq_true, ↓reduceIte,
              List.cons.injEq] at hHead
            exact hHead.1
          subst hSame
          rw [ih hAll.of_cons hOthers.of_cons fun place => ?_]
          have hHead := hFilter place
          simp only [List.filter_cons] at hHead
          split at hHead
          · exact (List.cons.inj hHead).2
          · exact hHead

/-- A list of points has one chronicle. -/
theorem unique (h : Chronicle points all) (h' : Chronicle points others) : all = others :=
  eq_of_filter_eq h.sorted h'.sorted fun place => (h.stable place).trans (h'.stable place).symm

theorem length_eq (h : Chronicle points all) : all.length = points.length := h.perm.length_eq

theorem eq_nil_iff (h : Chronicle points all) : all = [] ↔ points = [] := by
  rw [← List.length_eq_zero_iff, h.length_eq, List.length_eq_zero_iff]

end Chronicle

/-- The points in order of time. -/
def chronological (points : List Point) : List Point :=
  points.mergeSort fun a b => decide (a.time.position ≤ b.time.position)

theorem chronicle_chronological (points : List Point) :
    Chronicle points (chronological points) := by
  have hTrans : ∀ a b c : Point, decide (a.time.position ≤ b.time.position) = true →
      decide (b.time.position ≤ c.time.position) = true →
        decide (a.time.position ≤ c.time.position) = true := by
    intro a b c hab hbc
    simp only [decide_eq_true_eq] at hab hbc ⊢
    omega
  have hTotal : ∀ a b : Point, (decide (a.time.position ≤ b.time.position) ||
      decide (b.time.position ≤ a.time.position)) = true := by
    intro a b
    simp only [Bool.or_eq_true, decide_eq_true_eq]
    omega
  constructor
  · refine (List.pairwise_mergeSort hTrans hTotal points).imp ?_
    intro a b hab
    simpa using hab
  · intro place
    -- The points of one place are sorted as they stand, so sorting keeps them as a sublist.
    have hTies : (points.filter (Point.isAt place)).Pairwise
        fun a b => decide (a.time.position ≤ b.time.position) = true := by
      apply List.pairwise_of_forall_mem_list
      intro a ha b hb
      have hPlaceA := List.of_mem_filter ha
      have hPlaceB := List.of_mem_filter hb
      simp only [Point.isAt, beq_iff_eq] at hPlaceA hPlaceB
      simp [hPlaceA, hPlaceB]
    have hSub := (List.sublist_mergeSort hTrans hTotal hTies List.filter_sublist).filter
      (Point.isAt place)
    rw [List.filter_filter] at hSub
    simp only [Bool.and_self] at hSub
    refine (hSub.eq_of_length ?_).symm
    exact (((List.mergeSort_perm points _).filter _).length_eq).symm

end Rollup
