import Mathlib
import Rollup.Proofs.Program.Contract
import Rollup.Proofs.Series.Course
import Rollup.Proofs.Store.Held

/-!
The read of a series in whose place nothing may stand in. Over a store in memory it is told by what
the store holds inside the window, in the source of the tier for its length, and by nothing else.
-/
namespace Rollup

@[simp] theorem chronological_nil : chronological [] = [] := List.mergeSort_nil

theorem chronological_filter (keep : Point → Bool) (points : List Point) :
    chronological (points.filter keep) = (chronological points).filter keep := by
  have hAll := chronicle_chronological points
  refine (chronicle_chronological _).unique ⟨hAll.sorted.filter keep, fun place => ?_⟩
  rw [List.filter_comm, hAll.stable, List.filter_comm]

namespace Memory

variable {m m' : Memory} {source server : String} {window : Window} {points : List Point}

/-- The points of a server inside a window, in the order of writing: those that the window holds. A
window that does not reach past its start has none inside. One without offset has no order with a
point that knows its own, which leaves the question open unless there are no points. -/
def inside (m : Memory) (source server : String) (window : Window) : Except Failure (List Point) :=
  if window.stop.position ≤ window.start.position then .ok []
  else if window.start.isAware then .ok ((m.written source server).filter window.holds)
  else if (m.written source server).isEmpty then .ok []
  else .error (.arithmetic .mixedComparison)

/-- A point that knows its offset has no order with a window that does not. -/
theorem inWindow_of_naive (hWindow : window.start.isAware = false) (hPoints : AllAware points)
    (hSome : points ≠ []) : inWindow window points = .error (.arithmetic .mixedComparison) := by
  obtain ⟨p, points, rfl⟩ := List.exists_cons_of_ne_nil hSome
  have hPoint : p.time.isAware = true := hPoints p List.mem_cons_self
  have hTest : within window p.time = .error (.arithmetic .mixedComparison) := by
    simp [within, Timestamp.notAfter, Timestamp.le?, hWindow, hPoint, bind, Except.bind]
  rw [inWindow, List.filterM, List.filterAuxM, hTest]
  rfl

theorem inside_of_closed (hWindow : window.stop.position ≤ window.start.position) :
    m.inside source server window = .ok [] := if_pos hWindow

theorem exists_inside (m : Memory) (source server : String) (hWindow : window.Aware) :
    ∃ points, m.inside source server window = .ok points := by
  rw [inside, if_pos hWindow.start]
  split <;> exact ⟨_, rfl⟩

/-- The points inside a window that reaches past its start are those that pass the test of the store.
-/
theorem inside_of_open (hWindow : window.Comparable) (h : m.Aware source server)
    (hOpen : ¬window.stop.position ≤ window.start.position) :
    m.inside source server window = inWindow window (m.written source server) := by
  rw [inside, if_neg hOpen]
  cases hAware : window.start.isAware with
  | true => exact (inWindow_eq ⟨hAware, hWindow.symm.trans hAware⟩ h).symm
  | false =>
      rw [if_neg Bool.false_ne_true]
      split
      · rename_i hNone
        rw [List.isEmpty_iff.mp hNone]
        rfl
      · rename_i hSome
        exact (inWindow_of_naive hAware h (List.isEmpty_iff.not.mp hSome)).symm

/-- It is all the same whether points are put in order before or after those outside are left out.
-/
theorem inWindow_chronological (hWindow : window.Comparable) (hPoints : AllAware points) :
    inWindow window (chronological points) = chronological <$> inWindow window points := by
  have hAll := chronicle_chronological points
  have hSorted : AllAware (chronological points) := fun p hMem => hPoints p (hAll.mem_iff.mp hMem)
  cases hAware : window.start.isAware with
  | true =>
      have hBoth : window.Aware := ⟨hAware, hWindow.symm.trans hAware⟩
      rw [inWindow_eq hBoth hSorted, inWindow_eq hBoth hPoints, ← chronological_filter]
      rfl
  | false =>
      by_cases hNone : points = []
      · rw [hNone, chronological_nil]
        exact congrArg Except.ok chronological_nil.symm
      · rw [inWindow_of_naive hAware hSorted (hAll.eq_nil_iff.not.mpr hNone),
          inWindow_of_naive hAware hPoints hNone]
        rfl

/-- A count tells how many points are inside. -/
theorem read_count_inWindow (hWindow : window.Comparable) (h : m.Aware source server) :
    m.read (.count source server window) =
      (fun points => (points.length : Int)) <$> inWindow window (m.written source server) := by
  simp only [read, byTime_eq h]
  change (inWindow window (chronological (m.written source server)) >>= fun points =>
    .ok (points.length : Int)) = _
  rw [inWindow_chronological hWindow h]
  cases inWindow window (m.written source server) with
  | error failure => rfl
  | ok points =>
      have hLength := (chronicle_chronological points).length_eq
      exact congrArg (fun length : Nat => Except.ok (length : Int)) hLength

/-- A limited read gives the oldest points inside. -/
theorem read_range_inWindow (hWindow : window.Comparable) (h : m.Aware source server)
    (limit : Nat) :
    m.read (.range source server window limit) =
      (fun points => (chronological points).take limit) <$>
        inWindow window (m.written source server) := by
  simp only [read, byTime_eq h]
  change (inWindow window (chronological (m.written source server)) >>= fun points =>
    .ok (firstPoints limit points)) = _
  rw [inWindow_chronological hWindow h]
  cases inWindow window (m.written source server) with
  | error failure => rfl
  | ok points => exact congrArg Except.ok (firstPoints_natCast limit _)

end Memory

namespace Series

open Program

variable (policy : Policy) (server : String) (window : Window)

/-- The series of the oldest points of a window. -/
def oldest (tier : Tier) (all : List Point) : Series :=
  if all.isEmpty then standIn server window tier []
  else ⟨server, window, tier, all.take policy.rowCap, none, decide (policy.rowCap < all.length)⟩

/-- The series that is told by what a store in memory holds inside a window. -/
def confined (m : Memory) : Except Failure Series :=
  match tierFor none server window with
  | .error failure => .error failure
  | .ok tier =>
    match m.inside (policy.source tier) server window with
    | .error failure => .error (asSeen (countQuestion policy server window tier) failure)
    | .ok points => .ok (oldest policy server window tier (chronological points))

/-- The stores hold the same points inside a window, written in the same order, in the source of the
tier for its length. -/
def SameInside (m m' : Memory) : Prop :=
  ∀ tier, tierFor none server window = .ok tier →
    m.inside (policy.source tier) server window = m'.inside (policy.source tier) server window

/-- Questions are answered as a store in memory does, and none is for recent points. -/
def confinement (m : Memory) : Terms where
  may question := question.kind ≠ .recent
  told exchange := exchange.answer = m.read exchange.question

variable {policy server window} {m m' : Memory} {tier : Tier}

theorem confined_congr (h : SameInside policy server window m m') :
    confined policy server window m = confined policy server window m' := by
  rw [confined, confined]
  cases hTier : tierFor none server window with
  | error failure => rfl
  | ok tier =>
      simp only [h tier hTier]

@[simp] theorem oldest_points (tier : Tier) (all : List Point) :
    (oldest policy server window tier all).points = all.take policy.rowCap := by
  rw [oldest]
  split
  · rename_i hNone
    rw [List.isEmpty_iff.mp hNone, List.take_nil]
    rfl
  · rfl

@[simp] theorem oldest_tier (tier : Tier) (all : List Point) :
    (oldest policy server window tier all).tier = tier := by
  rw [oldest]
  split <;> rfl

@[simp] theorem oldest_server (tier : Tier) (all : List Point) :
    (oldest policy server window tier all).server = server := by
  rw [oldest]
  split <;> rfl

@[simp] theorem oldest_window (tier : Tier) (all : List Point) :
    (oldest policy server window tier all).window = window := by
  rw [oldest]
  split <;> rfl

theorem oldest_of_ne_nil {all : List Point} (h : all ≠ []) :
    oldest policy server window tier all =
      ⟨server, window, tier, all.take policy.rowCap, none,
        decide (((all.take policy.rowCap).length : Int) < all.length)⟩ := by
  rw [oldest, if_neg (by simpa using h)]
  congr 1
  rw [decide_eq_decide, List.length_take]
  omega

/-- Such a series shows the oldest points inside its window, up to the cap. -/
structure ShowsOldest (policy : Policy) (server : String) (window : Window) (m : Memory)
    (series : Series) : Prop where
  tier : tierFor none server window = .ok series.tier
  points : ∃ inside all, m.inside (policy.source series.tier) server window = .ok inside ∧
    Chronicle inside all ∧ series.points = all.take policy.rowCap
  server : series.server = server
  window : series.window = window

theorem showsOldest_of_confined {series : Series}
    (h : confined policy server window m = .ok series) :
    ShowsOldest policy server window m series := by
  rw [confined] at h
  split at h
  · cases h
  rename_i tier hTier
  split at h
  · cases h
  rename_i inside hInside
  cases h
  refine ⟨?_, ⟨inside, _, ?_, chronicle_chronological inside, oldest_points tier _⟩,
    oldest_server tier _, oldest_window tier _⟩
  · rw [oldest_tier, hTier]
  · rw [oldest_tier, hInside]

/-- Where the ends of the window know their offsets, there is a series. -/
theorem exists_confined (policy : Policy) (server : String) (m : Memory) (hWindow : window.Aware) :
    ∃ series, confined policy server window m = .ok series := by
  obtain ⟨tier, hTier⟩ : ∃ tier, tierFor none server window = .ok tier := by
    rw [tierFor, Timestamp.minus_eq hWindow.comparable.symm]
    exact ⟨_, rfl⟩
  obtain ⟨inside, hInside⟩ := m.exists_inside (policy.source tier) server hWindow
  simp only [confined, hTier, hInside, Except.ok.injEq, exists_eq']

/-- A window that has a tier for its length has its ends on one time line. -/
theorem comparable_of_tierFor (hTier : tierFor none server window = .ok tier) :
    window.Comparable := by
  by_contra hMixed
  rw [tierFor, Timestamp.minus, Timestamp.gap?, if_neg (Ne.symm hMixed)] at hTier
  cases hTier

/-- The read of a series asks for nothing recent, and its series is told by what lies inside. -/
theorem keeps_confined (hAware : ∀ source, m.Aware source server) :
    (Series.read policy server window none false).Keeps (confinement m)
      fun result => result = confined policy server window m := by
  refine Keeps.lift_bind ?_ fun failure hTier => by rw [confined, hTier]
  intro tier hTier
  have hWindow := comparable_of_tierFor hTier
  rw [Timestamp.notAfter_eq hWindow.symm]
  refine Keeps.lift_bind ?_ fun failure hOrder => nomatch hOrder
  intro closed hOrder
  have hClosed := Except.ok.inj hOrder
  simp only [confined, hTier]
  cases closed with
  | true =>
      rw [Memory.inside_of_closed (of_decide_eq_true hClosed)]
      exact congrArg (fun all => Except.ok (oldest policy server window tier all))
        chronological_nil.symm
  | false =>
      have hCount := Memory.read_count_inWindow hWindow (hAware (policy.source tier))
      have hRange := Memory.read_range_inWindow hWindow (hAware (policy.source tier)) policy.rowCap
      rw [Memory.inside_of_open hWindow (hAware _) (of_decide_eq_false hClosed)]
      generalize Memory.inWindow window (m.written (policy.source tier) server) = inside
        at hCount hRange
      refine Keeps.ask_bind nofun ?_ ?_
      · intro count hTold
        cases inside with
        | error failure => exact nomatch hTold.trans hCount
        | ok points =>
            have hLength : count = points.length := Except.ok.inj (hTold.trans hCount)
            have hAll := chronicle_chronological points
            by_cases hNone : points = []
            · subst hLength hNone
              exact congrArg (fun all => Except.ok (oldest policy server window tier all))
                chronological_nil.symm
            have hSome : ¬count = 0 := by
              rw [hLength, Int.natCast_eq_zero, List.length_eq_zero_iff]
              exact hNone
            have hShown : chronological points ≠ [] := hAll.eq_nil_iff.not.mpr hNone
            rw [if_neg hSome]
            refine Keeps.ask_bind nofun ?_ fun failure hTold => nomatch hTold.trans hRange
            intro shown hTold
            have hOldest : shown = (chronological points).take policy.rowCap :=
              Except.ok.inj (hTold.trans hRange)
            have hFilled : shown.isEmpty = false := by
              have hCap := policy.rowCap_pos
              rw [List.isEmpty_eq_false_iff, hOldest, Ne, List.take_eq_nil_iff]
              exact not_or.mpr ⟨by omega, hShown⟩
            rw [hFilled]
            change Except.ok _ = Except.ok (oldest _ _ _ _ _)
            rw [oldest_of_ne_nil hShown, hLength, ← hAll.length_eq, hOldest]
      · intro failure hTold
        cases inside with
        | error cause =>
            cases hTold.trans hCount
            rfl
        | ok points => exact nomatch hTold.trans hCount

end Series

end Rollup
