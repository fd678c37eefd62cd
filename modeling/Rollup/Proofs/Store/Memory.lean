import Mathlib
import Rollup.Proofs.Store.Chronicle

/-!
The reads of a store in memory, for points and windows that are aware of their offset. Each read is
a part of the chronicle of what was written, and none fails.
-/
namespace Rollup

/-- Both ends of a window are aware of their offset. -/
structure Window.Aware (window : Window) : Prop where
  start : window.start.isAware = true
  stop : window.stop.isAware = true

theorem Window.Aware.comparable {window : Window} (h : window.Aware) : window.Comparable :=
  h.start.trans h.stop.symm

theorem Window.mem_holds {window : Window} {p : Point} :
    window.holds p = true ↔
      window.start.position ≤ p.time.position ∧ p.time.position ≤ window.stop.position := by
  simp [holds]

namespace Memory

variable {m : Memory} {source server : String} {window : Window} {points : List Point}

theorem byTime_eq (hPoints : AllAware points) : byTime points = .ok (chronological points) := by
  have hAll : (points.all fun p => p.time.isAware) = true := by
    rw [List.all_eq_true]
    exact hPoints
  simp [byTime, hAll, chronological]

theorem within_eq (hWindow : window.Aware) {p : Point} (hPoint : p.time.isAware = true) :
    within window p.time = .ok (window.holds p) := by
  have hStart := Timestamp.notAfter_eq (hWindow.start.trans hPoint.symm)
  have hStop := Timestamp.notAfter_eq (hPoint.trans hWindow.stop.symm)
  by_cases hFrom : window.start.position ≤ p.time.position <;>
    simp [within, hStart, hStop, hFrom, Window.holds, bind, Except.bind, pure, Except.pure]

/-- A filter whose test never fails, with what it kept so far. -/
theorem filterAuxM_ok {test : Point → Except Failure Bool} {keep : Point → Bool}
    (h : ∀ p ∈ points, test p = .ok (keep p)) (kept : List Point) :
    points.filterAuxM test kept = .ok ((points.filter keep).reverse ++ kept) := by
  induction points generalizing kept with
  | nil => rfl
  | cons p points ih =>
      rw [List.filterAuxM, h p List.mem_cons_self]
      change points.filterAuxM test (cond (keep p) (p :: kept) kept) = _
      rw [ih (fun q hMem => h q (List.mem_cons_of_mem _ hMem)), List.filter_cons]
      cases keep p <;> simp

theorem inWindow_eq (hWindow : window.Aware) (hPoints : AllAware points) :
    inWindow window points = .ok (points.filter window.holds) := by
  have hTest : ∀ p ∈ points, within window p.time = .ok (window.holds p) :=
    fun p hMem => within_eq hWindow (hPoints p hMem)
  rw [inWindow, List.filterM, filterAuxM_ok hTest]
  simp [bind, Except.bind, pure, Except.pure]

/-- The points of a server of a source in order of time. -/
def chronicle (m : Memory) (source server : String) : List Point :=
  chronological (m.written source server)

/-- What was written for a server of a source is aware of its offset. -/
def Aware (m : Memory) (source server : String) : Prop := AllAware (m.written source server)

theorem allAware_chronicle (h : m.Aware source server) : AllAware (m.chronicle source server) :=
  fun p hMem => h p ((chronicle_chronological _).mem_iff.mp hMem)

theorem read_range (h : m.Aware source server) (hWindow : window.Aware) (limit : Int) :
    m.read (.range source server window limit) =
      .ok (firstPoints limit ((m.chronicle source server).filter window.holds)) := by
  simp only [read, byTime_eq h]
  change (inWindow window (m.chronicle source server) >>= fun points =>
    .ok (firstPoints limit points)) = _
  rw [inWindow_eq hWindow (allAware_chronicle h)]
  rfl

theorem read_count (h : m.Aware source server) (hWindow : window.Aware) :
    m.read (.count source server window) =
      .ok (((m.chronicle source server).filter window.holds).length : Int) := by
  simp only [read, byTime_eq h]
  change (inWindow window (m.chronicle source server) >>= fun points =>
    .ok (points.length : Int)) = _
  rw [inWindow_eq hWindow (allAware_chronicle h)]
  rfl

theorem read_latest (h : m.Aware source server) :
    m.read (.latest source server) = .ok (m.chronicle source server).getLast? := by
  simp only [read, byTime_eq h]
  rfl

theorem read_recent (h : m.Aware source server) (limit : Int) :
    m.read (.recent source server limit) =
      .ok (lastPoints limit (m.chronicle source server)) := by
  simp only [read, byTime_eq h]
  rfl

/-- A positive limit takes points from the start. -/
theorem firstPoints_natCast (limit : Nat) (points : List Point) :
    firstPoints limit points = points.take limit := by
  simp [firstPoints]

/-- A positive limit takes points at the end. -/
theorem lastPoints_natCast {limit : Nat} (hLimit : 0 < limit) (points : List Point) :
    lastPoints limit points = points.drop (points.length - limit) := by
  simp [lastPoints, hLimit]

end Memory
end Rollup
