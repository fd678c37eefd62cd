import Mathlib
import Rollup.Proofs.Dashboard.Completeness
import Rollup.Proofs.Dashboard.Degradation
import Rollup.Proofs.Series.Bare

/-!
Heatmaps beside series. Over a store that does not change, the heatmap of a window draws the rows of
its series, and nothing where other rows stand in for them. So a dashboard draws its day point by
point if the store holds rows of the day, and leaves the heatmap empty if it holds none.
-/
namespace Rollup

open Program

/-- The cell has the time of the point and those of its values that a heatmap draws. -/
structure HeatmapCell.Draws (cell : HeatmapCell) (p : Point) : Prop where
  time : cell.time = p.time
  cpuMean : cell.cpuMean = p.readings.mean.cpu
  memoryMean : cell.memoryMean = p.readings.mean.memory
  diskMean : cell.diskMean = p.readings.mean.disk
  cpuPeak : cell.cpuPeak = p.readings.peak.cpu
  memoryPeak : cell.memoryPeak = p.readings.peak.memory
  diskPeak : cell.diskPeak = p.readings.peak.disk
  samples : cell.samples = p.readings.samples

/-- A heatmap has a cell for each point, in their order. -/
theorem heatmap_draws (points : List Point) :
    List.Forall₂ HeatmapCell.Draws (heatmap points) points := by
  rw [heatmap, List.forall₂_map_left_iff, List.forall₂_same]
  exact fun p _ => ⟨rfl, rfl, rfl, rfl, rfl, rfl, rfl, rfl⟩

theorem heatmap_stripped (series : Series) :
    heatmap series.stripped.points =
      if series.notice = none then heatmap series.points else [] := by
  rw [Series.points_stripped]
  split <;> rfl

namespace Dashboard

variable {policy : Policy} {server : String} {store : Store} {window : Window} {κ : Type}
  {clock : κ → Except Failure Timestamp × κ} {hand : κ} {exchanges : List Exchange}
  {seen : List (Except Failure Timestamp)} {found : Required} {view : Dashboard}

/-- The dashboard shows a day as the store holds it. If there are rows of the day, it has no message,
its points are the oldest of them, and its cells draw these. If there are none, it has a message and
no cells; this is so exactly if it has no points or other rows stand in. -/
structure MatchesDay (policy : Policy) (server : String) (store : Store) (window : Window)
    (view : Dashboard) : Prop where
  tier_eq : view.day.tier = .tenMinutes
  silent_iff : view.message = none ↔ store.held (policy.source .tenMinutes) server window ≠ []
  drawn : store.held (policy.source .tenMinutes) server window ≠ [] →
    view.day.points.map .ok =
        (store.held (policy.source .tenMinutes) server window).take policy.rowCap ∧
      List.Forall₂ HeatmapCell.Draws view.cells view.day.points
  empty : store.held (policy.source .tenMinutes) server window = [] → view.cells = []
  empty_iff : store.held (policy.source .tenMinutes) server window = [] ↔
    view.day.points = [] ∨ view.day.notice = some .substituted

/-- A heatmap that was read is the one that the dashboard has. -/
theorem Required.exists_view_of_heatmap {σ : Type} {backend : Backend σ} {state : σ}
    {cells : List HeatmapCell}
    (hCells : ((Series.heatmap policy server found.window).run backend state).result = .ok cells)
    (hView : ((Required.finish policy server found).run backend state).result = .ok view) :
    ∃ updated, view = found.view server (.ok cells) updated := by
  rw [finish_eq, result_bind, result_attempt, hCells] at hView
  simp only [result_clock] at hView
  split at hView
  · rename_i updated _
    exact ⟨updated, (Except.ok.inj hView).symm⟩
  · cases hView

/-- Over a store that answers the questions of a series and those of a heatmap as it would answer them
first, the heatmap draws what the window shows by itself. -/
theorem heatmap_of_course {σ : Type} {backend : Backend σ} {state : σ} {tier : Tier}
    {allowed : Bool} {series : Series} (hWindow : window.Comparable)
    (hTier : tier.IsMeant none window)
    (course : Series.Course policy server window tier allowed exchanges (.ok series))
    (hAnswers : ∀ exchange ∈ exchanges, exchange.answer = (store.answer exchange.question).1)
    (hCells : ∀ exchange ∈ (Series.heatmap policy server window).transcript backend state,
      exchange.answer = (store.answer exchange.question).1) :
    ((Series.heatmap policy server window).run backend state).result =
      .ok (if series.notice = none then heatmap series.points else []) := by
  let answers (question : Read) : Except Failure question.Answer := (store.answer question).1
  have courseBare : Series.Course policy server window tier false _ _ :=
    Series.course_run hWindow hTier backend state
  rw [heatmap_eq, transcript_map] at hCells
  have hBare : ((Series.read policy server window none false).run backend state).result =
      .ok series.stripped := by
    rw [courseBare.eq_bare answers hCells]
    exact course.bare_eq answers hAnswers
  rw [result_heatmap, hBare, ← heatmap_stripped]
  rfl

/-- A heatmap of the points of a day that says nothing about itself, and of no points of any other
day, matches what the store holds. -/
theorem matchesDay_view (hSound : store.Sound) (hDay : found.window.IsDay)
    (course : Series.Course policy server found.window .tenMinutes policy.substitutes exchanges
      (.ok found.day))
    (hAnswers : ∀ exchange ∈ exchanges, exchange.answer = (store.answer exchange.question).1)
    (updated : Timestamp) :
    MatchesDay policy server store found.window
      (found.view server
        (.ok (if found.day.notice = none then heatmap found.day.points else [])) updated) := by
  have hOpen : found.window.start.position < found.window.stop.position := by
    have hStop := hDay.stop_eq
    have hLong : 0 < Rollup.day := by decide
    omega
  have hNotice : found.day.notice = none ↔
      store.held (policy.source .tenMinutes) server found.window ≠ [] :=
    course.notice_eq_none_iff hSound hAnswers hOpen
  refine ⟨course.tier_eq, ?_, ?_, ?_, ?_⟩
  · rw [message_view_ok, Option.map_eq_none_iff, hNotice]
  · intro hHeld
    have hNone := hNotice.mpr hHeld
    refine ⟨course.points_eq hSound (fun answer hMem => hAnswers _ hMem) hNone, ?_⟩
    rw [if_pos hNone]
    exact heatmap_draws found.day.points
  · intro hHeld
    have hSome : found.day.notice ≠ none := fun hNone => hNotice.mp hNone hHeld
    exact if_neg hSome
  · have hEmpty : store.held (policy.source .tenMinutes) server found.window = [] ↔
        found.day.notice ≠ none := by
      rw [ne_eq, hNotice, not_not]
    change _ ↔ found.day.points = [] ∨ found.day.notice = some .substituted
    rw [hEmpty, ← course.notice_eq_noData_iff]
    rcases found.day.notice with _ | _ | _ <;> simp

/-- Over a store that does not change, every dashboard shows its day as the store holds it. -/
theorem matchesDay_of_read (hReach : store.Reachable)
    (hView : ((Dashboard.read policy server).run (Store.backend clock) (store, hand)).result =
      .ok view) :
    ∃ window : Window, (clock hand).1 = .ok window.stop ∧ window.IsDay ∧
      MatchesDay policy server store window view := by
  have hAnswers : ∀ exchange ∈
      (Dashboard.read policy server).transcript (Store.backend clock) (store, hand),
        exchange.answer = (store.answer exchange.question).1 :=
    hReach.sound.answer_of_mem_transcript _
  rw [transcript_eq] at hAnswers
  rw [read_eq, result_bind] at hView
  cases hFound : ((Required.read policy server).run (Store.backend clock) (store, hand)).result with
  | error failure =>
      rw [hFound] at hView
      cases hView
  | ok found =>
      rw [hFound] at hView
      have course := Required.course_read (Required.isDay_of_mem_looks hFound)
      rw [hFound] at course
      obtain ⟨hSeen, hDay, day, hReads, hCourse⟩ := course.exists_day
      have hDayAnswers : ∀ exchange ∈ day,
          exchange.answer = (store.answer exchange.question).1 := by
        intro exchange hMem
        apply hAnswers
        rw [requiredReads, hReads]
        exact List.mem_append_left _ (List.mem_cons_of_mem _ hMem)
      have hCells := heatmap_of_course hDay.comparable hDay.isMeant hCourse hDayAnswers
        fun exchange hMem => hAnswers exchange (List.mem_append_right _ (by
          rw [cellReads]
          simp only [hFound]
          exact hMem))
      obtain ⟨updated, rfl⟩ := Required.exists_view_of_heatmap hCells hView
      have hLook : ∀ reading ∈
          ((Required.read policy server).looks (Store.backend clock) (store, hand)).head?,
            reading = (clock hand).1 := Store.head?_looks_backend _
      rw [hSeen] at hLook
      exact ⟨found.window, (hLook _ rfl).symm, hDay,
        matchesDay_view hReach.sound hDay hCourse hDayAnswers updated⟩

/-- Over a store that does not change, the heatmap of every window draws the points of its series, and
nothing if the series says something about itself. A series that is never failed by the store fails
only for a window whose ends have no order, and there the heatmap fails too. So every dashboard shows
its day as the store holds it. -/
theorem cells_follow_series (policy : Policy) (server : String) (hReach : store.Reachable)
    (clock : κ → Except Failure Timestamp × κ) (hand : κ) :
    let backend := Store.backend clock
    let series (window : Window) := Series.read policy server window none policy.substitutes
    let cells (window : Window) := Series.heatmap policy server window
    (∀ window found, ((series window).run backend (store, hand)).result = .ok found →
      ((cells window).run backend (store, hand)).result =
        .ok (if found.notice = none then heatmap found.points else [])) ∧
    (∀ window, window.Comparable →
      (∀ exchange ∈ (series window).transcript backend (store, hand), ¬exchange.Failed) →
        ∃ found, ((series window).run backend (store, hand)).result = .ok found) ∧
    (∀ window, ¬window.Comparable →
      ((series window).run backend (store, hand)).result =
          .error (.arithmetic .mixedDifference) ∧
        ((cells window).run backend (store, hand)).result =
          .error (.arithmetic .mixedDifference)) ∧
    ∀ view,
      ((Dashboard.read policy server).run backend (store, hand)).result = .ok view →
        ∃ window : Window, (clock hand).1 = .ok window.stop ∧ window.IsDay ∧
          MatchesDay policy server store window view := by
  intro backend series cells
  have hMixed : ∀ window, ¬window.Comparable →
      ((series window).run backend (store, hand)).result =
        .error (.arithmetic .mixedDifference) := by
    intro window hWindow
    change ((Series.read policy server window none policy.substitutes).run _ _).result = _
    rw [Series.read_of_mixed hWindow]
    rfl
  have hTier : ∀ window : Window,
      (Tier.forSpan (window.stop.position - window.start.position)).IsMeant none window :=
    fun window => rfl
  have hCourse : ∀ window, window.Comparable →
      Series.Course policy server window _ policy.substitutes
        ((series window).transcript backend (store, hand))
        ((series window).run backend (store, hand)).result :=
    fun window hWindow => Series.course_run hWindow (hTier window) backend (store, hand)
  refine ⟨?_, ?_, ?_, fun view hView => matchesDay_of_read hReach hView⟩
  · intro window found hFound
    by_cases hWindow : window.Comparable
    · have course := hCourse window hWindow
      rw [hFound] at course
      exact heatmap_of_course hWindow (hTier window) course
        (hReach.sound.answer_of_mem_transcript _) (hReach.sound.answer_of_mem_transcript _)
    · rw [hMixed window hWindow] at hFound
      cases hFound
  · intro window hWindow hAnswered
    obtain ⟨found, hFound, -⟩ := (hCourse window hWindow).answered hAnswered
    exact ⟨found, hFound⟩
  · intro window hWindow
    refine ⟨hMixed window hWindow, ?_⟩
    rw [result_heatmap, Series.read_of_mixed hWindow]
    rfl

/-- A database in memory with a current point and a point from before the last day. -/
def staleRow : Store :=
  (Store.database (.new .memory ["metrics_1m_avg", "metrics_10m_avg"])).load [
    ⟨"metrics_1m_avg", "web-1", [⟨Window.oneDay.stop, .zero⟩]⟩,
    ⟨"metrics_10m_avg", "web-1", [⟨.universal (737998 * Rollup.day), .zero⟩]⟩]

theorem reachable_staleRow : staleRow.Reachable :=
  ⟨.memory, ["metrics_1m_avg", "metrics_10m_avg"], [
    .write ⟨"metrics_1m_avg", "web-1", [⟨Window.oneDay.stop, .zero⟩]⟩,
    .write ⟨"metrics_10m_avg", "web-1", [⟨.universal (737998 * Rollup.day), .zero⟩]⟩],
    rfl⟩

/-- By the usual policy the old point stands in for the day, and the heatmap leaves it out. -/
theorem cells_follow_series_stale :
    staleRow.Reachable ∧
      (∃ found, ((Series.read .usual "web-1" .oneDay none true).run
          (Store.backend endOfDay) (staleRow, ())).result = .ok found ∧
        found.notice = some .substituted ∧
          ((Series.heatmap .usual "web-1" .oneDay).run
            (Store.backend endOfDay) (staleRow, ())).result = .ok []) ∧
      ∃ view, ((Dashboard.read .usual "web-1").run
          (Store.backend endOfDay) (staleRow, ())).result = .ok view ∧
        ∃ window : Window, (endOfDay ()).1 = .ok window.stop ∧ window.IsDay ∧
          MatchesDay .usual "web-1" staleRow window view := by
  obtain ⟨hCells, -, -, hViews⟩ :=
    cells_follow_series .usual "web-1" reachable_staleRow endOfDay ()
  exact ⟨reachable_staleRow, ⟨_, rfl, rfl, hCells .oneDay _ rfl⟩, _, rfl, hViews _ rfl⟩

end Dashboard
end Rollup
