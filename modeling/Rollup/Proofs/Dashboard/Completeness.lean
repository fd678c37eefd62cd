import Mathlib
import Rollup.Proofs.Dashboard.Required
import Rollup.Proofs.Series.Completeness

/-!
Dashboards without a message. Their day is read from the rows that the store holds and nothing stands
in for them, but the cap may cut the day short, of which a dashboard says nothing.
-/
namespace Rollup.Dashboard

open Program

variable {policy : Policy} {server : String} {store : Store} {exchanges : List Exchange}
  {seen : List (Except Failure Timestamp)} {found : Required} {view : Dashboard}

namespace Required

/-- A dashboard says what its day has to say. -/
theorem notice_eq_none {cells : Except Failure (List HeatmapCell)} {updated : Timestamp}
    (h : (found.view server cells updated).message = none) : found.day.notice = none := by
  cases cells with
  | error failure => simp [message, Required.view] at h
  | ok cells =>
      cases hNotice : found.day.notice with
      | none => rfl
      | some notice => simp [message, Required.view, hNotice] at h

/-- Whatever becomes of the heatmap, the dashboard is made of what was required. -/
theorem exists_view_of_finish {σ : Type} {backend : Backend σ} {state : σ}
    (h : ((Required.finish policy server found).run backend state).result = .ok view) :
    ∃ cells updated, view = found.view server cells updated := by
  rw [finish_eq, result_bind] at h
  split at h
  · rename_i cells hCells
    rw [result_clock] at h
    split at h
    · rename_i updated hUpdated
      exact ⟨cells, updated, (Except.ok.inj h).symm⟩
    · cases h
  · cases h

/-- A day without a notice shows the oldest rows that the store holds of it. -/
theorem Course.points_eq (course : Required.Course policy server exchanges seen (.ok found))
    (h : store.Sound)
    (hAnswers : ∀ exchange ∈ exchanges, exchange.answer = (store.answer exchange.question).1)
    (hNotice : found.day.notice = none) :
    seen = [.ok found.window.stop] ∧ found.window.IsDay ∧ found.day.points.map .ok =
      (store.held (policy.source .tenMinutes) server found.window).take policy.rowCap := by
  obtain ⟨hSeen, hDay, day, rfl, follow⟩ := course.exists_day
  refine ⟨hSeen, hDay, follow.points_eq h ?_ hNotice⟩
  exact fun answer hMem => hAnswers _ (List.mem_cons_of_mem _ hMem)

end Required

/-- A dashboard without a message shows the oldest rows of the day up to the time on the clock, as
many as the cap allows. So it is complete exactly if the cap allows all of them. -/
theorem silent_complete_iff (policy : Policy) (server : String) (hReach : store.Reachable) {κ : Type}
    (clock : κ → Except Failure Timestamp × κ) (hand : κ)
    (hResult : ((Dashboard.read policy server).run (Store.backend clock) (store, hand)).result =
      .ok view)
    (hSilent : view.message = none) :
    ∃ window : Window, (clock hand).1 = .ok window.stop ∧ window.IsDay ∧
      let rows := store.held (policy.source .tenMinutes) server window
      view.day.points.map .ok = rows.take policy.rowCap ∧
        view.trend = Rollup.trend view.day.points ∧
          (List.Subperm rows (view.day.points.map .ok) ↔ rows.length ≤ policy.rowCap) := by
  rw [read_eq, result_bind] at hResult
  cases hFound : ((Required.read policy server).run (Store.backend clock) (store, hand)).result with
  | error failure =>
      rw [hFound] at hResult
      cases hResult
  | ok found =>
      rw [hFound] at hResult
      obtain ⟨cells, updated, rfl⟩ := Required.exists_view_of_finish hResult
      have course := Required.course_read (Required.isDay_of_mem_looks hFound)
      rw [hFound] at course
      obtain ⟨hSeen, hDay, hPoints⟩ := course.points_eq hReach.sound
        (hReach.sound.answer_of_mem_transcript _) (Required.notice_eq_none hSilent)
      have hLook : ∀ reading ∈
          ((Required.read policy server).looks (Store.backend clock) (store, hand)).head?,
            reading = (clock hand).1 := Store.head?_looks_backend _
      rw [hSeen] at hLook
      have hView : (found.view server cells updated).day = found.day ∧
          (found.view server cells updated).trend = Rollup.trend found.day.points := by
        cases cells <;> exact ⟨rfl, rfl⟩
      rw [hView.1, hView.2]
      refine ⟨found.window, (hLook _ rfl).symm, hDay, hPoints, rfl, ?_⟩
      rw [hPoints]
      exact subperm_take_iff

/-- A database in memory with a current point and two points of the last day. -/
def twoRows : Store :=
  (Store.database (.new .memory ["metrics_1m_avg", "metrics_10m_avg"])).load [
    ⟨"metrics_1m_avg", "web-1", [⟨Window.oneDay.stop, .zero⟩]⟩,
    ⟨"metrics_10m_avg", "web-1", [⟨Window.oneDay.start, .zero⟩, ⟨Window.oneDay.stop, .zero⟩]⟩]

theorem reachable_twoRows : twoRows.Reachable :=
  ⟨.memory, ["metrics_1m_avg", "metrics_10m_avg"], [
    .write ⟨"metrics_1m_avg", "web-1", [⟨Window.oneDay.stop, .zero⟩]⟩,
    .write ⟨"metrics_10m_avg", "web-1", [⟨Window.oneDay.start, .zero⟩, ⟨Window.oneDay.stop, .zero⟩]⟩],
    rfl⟩

/-- A clock that stands at the end of the day. -/
def endOfDay (hand : Unit) : Except Failure Timestamp × Unit := (.ok Window.oneDay.stop, hand)

/-- By the usual policy the dashboard has no message, and both points of the day are there. -/
theorem silent_complete_iff_usual :
    twoRows.Reachable ∧ ∃ view : Dashboard,
      ((Dashboard.read .usual "web-1").run (Store.backend endOfDay) (twoRows, ())).result = .ok view ∧
        view.message = none ∧
          ∃ window : Window, (endOfDay ()).1 = .ok window.stop ∧ window.IsDay ∧
            let rows := twoRows.held "metrics_10m_avg" "web-1" window
            view.day.points.map .ok = rows.take Policy.usual.rowCap ∧
              view.trend = Rollup.trend view.day.points ∧
                (List.Subperm rows (view.day.points.map .ok) ↔ rows.length ≤ Policy.usual.rowCap) :=
  ⟨reachable_twoRows, _, rfl, rfl,
    silent_complete_iff .usual "web-1" reachable_twoRows endOfDay () rfl rfl⟩

/-- With a cap of one row the dashboard has no message either, and the second point is missing. -/
theorem not_silent_complete_oneRow :
    twoRows.Reachable ∧ (endOfDay ()).1 = .ok Window.oneDay.stop ∧ Window.oneDay.IsDay ∧
      ∃ view : Dashboard,
        ((Dashboard.read .oneRow "web-1").run (Store.backend endOfDay) (twoRows, ())).result =
            .ok view ∧
          view.message = none ∧
            ¬twoRows.held "metrics_10m_avg" "web-1" .oneDay ⊆ view.day.points.map .ok := by
  refine ⟨reachable_twoRows, rfl, Window.isDay_oneDay, _, rfl, rfl, ?_⟩
  intro hSub
  have hHeld : (Except.ok ⟨Window.oneDay.stop, Row.settle .zero⟩ : Except Failure Point) ∈
      twoRows.held "metrics_10m_avg" "web-1" .oneDay := .tail _ (.head _)
  have hTime : Window.oneDay.stop = Window.oneDay.start :=
    congrArg Point.time (Except.ok.inj (List.mem_singleton.mp (hSub hHeld)))
  exact absurd hTime (by decide)

end Rollup.Dashboard
