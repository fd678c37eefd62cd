import Mathlib
import Rollup.Dashboard
import Rollup.Proofs.Program.Sequence
import Rollup.Proofs.Series.Course

/-!
The two parts of a dashboard. What is required is read first: the current row and the series of the
day. The heatmap of that day follows, and how its reads go decides no more than the cells and a
note.
-/
namespace Rollup

namespace Dashboard

open Program

/-- What a dashboard cannot do without: the current row, and the series of the day up to the time
that the clock showed. -/
structure Required where
  current : Point
  window : Window
  day : Series

/-- Reads what is required. -/
def Required.read (policy : Policy) (server : String) : Program Required := do
  match ← latest policy server .oneMinute with
  | none => fail (.noCurrentData server)
  | some current =>
    let stop ← now
    let start ← lift (stop.shift (-(Rollup.day : Int)))
    let day ← Series.read policy server ⟨start, stop⟩ none policy.substitutes
    return ⟨current, ⟨start, stop⟩, day⟩

/-- The dashboard of what is required and the heatmap, which may be missing. -/
def Required.view (server : String) (required : Required)
    (cells : Except Failure (List HeatmapCell)) (updated : Timestamp) : Dashboard :=
  let notes := (required.day.notice.map Notice.text).toList
  let view (cells : List HeatmapCell) (notes : List String) : Dashboard :=
    ⟨server, required.current, required.day, Rollup.trend required.day.points, cells, updated, notes⟩
  match cells with
  | .ok cells => view cells notes
  | .error _ => view [] (notes ++ [heatmapNote])

/-- Reads the heatmap of the day and makes the dashboard. -/
def Required.finish (policy : Policy) (server : String) (required : Required) :
    Program Dashboard := do
  let cells ← attempt (Series.heatmap policy server required.window)
  return required.view server cells (← now)

/-- The question for the current row. -/
abbrev latestQuestion (policy : Policy) (server : String) : Read :=
  .latest (policy.source .oneMinute) server

theorem read_eq (policy : Policy) (server : String) : Dashboard.read policy server =
    Required.read policy server >>= Required.finish policy server := by
  rw [Dashboard.read, Required.read, bind_assoc]
  congr 1
  funext reading
  cases reading with
  | none => rfl
  | some current =>
      simp only [bind_assoc]
      congr 1
      funext stop
      congr 1
      funext start
      congr 1
      funext series
      simp only [Required.finish, done_bind, pure]
      congr 1
      funext cells
      congr 1
      funext updated
      cases cells <;> rfl

theorem Required.finish_eq (policy : Policy) (server : String) (required : Required) :
    Required.finish policy server required =
      attempt (Series.heatmap policy server required.window) >>= fun cells => clock fun
        | .ok updated => done (required.view server cells updated)
        | .error failure => fail failure := by
  rw [Required.finish]
  congr 1
  funext cells
  exact now_bind _

end Dashboard

/-- The window is the day before its end. -/
def Window.IsDay (window : Window) : Prop :=
  window.stop.shift (-(day : Int)) = .ok window.start

theorem Window.isDay_of_wall {window : Window} (hOffset : window.start.offset = window.stop.offset)
    (hWall : window.start.wall + day = window.stop.wall) : window.IsDay := by
  obtain ⟨⟨wall, offset, hLt⟩, stop⟩ := window
  dsimp only at hOffset hWall
  subst hOffset
  have hBack : (stop.wall : Int) + -(day : Int) = wall := by omega
  rw [IsDay, Timestamp.shift, Timestamp.shift?, Timestamp.ofWall?]
  simp only [hBack, Int.toNat_natCast, hLt, Int.natCast_nonneg, ↓reduceDIte, ↓reduceIte]

theorem Window.isDay_oneDay : Window.oneDay.IsDay := isDay_of_wall rfl (by decide)

namespace Window.IsDay

variable {window : Window}

theorem comparable (h : window.IsDay) : window.Comparable := (Timestamp.shift_eq_ok h).1

theorem stop_eq (h : window.IsDay) : window.stop.position = window.start.position + day := by
  have hStart := (Timestamp.shift_eq_ok h).2
  omega

theorem isMeant (h : window.IsDay) : Tier.IsMeant none window .tenMinutes := by
  have hSpan : window.stop.position - window.start.position = day := by
    have hStop := h.stop_eq
    omega
  change Tier.forSpan (window.stop.position - window.start.position) = .tenMinutes
  rw [hSpan]
  decide

end Window.IsDay

namespace Dashboard.Required

open Program

variable (policy : Policy) (server : String)

/-- How the read of what is required goes: its exchanges, the times that it sees, and its result. -/
inductive Course : List Exchange → List (Except Failure Timestamp) → Except Failure Required → Prop
  | unread (failure : Failure) :
      Course [⟨latestQuestion policy server, .error failure⟩] []
        (.error (asSeen (latestQuestion policy server) failure))
  | absent :
      Course [⟨latestQuestion policy server, .ok none⟩] [] (.error (.noCurrentData server))
  | followed (current : Point) {window : Window} (hDay : window.IsDay)
      {day : List Exchange} {result : Except Failure Series}
      (follow : Series.Course policy server window .tenMinutes policy.substitutes day result) :
      Course (⟨latestQuestion policy server, .ok (some current)⟩ :: day) [.ok window.stop]
        (result.map fun series => ⟨current, window, series⟩)

variable {policy server} {σ : Type} {backend : Backend σ} {state : σ}

/-- The read as a tree of a question and a look at the clock, with the read of the day at its end.
-/
theorem read_eq : Required.read policy server =
    Program.read (latestQuestion policy server) fun
      | .error failure => fail (asSeen (latestQuestion policy server) failure)
      | .ok none => fail (.noCurrentData server)
      | .ok (some current) => clock fun
        | .error failure => fail failure
        | .ok stop =>
          match stop.shift (-(Rollup.day : Int)) with
          | .error failure => fail failure
          | .ok start => Required.mk current ⟨start, stop⟩ <$>
              Series.read policy server ⟨start, stop⟩ none policy.substitutes := by
  rw [Required.read, latest, ask_bind]
  congr 1
  funext answer
  rcases answer with failure | _ | current
  · rfl
  · rfl
  · simp only [now_bind]
    congr 1
    funext look
    rcases look with failure | stop
    · rfl
    · dsimp only
      cases stop.shift (-(Rollup.day : Int)) <;> rfl

/-- Over every backend whose clock shows times with a day before them, the read goes one of these
ways. -/
theorem course_read
    (hClock : ∀ reading ∈ (Required.read policy server).looks backend state,
      ∃ window : Window, reading = .ok window.stop ∧ window.IsDay) :
    Course policy server ((Required.read policy server).transcript backend state)
      ((Required.read policy server).looks backend state)
      ((Required.read policy server).run backend state).result := by
  rw [read_eq] at hClock ⊢
  simp only [transcript_read, looks_read, result_read] at hClock ⊢
  generalize (backend.answer state (latestQuestion policy server)).2 = asked at hClock ⊢
  generalize (backend.answer state (latestQuestion policy server)).1.heard = answer at hClock ⊢
  rcases answer with failure | _ | current
  · exact .unread failure
  · exact .absent
  · simp only [transcript_clock, looks_clock, result_clock] at hClock ⊢
    obtain ⟨window, hLook, hDay⟩ := hClock _ List.mem_cons_self
    have hStart : window.stop.shift (-(Rollup.day : Int)) = .ok window.start := hDay
    simp only [hLook, hStart]
    rw [transcript_map, looks_map, result_map,
      Series.looks_read_eq_nil hDay.comparable hDay.isMeant]
    exact .followed current hDay (Series.course_run hDay.comparable hDay.isMeant backend _)

/-- Where what is required was read, there was a current row, and the day up to the one time seen was
read in its tier. -/
theorem Course.exists_day {exchanges : List Exchange} {seen : List (Except Failure Timestamp)}
    {found : Required} (course : Course policy server exchanges seen (.ok found)) :
    seen = [.ok found.window.stop] ∧ found.window.IsDay ∧
      ∃ day, exchanges = ⟨latestQuestion policy server, .ok (some found.current)⟩ :: day ∧
        Series.Course policy server found.window .tenMinutes policy.substitutes day
          (.ok found.day) := by
  generalize hResult : Except.ok found = result at course
  cases course with
  | unread failure => cases hResult
  | absent => cases hResult
  | followed current hDay follow =>
      rename_i window day series
      cases series with
      | error failure => cases hResult
      | ok series =>
          cases hResult
          exact ⟨rfl, hDay, day, rfl, follow⟩

theorem Course.found {exchanges : List Exchange} {seen : List (Except Failure Timestamp)}
    {result : Except Failure Required} (course : Course policy server exchanges seen result)
    {found : Required} (hFound : result = .ok found) :
    (∃ day, exchanges = ⟨latestQuestion policy server, .ok (some found.current)⟩ :: day) ∧
      seen = [.ok found.window.stop] ∧ found.window.IsDay := by
  subst hFound
  obtain ⟨hSeen, hDay, day, hReads, -⟩ := course.exists_day
  exact ⟨⟨day, hReads⟩, hSeen, hDay⟩

/-- Where what is required was read, the clock showed a time with a day before it. -/
theorem isDay_of_mem_looks {found : Required}
    (hFound : ((Required.read policy server).run backend state).result = .ok found) :
    ∀ reading ∈ (Required.read policy server).looks backend state,
      ∃ window : Window, reading = .ok window.stop ∧ window.IsDay := by
  rw [read_eq] at hFound ⊢
  simp only [looks_read, result_read] at hFound ⊢
  generalize (backend.answer state (latestQuestion policy server)).2 = asked at hFound ⊢
  generalize (backend.answer state (latestQuestion policy server)).1.heard = answer at hFound ⊢
  rcases answer with failure | _ | current
  · simp
  · simp
  · simp only [looks_clock, result_clock] at hFound ⊢
    generalize (backend.clock asked).2 = seen at hFound ⊢
    generalize (backend.clock asked).1 = look at hFound ⊢
    rcases look with failure | stop
    · cases hFound
    · cases hStart : stop.shift (-(Rollup.day : Int)) with
      | error failure =>
          simp only [hStart] at hFound
          cases hFound
      | ok start =>
          have hDay : Window.IsDay ⟨start, stop⟩ := hStart
          simp only [hStart]
          rw [looks_map, Series.looks_read_eq_nil hDay.comparable hDay.isMeant]
          intro reading hMem
          rw [List.mem_singleton] at hMem
          exact ⟨⟨start, stop⟩, hMem, hDay⟩

end Dashboard.Required
end Rollup
