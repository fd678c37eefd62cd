import Mathlib
import Rollup.Proofs.Policy
import Rollup.Proofs.Series.Course
import Rollup.Proofs.Store.Held

/-!
Which rows a series shows of those that a store holds, and what its flag tells of the others. The
flag compares the rows that were read with a count taken before. Writes that come between the two
make that count too small, and then the flag may miss that the series was cut short.
-/
namespace Rollup.Series

open Program

variable {policy : Policy} {server : String} {window : Window} {tier : Tier} {allowed : Bool}
  {given : Option Value} {exchanges : List Exchange} {series : Series} {store later : Store}

/-- Substitutes always come with a notice. -/
theorem StandInCourse.notice_ne_none
    (course : StandInCourse policy server window tier allowed exchanges (.ok series)) :
    series.notice ≠ none := by
  cases course <;> simp [standIn]

/-- A series without a notice shows the oldest rows that the store held when they were read. -/
theorem Course.points_eq (course : Course policy server window tier allowed exchanges (.ok series))
    (h : store.Sound)
    (hRead : ∀ answer, ⟨rangeQuestion policy server window tier, answer⟩ ∈ exchanges →
      answer = (store.answer (rangeQuestion policy server window tier)).1)
    (hNotice : series.notice = none) :
    series.points.map .ok =
      (store.held (policy.source tier) server window).take policy.rowCap := by
  cases course with
  | closed hWindow => simp [standIn] at hNotice
  | counted hWindow follow => exact absurd hNotice follow.notice_ne_none
  | vanished hWindow hCount follow => exact absurd hNotice follow.notice_ne_none
  | shown hWindow hCount hPoints =>
      exact h.range_eq (hRead _ (List.mem_cons_of_mem _ List.mem_cons_self)).symm

/-- The exchanges of a read of rows that were counted in one store and read in a later one. -/
structure Overtaken (policy : Policy) (server : String) (window : Window) (tier : Tier)
    (store later : Store) (exchanges : List Exchange) : Prop where
  counted : ∀ answer, ⟨countQuestion policy server window tier, answer⟩ ∈ exchanges →
    answer = (store.answer (countQuestion policy server window tier)).1
  nonzero : (store.answer (countQuestion policy server window tier)).1 ≠ .ok (0 : Int)
  read : ∀ answer, ⟨rangeQuestion policy server window tier, answer⟩ ∈ exchanges →
    answer = (later.answer (rangeQuestion policy server window tier)).1

namespace Overtaken

variable (hOvertaken : Overtaken policy server window tier store later exchanges)
  (h : store.Sound) (hLater : later.Sound)
  (hGrown : (store.held (policy.source tier) server window).length ≤
    (later.held (policy.source tier) server window).length)
include hOvertaken h hLater hGrown

/-- As long as rows do not get fewer, the rows that were counted are not gone when they are read, so
nothing stands in for them. -/
theorem shown (hOpen : window.start.position < window.stop.position)
    (course : Course policy server window tier allowed exchanges (.ok series)) :
    series.notice = none ∧ (series.truncated = true ↔
      series.points.length < (store.held (policy.source tier) server window).length) := by
  cases course with
  | closed hWindow => omega
  | counted hWindow follow =>
      exact absurd (hOvertaken.counted _ List.mem_cons_self).symm hOvertaken.nonzero
  | vanished hWindow hCount follow =>
      have hCounted := h.count_eq (hOvertaken.counted _ List.mem_cons_self).symm
      have hNone := hLater.range_eq
        (hOvertaken.read _ (List.mem_cons_of_mem _ List.mem_cons_self)).symm
      have hCap := policy.rowCap_pos
      have hLength := congrArg List.length hNone
      rw [List.map_nil, List.length_nil, List.length_take] at hLength
      omega
  | shown hWindow hCount hPoints =>
      have hCounted := h.count_eq (hOvertaken.counted _ List.mem_cons_self).symm
      refine ⟨rfl, ?_⟩
      rw [decide_eq_true_eq, hCounted]
      exact Int.ofNat_lt

end Overtaken

/-- A read whose rows were counted before some writes and read after them shows the oldest rows of
the later store, and its flag is set if more rows than the cap allows were counted. That the flag
tells of every cut is the same as that the count exceeded the cap already, or that the later store
holds no more than the cap allows. -/
theorem overtaken_read_honest_iff {σ : Type} {backend : Backend σ} {state : σ}
    (hReach : store.Reachable) (more : History) (hWindow : window.Comparable)
    (hOpen : window.start.position < window.stop.position) (hTier : tier.IsMeant given window)
    (hOvertaken : Overtaken policy server window tier store (store.load more)
      ((Series.read policy server window given allowed).transcript backend state))
    (hResult : ((Series.read policy server window given allowed).run backend state).result =
      .ok series) :
    let counted := store.held (policy.source tier) server window
    let held := (store.load more).held (policy.source tier) server window
    series.points.map .ok = held.take policy.rowCap ∧
      (series.truncated = true ↔ policy.rowCap < counted.length) ∧
        ((series.truncated = false → List.Subperm held (series.points.map .ok)) ↔
          policy.rowCap < counted.length ∨ held.length ≤ policy.rowCap) := by
  intro counted held
  have course : Course policy server window tier allowed _ _ :=
    course_run hWindow hTier backend state
  rw [hResult] at course
  obtain ⟨hLater, hGrown⟩ := hReach.sound.load more
  obtain ⟨hNotice, hFlag⟩ := hOvertaken.shown hReach.sound hLater hGrown hOpen course
  have hPoints : series.points.map .ok = held.take policy.rowCap :=
    course.points_eq hLater hOvertaken.read hNotice
  have hLength : series.points.length = min policy.rowCap held.length := by
    rw [← List.length_take, ← hPoints, List.length_map]
  have hTruncated : series.truncated = true ↔ policy.rowCap < counted.length := by
    have hMore : counted.length ≤ held.length := hGrown
    rw [hFlag]
    change series.points.length < counted.length ↔ _
    omega
  refine ⟨hPoints, hTruncated, ?_⟩
  rw [hPoints, subperm_take_iff, ← hTruncated]
  cases series.truncated <;> simp

/-- A database in memory after one point was written at the start of half an hour. -/
def sparse : Store :=
  (Store.database (.new .memory ["metrics_1m_avg"])).load
    [⟨"metrics_1m_avg", "web-1", [⟨Window.halfHour.start, .zero⟩]⟩]

/-- A batch with one point at the end of the half hour. -/
def addition : History := [⟨"metrics_1m_avg", "web-1", [⟨Window.halfHour.stop, .zero⟩]⟩]

theorem reachable_sparse : sparse.Reachable :=
  ⟨.memory, ["metrics_1m_avg"],
    [.write ⟨"metrics_1m_avg", "web-1", [⟨Window.halfHour.start, .zero⟩]⟩], rfl⟩

/-- A store to which one history after another is written, one after each of its answers. -/
def written : Backend (Store × List History) where
  answer state question :=
    (.ended (state.1.answer question).1,
      (state.1.answer question).2.load (state.2.headD []), state.2.tail)
  clock state := (.error .cancelled, state)

theorem overtaken_written :
    Overtaken .oneRow "web-1" .halfHour .oneMinute sparse (sparse.load addition)
      ((Series.read .oneRow "web-1" .halfHour none true).transcript written (sparse, [addition])) := by
  have hTranscript :
      (Series.read .oneRow "web-1" .halfHour none true).transcript written (sparse, [addition]) =
        [⟨countQuestion .oneRow "web-1" .halfHour .oneMinute, .ok (1 : Int)⟩,
          ⟨rangeQuestion .oneRow "web-1" .halfHour .oneMinute,
            ((sparse.load addition).answer
              (rangeQuestion .oneRow "web-1" .halfHour .oneMinute)).1⟩] := rfl
  have hCounted : (sparse.answer (countQuestion .oneRow "web-1" .halfHour .oneMinute)).1 =
      .ok (1 : Int) := rfl
  rw [hTranscript]
  constructor
  · intro answer hMem
    rw [hCounted]
    simpa using hMem
  · rw [hCounted]
    exact nofun
  · intro answer hMem
    simpa using hMem

/-- The second point is written after the first was counted, and the cap is one row. -/
theorem overtaken_read_honest_iff_oneRow :
    let program := Series.read .oneRow "web-1" .halfHour none true
    let held := (sparse.load addition).held "metrics_1m_avg" "web-1" .halfHour
    sparse.Reachable ∧ Window.halfHour.Comparable ∧
      Window.halfHour.start.position < Window.halfHour.stop.position ∧
        Tier.IsMeant none .halfHour .oneMinute ∧
          Overtaken .oneRow "web-1" .halfHour .oneMinute sparse (sparse.load addition)
              (program.transcript written (sparse, [addition])) ∧
            ∃ series, (program.run written (sparse, [addition])).result = .ok series ∧
              series.points.map .ok = held.take 1 ∧
                (series.truncated = true ↔
                  1 < (sparse.held "metrics_1m_avg" "web-1" .halfHour).length) ∧
                  ((series.truncated = false → List.Subperm held (series.points.map .ok)) ↔
                    1 < (sparse.held "metrics_1m_avg" "web-1" .halfHour).length ∨
                      held.length ≤ 1) := by
  have hTier : Tier.IsMeant none .halfHour .oneMinute := by
    change Tier.forSpan _ = _
    decide
  exact ⟨reachable_sparse, by decide, by decide, hTier, overtaken_written, _, rfl,
    overtaken_read_honest_iff reachable_sparse addition (by decide) (by decide) hTier
      overtaken_written rfl⟩

/-- There the series is not flagged, though it lacks a point that was held when it was read. -/
theorem not_overtaken_read_honest :
    let program := Series.read .oneRow "web-1" .halfHour none true
    let held := (sparse.load addition).held "metrics_1m_avg" "web-1" .halfHour
    sparse.Reachable ∧
      Overtaken .oneRow "web-1" .halfHour .oneMinute sparse (sparse.load addition)
          (program.transcript written (sparse, [addition])) ∧
        ∃ series, (program.run written (sparse, [addition])).result = .ok series ∧
          series.truncated = false ∧ ¬held ⊆ series.points.map .ok := by
  refine ⟨reachable_sparse, overtaken_written, _, rfl, rfl, ?_⟩
  intro hSub
  have hHeld : (Except.ok ⟨Window.halfHour.stop, Row.settle .zero⟩ : Except Failure Point) ∈
      (sparse.load addition).held "metrics_1m_avg" "web-1" .halfHour := .tail _ (.head _)
  have hTime : Window.halfHour.stop = Window.halfHour.start :=
    congrArg Point.time (Except.ok.inj (List.mem_singleton.mp (hSub hHeld)))
  exact absurd hTime (by decide)

end Rollup.Series
