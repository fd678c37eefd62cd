import Mathlib
import Rollup.Comparison
import Rollup.Proofs.Policy
import Rollup.Proofs.Series.Confinement

/-!
Comparisons and heatmaps see nothing outside their windows. Stores in memory that hold the same
inside the windows lead to the same results, whatever else they hold, and a comparison with its
windows swapped has its sides swapped.
-/
namespace Rollup

open Program

/-- The heatmap that is told by what a store in memory holds inside a window. -/
def Series.confinedCells (policy : Policy) (server : String) (window : Window) (m : Memory) :
    Except Failure (List HeatmapCell) :=
  (fun series => Rollup.heatmap series.points) <$> confined policy server window m

theorem Series.keeps_confinedCells {policy : Policy} {server : String} {window : Window}
    {m : Memory} (hAware : ∀ source, m.Aware source server) :
    (Series.heatmap policy server window).Keeps (confinement m)
      fun result => result = confinedCells policy server window m := by
  refine (keeps_confined hAware).map ?_ ?_
  · intro series hSeries
    rw [confinedCells, ← hSeries]
    rfl
  · intro failure hFailure
    rw [confinedCells, ← hFailure]
    rfl

namespace Comparison

variable (policy : Policy) (server : String) (first second : Window)

/-- The comparison of two series. -/
def ofSeries (one two : Series) : Comparison := ⟨one, two, comparePeriods one.points two.points⟩

/-- The comparison that is told by what a store in memory holds inside both windows. -/
def confined (m : Memory) : Except Failure Comparison := do
  return ofSeries (← Series.confined policy server first m) (← Series.confined policy server second m)

variable {policy server first second} {m m' : Memory}

theorem keeps_confined (hAware : ∀ source, m.Aware source server) :
    (Comparison.read policy server first second).Keeps (Series.confinement m)
      fun result => result = confined policy server first second m := by
  refine (Series.keeps_confined hAware).bind ?_ ?_
  · intro one hOne
    refine (Series.keeps_confined hAware).map ?_ ?_
    · intro two hTwo
      rw [confined, ← hOne, ← hTwo]
      rfl
    · intro failure hTwo
      rw [confined, ← hOne, ← hTwo]
      rfl
  · intro failure hOne
    rw [confined, ← hOne]
    rfl

theorem exists_of_confined {c : Comparison} (h : confined policy server first second m = .ok c) :
    ∃ one two, Series.confined policy server first m = .ok one ∧
      Series.confined policy server second m = .ok two ∧ c = ofSeries one two := by
  obtain ⟨one, hOne, h⟩ := exists_of_bind_eq_ok h
  obtain ⟨two, hTwo, h⟩ := exists_of_bind_eq_ok h
  exact ⟨one, two, hOne, hTwo, (Except.ok.inj h).symm⟩

/-- The second comparison has the sides of the first one swapped, and its change is told anew. -/
structure Swapped (c c' : Comparison) : Prop where
  first : c'.first = c.second
  second : c'.second = c.first
  firstAverages : c'.change.first = c.change.second
  secondAverages : c'.change.second = c.change.first
  change : c'.change.change = changes c'.change.first c'.change.second

/-- What a comparison shows: the oldest points inside each window, their averages, and the change
from the first averages to the second. -/
structure ShowsOldest (policy : Policy) (server : String) (first second : Window) (m : Memory)
    (c : Comparison) : Prop where
  first : Series.ShowsOldest policy server first m c.first
  second : Series.ShowsOldest policy server second m c.second
  firstAverages : c.change.first = averages c.first.points
  secondAverages : c.change.second = averages c.second.points
  change : c.change.change = changes c.change.first c.change.second

theorem swapped_ofSeries (one two : Series) : Swapped (ofSeries one two) (ofSeries two one) :=
  ⟨rfl, rfl, rfl, rfl, rfl⟩

theorem showsOldest_of_confined {c : Comparison}
    (h : confined policy server first second m = .ok c) :
    ShowsOldest policy server first second m c := by
  obtain ⟨one, two, hOne, hTwo, rfl⟩ := exists_of_confined h
  exact ⟨Series.showsOldest_of_confined hOne, Series.showsOldest_of_confined hTwo, rfl, rfl, rfl⟩

/-- Swapping the windows swaps the sides. -/
theorem exists_swapped_of_confined {c : Comparison}
    (h : confined policy server first second m = .ok c) :
    ∃ c', confined policy server second first m = .ok c' ∧ Swapped c c' := by
  obtain ⟨one, two, hOne, hTwo, rfl⟩ := exists_of_confined h
  refine ⟨ofSeries two one, ?_, swapped_ofSeries one two⟩
  rw [confined, hOne, hTwo]
  rfl

theorem exists_confined (policy : Policy) (server : String) (m : Memory) (hFirst : first.Aware)
    (hSecond : second.Aware) : ∃ c, confined policy server first second m = .ok c := by
  obtain ⟨one, hOne⟩ := Series.exists_confined policy server m hFirst
  obtain ⟨two, hTwo⟩ := Series.exists_confined policy server m hSecond
  refine ⟨ofSeries one two, ?_⟩
  rw [confined, hOne, hTwo]
  rfl

theorem confined_congr (hFirst : Series.SameInside policy server first m m')
    (hSecond : Series.SameInside policy server second m m') :
    confined policy server first second m = confined policy server first second m' := by
  rw [confined, Series.confined_congr hFirst, Series.confined_congr hSecond, ← confined]

/-- A run over a store in memory, of a program that asks for nothing recent and is told by what lies
inside some windows. -/
theorem run_of_keeps {α κ : Type} {program : Program α} {expected : Except Failure α}
    (h : program.Keeps (Series.confinement m) fun result => result = expected)
    (clock : κ → Except Failure Timestamp × κ) (hand : κ) :
    (program.run (Store.backend clock) (.memory m, hand)).result = expected ∧
      ∀ question ∈ (program.run (Store.backend clock) (.memory m, hand)).trace,
        question.kind ≠ .recent := by
  have hTold : ∀ exchange ∈ program.transcript (Store.backend clock) (.memory m, hand),
      (Series.confinement m).told exchange := Store.answer_of_mem_transcript_memory program
  refine ⟨h.result hTold fun _ _ => trivial, ?_⟩
  rw [trace_run, List.forall_mem_map]
  exact h.asked hTold fun _ _ => trivial

/-- Comparisons and heatmaps are confined to their windows. Over stores in memory that hold the same
inside both windows, comparisons end alike, as do heatmaps of the first window, and nothing recent
is asked for. A comparison shows the oldest points inside each window, and there is one wherever the
windows know their offsets. Swapping the windows swaps its sides. -/
theorem read_confined {κ : Type} (policy : Policy) (server : String) (first second : Window)
    (hAware : ∀ source, m.Aware source server) (hAware' : ∀ source, m'.Aware source server)
    (hFirst : Series.SameInside policy server first m m')
    (hSecond : Series.SameInside policy server second m m')
    (clock : κ → Except Failure Timestamp × κ) (hand : κ) :
    let compare (m : Memory) (first second : Window) :=
      (Comparison.read policy server first second).run (Store.backend clock) (.memory m, hand)
    let cells (m : Memory) :=
      (Series.heatmap policy server first).run (Store.backend clock) (.memory m, hand)
    (compare m first second).result = (compare m' first second).result ∧
      (cells m).result = (cells m').result ∧
      (∀ question ∈ (compare m first second).trace, question.kind ≠ .recent) ∧
      (∀ question ∈ (cells m).trace, question.kind ≠ .recent) ∧
      (first.Aware → second.Aware → ∃ c, (compare m first second).result = .ok c) ∧
      ∀ c, (compare m first second).result = .ok c →
        ShowsOldest policy server first second m c ∧
          ∃ c', (compare m second first).result = .ok c' ∧ Swapped c c' := by
  intro compare cells
  have hCompare : ∀ {m : Memory}, (∀ source, m.Aware source server) → ∀ first second,
      (compare m first second).result = confined policy server first second m ∧
        ∀ question ∈ (compare m first second).trace, question.kind ≠ .recent :=
    fun hAware _ _ => run_of_keeps (keeps_confined hAware) clock hand
  have hCells : ∀ {m : Memory}, (∀ source, m.Aware source server) →
      (cells m).result = Series.confinedCells policy server first m ∧
        ∀ question ∈ (cells m).trace, question.kind ≠ .recent :=
    fun hAware => run_of_keeps (Series.keeps_confinedCells hAware) clock hand
  obtain ⟨hResult, hNoneRecent⟩ := hCompare hAware first second
  obtain ⟨hDrawn, hCellsNoneRecent⟩ := hCells hAware
  rw [hResult, hDrawn, (hCompare hAware' first second).1, (hCells hAware').1,
    (hCompare hAware second first).1]
  refine ⟨confined_congr hFirst hSecond, ?_, hNoneRecent, hCellsNoneRecent, ?_, ?_⟩
  · rw [Series.confinedCells, Series.confined_congr hFirst, ← Series.confinedCells]
  · exact exists_confined policy server m
  · exact fun c hOk => ⟨showsOldest_of_confined hOk, exists_swapped_of_confined hOk⟩

/-- A store with two points of half an hour, written out of order, and one of the day before it. -/
def narrow : Memory where
  batches := [
    ⟨"metrics_1m_avg", "web-1", [⟨Window.halfHour.stop, .zero⟩, ⟨Window.halfHour.start, .zero⟩]⟩,
    ⟨"metrics_10m_avg", "web-1", [⟨Window.oneDay.start, .zero⟩]⟩]
  asked := []

/-- The same store with points of the other window in each source, and of another server. -/
def wide : Memory where
  batches := narrow.batches ++ [
    ⟨"metrics_1m_avg", "web-1", [⟨Window.oneDay.start, .zero⟩]⟩,
    ⟨"metrics_10m_avg", "web-1", [⟨Window.halfHour.stop, .zero⟩]⟩,
    ⟨"metrics_1m_avg", "web-2", [⟨Window.halfHour.start, .zero⟩]⟩]
  asked := [.recent]

/-- Both windows share an instant, and each is read in a tier of its own. -/
theorem read_confined_wide :
    let clock (hand : Unit) : Except Failure Timestamp × Unit := (.error .cancelled, hand)
    let compare (m : Memory) (first second : Window) :=
      (Comparison.read .usual "web-1" first second).run (Store.backend clock) (.memory m, ())
    let cells (m : Memory) :=
      (Series.heatmap .usual "web-1" .halfHour).run (Store.backend clock) (.memory m, ())
    (∀ source, narrow.Aware source "web-1") ∧ (∀ source, wide.Aware source "web-1") ∧
      Series.SameInside .usual "web-1" .halfHour narrow wide ∧
        Series.SameInside .usual "web-1" .oneDay narrow wide ∧
          (cells narrow).result = (cells wide).result ∧
            ∃ c, (compare narrow .halfHour .oneDay).result = .ok c ∧
              (compare wide .halfHour .oneDay).result = .ok c ∧
                ShowsOldest .usual "web-1" .halfHour .oneDay narrow c ∧
                  ∃ c', (compare narrow .oneDay .halfHour).result = .ok c' ∧ Swapped c c' := by
  intro clock compare cells
  have hHistory : History.Aware wide.batches := by
    simp [wide, narrow, History.Aware, Timestamp.universal, Timestamp.isAware, Window.halfHour,
      Window.oneDay]
  have hAware : ∀ source, narrow.Aware source "web-1" := fun source =>
    History.Aware.written (fun batch hMem => hHistory batch (List.mem_append_left _ hMem)) source _
  have hAware' : ∀ source, wide.Aware source "web-1" := fun source => hHistory.written source _
  have hFirst : Series.SameInside .usual "web-1" .halfHour narrow wide := by
    rintro tier hTier
    cases hTier
    rfl
  have hSecond : Series.SameInside .usual "web-1" .oneDay narrow wide := by
    rintro tier hTier
    cases hTier
    rfl
  obtain ⟨hSame, hCells, -, -, hExists, hShows⟩ :=
    read_confined .usual "web-1" .halfHour .oneDay hAware hAware' hFirst hSecond clock ()
  obtain ⟨c, hOk⟩ := hExists ⟨rfl, rfl⟩ ⟨rfl, rfl⟩
  exact ⟨hAware, hAware', hFirst, hSecond, hCells, c, hOk, hSame ▸ hOk, hShows c hOk⟩

end Comparison

end Rollup
