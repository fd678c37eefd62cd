import Mathlib
import Rollup.Proofs.Store.Census

/-!
How much a history holds for a source: its points, whatever server they are of, and the servers that
have some. A store in memory tells both of what was written to it.
-/
namespace Rollup

namespace History

/-- The points that a history holds for a source, in the order of writing. -/
def stored (history : History) (source : String) : List Point :=
  (history.filter fun batch => batch.source = source).flatMap Batch.points

/-- The servers for which a history holds a point of a source. -/
def populated (history : History) (source : String) : Finset String :=
  ((history.filter fun batch => batch.source = source ∧ batch.points ≠ []).map Batch.server).toFinset

variable {history : History} {source server : String} {names : Finset String}

theorem written_cons (batch : Batch) :
    History.written (batch :: history) source server =
      Memory.Batch.pointsFor source server batch ++ history.written source server := rfl

theorem stored_cons (batch : Batch) :
    History.stored (batch :: history) source =
      (if batch.source = source then batch.points else []) ++ history.stored source := by
  by_cases hSource : batch.source = source <;> simp [stored, hSource]

theorem server_mem_populated {batch : Batch} (hBatch : batch ∈ history)
    (hSource : batch.source = source) (hPoints : batch.points ≠ []) :
    batch.server ∈ history.populated source := by
  rw [populated, List.mem_toFinset]
  exact List.mem_map_of_mem (List.mem_filter.mpr ⟨hBatch, decide_eq_true ⟨hSource, hPoints⟩⟩)

/-- These are the servers with a point. -/
theorem mem_populated : server ∈ history.populated source ↔ history.written source server ≠ [] := by
  constructor
  · rw [populated, List.mem_toFinset, List.mem_map]
    rintro ⟨batch, hMem, rfl⟩ hNone
    obtain ⟨hBatch, hHolds⟩ := List.mem_filter.mp hMem
    obtain ⟨hSource, hPoints⟩ := of_decide_eq_true hHolds
    have hFor := List.flatMap_eq_nil_iff.mp hNone batch hBatch
    exact hPoints (by simpa [Memory.Batch.pointsFor, hSource] using hFor)
  · intro hWritten
    obtain ⟨p, hPoint⟩ := List.exists_mem_of_ne_nil _ hWritten
    obtain ⟨batch, hBatch, hSource, hServer, hMem⟩ := exists_batch_of_mem_written hPoint
    exact hServer ▸ server_mem_populated hBatch hSource (List.ne_nil_of_mem hMem)

/-- Among names with that of the batch, the points of a batch are counted once. -/
theorem sum_length_pointsFor {batch : Batch}
    (hNames : batch.source = source → batch.points ≠ [] → batch.server ∈ names) :
    ∑ server ∈ names, (Memory.Batch.pointsFor source server batch).length =
      (if batch.source = source then batch.points else []).length := by
  by_cases hSource : batch.source = source
  · by_cases hPoints : batch.points = []
    · simp [Memory.Batch.pointsFor, hPoints]
    · have hMem := hNames hSource hPoints
      simp only [Memory.Batch.pointsFor, hSource, true_and, ↓reduceIte, apply_ite List.length,
        List.length_nil]
      rw [Finset.sum_ite_eq, if_pos hMem]
  · simp [Memory.Batch.pointsFor, hSource]

/-- The points of a source are those of its servers. -/
theorem sum_length_written
    (hNames : ∀ batch ∈ history, batch.source = source → batch.points ≠ [] →
      batch.server ∈ names) :
    ∑ server ∈ names, (history.written source server).length =
      (history.stored source).length := by
  induction history with
  | nil => simp [written, stored]
  | cons batch history ih =>
      obtain ⟨hHead, hRest⟩ := List.forall_mem_cons.mp hNames
      simp only [written_cons, List.length_append, Finset.sum_add_distrib]
      rw [sum_length_pointsFor hHead, ih hRest, stored_cons, List.length_append]

end History

namespace Memory

variable {m : Memory} {source : String}

theorem toFinset_filled (m : Memory) (source : String) :
    (m.filled source).toFinset = History.populated m.batches source := by
  ext server
  rw [List.mem_toFinset, mem_filled, History.mem_populated]
  rfl

theorem length_instants (m : Memory) (source : String) :
    (m.instants source).length = (History.stored m.batches source).length := by
  have hNames : ∀ batch ∈ m.batches, batch.source = source → batch.points ≠ [] →
      batch.server ∈ (m.filled source).toFinset := by
    intro batch hBatch hSource hPoints
    rw [toFinset_filled]
    exact History.server_mem_populated hBatch hSource hPoints
  rw [← History.sum_length_written hNames, List.sum_toFinset _ (nodup_filled m source), instants,
    List.length_flatMap]
  simp only [List.length_map]
  rfl

/-- What a source holds, as a store in memory tells it of points with offsets. -/
theorem stats_tally (hBatches : History.Aware m.batches) (source : String) :
    ∃ figures : TierStats, m.stats source = .ok figures ∧
      figures.records = (History.stored m.batches source).length ∧
        figures.servers = (History.populated m.batches source).card := by
  obtain ⟨earliest, latest, hStats, -, -⟩ := stats_eq <| isAware_of_mem_instants fun server =>
    hBatches.written source server
  refine ⟨_, hStats, ?_, ?_⟩
  · rw [length_instants]
  · rw [← toFinset_filled, List.toFinset_card_of_nodup (nodup_filled m source)]

end Memory

end Rollup
