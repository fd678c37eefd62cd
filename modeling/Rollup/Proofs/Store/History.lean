import Mathlib
import Rollup.Store
import Rollup.Proofs.Program.Transcript

/-!
Stores after a history of writes, and stores as the backend of a program.
-/
namespace Rollup

/-- Batches in the order in which they are written. -/
abbrev History := List Batch

namespace History

/-- The points that a history holds for a server of a source, in the order of writing. -/
def written (history : History) (source server : String) : List Point :=
  history.flatMap (Memory.Batch.pointsFor source server)

/-- Every point of a history is aware of its offset. -/
def Aware (history : History) : Prop :=
  ∀ batch ∈ history, ∀ p ∈ batch.points, p.time.isAware = true

variable {history : History}

theorem exists_batch_of_mem_written {source server : String} {p : Point}
    (h : p ∈ history.written source server) :
    ∃ batch ∈ history, batch.source = source ∧ batch.server = server ∧ p ∈ batch.points := by
  obtain ⟨batch, hBatch, hMem⟩ := List.mem_flatMap.mp h
  unfold Memory.Batch.pointsFor at hMem
  split at hMem
  · rename_i hFor
    exact ⟨batch, hBatch, hFor.1, hFor.2, hMem⟩
  · cases hMem

theorem Aware.written (h : history.Aware) (source server : String) :
    ∀ p ∈ history.written source server, p.time.isAware = true := by
  intro p hMem
  obtain ⟨batch, hBatch, -, -, hPoint⟩ := exists_batch_of_mem_written hMem
  exact h batch hBatch p hPoint

end History

namespace Store

/-- The store after the batches of a history were written one after another. -/
def load (store : Store) (history : History) : Store :=
  history.foldl (fun store batch => (store.write batch.source batch.server batch.points).2) store

@[simp] theorem load_nil (store : Store) : store.load [] = store := rfl

@[simp] theorem load_cons (store : Store) (batch : Batch) (history : History) :
    store.load (batch :: history) =
      (store.write batch.source batch.server batch.points).2.load history := rfl

theorem load_memory (m : Memory) (history : History) :
    (memory m).load history = memory { m with batches := m.batches ++ history } := by
  induction history generalizing m with
  | nil => simp
  | cons batch history ih =>
      rw [load_cons]
      change (memory (m.write batch.source batch.server batch.points)).load history = _
      rw [ih]
      simp [Memory.write]

/-- A store as the backend of a program, with a clock beside it. -/
def backend {κ : Type} (clock : κ → Except Failure Timestamp × κ) : Backend (Store × κ) where
  answer state question :=
    (.ended (state.1.answer question).1, (state.1.answer question).2, state.2)
  clock state := ((clock state.2).1, state.1, (clock state.2).2)

end Store

/-- The answers of a store in memory depend only on what was written. -/
theorem Memory.read_congr {m m' : Memory} (h : m.batches = m'.batches) (question : Read) :
    m.read question = m'.read question := by
  have hWritten : m.written = m'.written := by
    funext source server
    rw [written, h, ← written]
  have hServers : m.servers = m'.servers := by
    funext source
    rw [servers, h, ← servers]
  cases question <;> simp only [read, stats, hWritten, hServers]

/-- The store of a backend is in memory and holds the same batches as the one given. -/
def Store.HoldsBatches {κ : Type} (m : Memory) (state : Store × κ) : Prop :=
  ∃ m', state.1 = .memory m' ∧ m'.batches = m.batches

/-- A store in memory answers every question of a program as it would answer it first. -/
theorem Store.answer_of_mem_transcript_memory {α κ : Type}
    {clock : κ → Except Failure Timestamp × κ} {m : Memory} {hand : κ} (program : Program α) :
    ∀ exchange ∈ program.transcript (Store.backend clock) (.memory m, hand),
      exchange.answer = m.read exchange.question := by
  have hState : Store.HoldsBatches m (Store.memory m, hand) := ⟨m, rfl, rfl⟩
  refine Program.answer_of_mem_transcript ?_ ?_ program hState
  · rintro ⟨store, hand⟩ question ⟨m', rfl, hBatches⟩
    exact ⟨Memory.read_congr hBatches question, _, rfl, hBatches⟩
  · rintro ⟨store, hand⟩ ⟨m', hStore, hBatches⟩
    exact ⟨m', hStore, hBatches⟩

end Rollup
