import Mathlib
import Rollup.Program

/-!
The transcript of a run: every question that a program put to its backend, with the answer that it
heard. A run is determined by its transcript, so a law about all backends is one about transcripts.
-/
namespace Rollup

/-- The reply as a program hears it. A read that stalls is cancelled. -/
def Reply.heard {α : Type} : Reply α → Except Failure α
  | .ended answer => answer
  | .stalled => .error .cancelled

/-- A question and the answer that was heard to it. -/
structure Exchange where
  question : Read
  answer : Except Failure question.Answer

/-- The read of an exchange failed. -/
def Exchange.Failed (exchange : Exchange) : Prop :=
  ∃ failure, exchange.answer = .error failure

namespace Program

variable {α β σ : Type} {backend : Backend σ}

/-- The exchanges of a run, in order. -/
def transcript (backend : Backend σ) : Program α → σ → List Exchange
  | done _, _ => []
  | fail _, _ => []
  | read question next, state =>
    let reply := backend.answer state question
    ⟨question, reply.1.heard⟩ :: (next reply.1.heard).transcript backend reply.2
  | clock next, state =>
    let look := backend.clock state
    (next look.1).transcript backend look.2

@[simp] theorem transcript_done (result : α) (state : σ) :
    (done result).transcript backend state = [] := rfl

@[simp] theorem transcript_fail (failure : Failure) (state : σ) :
    (fail failure : Program α).transcript backend state = [] := rfl

@[simp] theorem transcript_read (question : Read)
    (next : Except Failure question.Answer → Program α) (state : σ) :
    (read question next).transcript backend state =
      ⟨question, (backend.answer state question).1.heard⟩ ::
        (next (backend.answer state question).1.heard).transcript backend
          (backend.answer state question).2 := rfl

@[simp] theorem result_done (result : α) (state : σ) :
    ((done result).run backend state).result = .ok result := rfl

@[simp] theorem result_fail (failure : Failure) (state : σ) :
    ((fail failure : Program α).run backend state).result = .error failure := rfl

/-- A stalled read and one that answers by cancellation lead to the same result. -/
@[simp] theorem result_read (question : Read)
    (next : Except Failure question.Answer → Program α) (state : σ) :
    ((read question next).run backend state).result =
      ((next (backend.answer state question).1.heard).run backend
        (backend.answer state question).2).result := by
  simp only [run]
  split <;> simp_all [Reply.heard]

/-- The questions of the transcript are those that the run records. -/
theorem trace_run (program : Program α) (state : σ) :
    (program.run backend state).trace =
      (program.transcript backend state).map Exchange.question := by
  induction program generalizing state with
  | done result => rfl
  | fail failure => rfl
  | read question next ih =>
      simp only [run, transcript_read, List.map_cons]
      split <;> simp_all [Reply.heard]
  | clock next ih => exact ih _ _

/-- A program that asks a question goes on with the answer, or fails as its caller sees it. -/
theorem ask_bind (question : Read) (f : question.Answer → Program β) :
    (ask question >>= f) = read question fun
      | .ok answer => f answer
      | .error failure => fail (asSeen question failure) := by
  change Program.bind (ask question) f = _
  simp only [ask, Program.bind]
  congr 1
  funext answer
  cases answer <;> rfl

/-- If every read of a backend is answered as `answers` says, as long as `holds` does, and no step
of the backend ends that, then so is every exchange of a run. -/
theorem answer_of_mem_transcript {holds : σ → Prop}
    {answers : ∀ question : Read, Except Failure question.Answer}
    (hAnswer : ∀ state question, holds state →
      (backend.answer state question).1.heard = answers question ∧
        holds (backend.answer state question).2)
    (hClock : ∀ state, holds state → holds (backend.clock state).2)
    (program : Program α) {state : σ} (hState : holds state) :
    ∀ exchange ∈ program.transcript backend state,
      exchange.answer = answers exchange.question := by
  induction program generalizing state with
  | done result => simp
  | fail failure => simp
  | read question next ih =>
      obtain ⟨hHeard, hNext⟩ := hAnswer state question hState
      intro exchange hMem
      rw [transcript_read, List.mem_cons] at hMem
      rcases hMem with rfl | hMem
      · exact hHeard
      · exact ih _ hNext exchange hMem
  | clock next ih => exact ih _ (hClock state hState)

end Program
end Rollup
