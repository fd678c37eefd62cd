import Mathlib
import Rollup.Proofs.Program.Sequence

/-!
Programs that yield to cancellation. Whatever the backend answered before, the first read that is
cancelled is the last one, and the program ends as cancelled. A read that stalls is cancelled from
outside, which a deadline tells from a backend that cancels by itself.
-/
namespace Rollup

/-- A question and the reply to it, which may fail to come. -/
structure Call where
  question : Read
  reply : Reply question.Answer

namespace Program

variable {α β σ : Type} {backend : Backend σ}

/-- The calls of a run, in order. -/
def calls (backend : Backend σ) : Program α → σ → List Call
  | done _, _ => []
  | fail _, _ => []
  | read question next, state =>
    let reply := backend.answer state question
    ⟨question, reply.1⟩ :: (next reply.1.heard).calls backend reply.2
  | clock next, state =>
    let look := backend.clock state
    (next look.1).calls backend look.2

/-- The calls are the exchanges of the transcript, before they are heard. -/
theorem transcript_eq_map_calls (program : Program α) (state : σ) :
    program.transcript backend state =
      (program.calls backend state).map fun call => ⟨call.question, call.reply.heard⟩ := by
  induction program generalizing state with
  | done result => rfl
  | fail failure => rfl
  | read question next ih => exact congrArg _ (ih _ _)
  | clock next ih => exact ih _ _

/-- A program yields: after a read that was cancelled it does nothing but fail as cancelled. -/
def Yields : Program α → Prop
  | done _ => True
  | fail _ => True
  | read _ next => next (.error .cancelled) = fail .cancelled ∧ ∀ answer, (next answer).Yields
  | clock next => ∀ time, (next time).Yields

namespace Yields

theorem bind {program : Program α} (h : program.Yields) {f : α → Program β}
    (hNext : ∀ result, (f result).Yields) : (program >>= f).Yields := by
  induction program with
  | done result => exact hNext result
  | fail failure => trivial
  | read question next ih =>
      refine ⟨?_, fun answer => ih answer (h.2 answer)⟩
      change (next (.error .cancelled) >>= f) = fail .cancelled
      rw [h.1]
      rfl
  | clock next ih => exact fun time => ih time (h time)

theorem map {program : Program α} (h : program.Yields) (f : α → β) : (f <$> program).Yields :=
  h.bind fun _ => trivial

/-- Cancellation is not among the failures that are absorbed. -/
theorem attempt {program : Program α} (h : program.Yields) : program.attempt.Yields := by
  induction program with
  | done result => trivial
  | fail failure =>
      rw [Program.attempt]
      split <;> trivial
  | read question next ih =>
      refine ⟨?_, fun answer => ih answer (h.2 answer)⟩
      change (next (.error .cancelled)).attempt = fail .cancelled
      rw [h.1]
      rfl
  | clock next ih => exact fun time => ih time (h time)

theorem lift (result : Except Failure α) : (Program.lift result).Yields := by
  cases result <;> trivial

theorem now : Program.now.Yields := lift

/-- Cancellation is not wrapped. -/
theorem ask (question : Read) : (Program.ask question).Yields :=
  ⟨rfl, fun answer => by cases answer <;> trivial⟩

theorem askPlainly (question : Read) : (Program.askPlainly question).Yields :=
  ⟨rfl, lift⟩

end Yields

/-- A run stalls at a read that does, or else after it. -/
theorem stalled_read (question : Read) (next : Except Failure question.Answer → Program α)
    (state : σ) :
    ((read question next).run backend state).stalled = true ↔
      (backend.answer state question).1 = .stalled ∨
        ((next (backend.answer state question).1.heard).run backend
          (backend.answer state question).2).stalled = true := by
  simp only [run]
  split <;> simp_all [Reply.heard]

/-- A read that is cancelled, by the backend or because it stalls, is the last one. -/
theorem Yields.ends {program : Program α} (h : program.Yields) {state : σ} {n : Nat} {call : Call}
    (hCall : (program.calls backend state)[n]? = some call)
    (hCancelled : call.reply.heard = .error .cancelled) :
    (program.run backend state).result = .error .cancelled ∧
      (program.calls backend state).length = n + 1 ∧
        ((program.run backend state).stalled = true ↔ call.reply = .stalled) := by
  induction program generalizing state n with
  | done result => simp [calls] at hCall
  | fail failure => simp [calls] at hCall
  | read question next ih =>
      rw [calls] at hCall ⊢
      rw [result_read, stalled_read, List.length_cons]
      cases n with
      | zero =>
          rw [List.getElem?_cons_zero, Option.some.injEq] at hCall
          subst hCall
          dsimp only at hCancelled ⊢
          rw [hCancelled, h.1]
          exact ⟨rfl, rfl, by simp [run]⟩
      | succ n =>
          rw [List.getElem?_cons_succ] at hCall
          obtain ⟨hResult, hLength, hStalled⟩ := ih _ (h.2 _) hCall
          refine ⟨hResult, congrArg (· + 1) hLength, ?_⟩
          rw [hStalled, or_iff_right]
          -- A read that stalls is followed by no other.
          intro hReply
          rw [hReply] at hCall
          change ((next (.error .cancelled)).calls backend _)[n]? = _ at hCall
          rw [h.1] at hCall
          simp [calls] at hCall
  | clock next ih => exact ih _ (h _) hCall

/-- Once an answer is a cancellation, a program that yields ends as cancelled. -/
theorem Yields.result_of_cancelled {program : Program α} (h : program.Yields) {state : σ}
    {exchange : Exchange} (hMem : exchange ∈ program.transcript backend state)
    (hCancelled : exchange.answer = .error .cancelled) :
    (program.run backend state).result = .error .cancelled := by
  rw [transcript_eq_map_calls] at hMem
  obtain ⟨call, hCall, rfl⟩ := List.mem_map.mp hMem
  obtain ⟨n, hAt⟩ := List.getElem?_of_mem hCall
  exact (h.ends hAt hCancelled).1

/-- The run of a program that yields, from the call that is cancelled: nothing is asked after it, and
only a deadline tells whether the call stalled. -/
theorem Yields.run_of_cancelled {program : Program α} (h : program.Yields) {state : σ} {n : Nat}
    {call : Call} (hCall : (program.calls backend state)[n]? = some call)
    (hCancelled : call.reply.heard = .error .cancelled) :
    (program.run backend state).trace.length = n + 1 ∧
      (program.run backend state).result = .error .cancelled ∧
        (call.reply = .stalled → (program.run backend state).inTime = .error .deadline) ∧
          (call.reply ≠ .stalled → (program.run backend state).inTime = .error .cancelled) := by
  obtain ⟨hResult, hLength, hStalled⟩ := h.ends hCall hCancelled
  refine ⟨?_, hResult, ?_, ?_⟩
  · rw [trace_run, transcript_eq_map_calls, List.length_map, List.length_map, hLength]
  · intro hReply
    rw [Outcome.inTime, hResult]
    simp only [hStalled.mpr hReply, ↓reduceIte]
  · intro hReply
    have hRunning : (program.run backend state).stalled = false := by
      rw [← Bool.not_eq_true, hStalled]
      exact hReply
    rw [Outcome.inTime, hResult]
    simp only [hRunning, Bool.false_eq_true, ↓reduceIte]

end Program
end Rollup
