import Mathlib
import Rollup.Proofs.Program.Transcript
import Rollup.Proofs.Time.Timestamp

/-!
Programs that are put together. What a run of two programs in a row asks is what the first one asks
and then, if that one comes to a result, what the second one asks from the state it finds. To attempt
a program changes its result only. Two runs that hear the same and see the same times end alike.
-/
namespace Rollup

namespace Program

variable {α β γ σ τ : Type} {backend : Backend σ}

/-- The readings of the clock in a run, in order. -/
def looks (backend : Backend σ) : Program α → σ → List (Except Failure Timestamp)
  | done _, _ => []
  | fail _, _ => []
  | read question next, state =>
    let reply := backend.answer state question
    (next reply.1.heard).looks backend reply.2
  | clock next, state =>
    let look := backend.clock state
    look.1 :: (next look.1).looks backend look.2

@[simp] theorem looks_done (result : α) (state : σ) : (done result).looks backend state = [] := rfl

@[simp] theorem looks_fail (failure : Failure) (state : σ) :
    (fail failure : Program α).looks backend state = [] := rfl

@[simp] theorem looks_read (question : Read)
    (next : Except Failure question.Answer → Program α) (state : σ) :
    (read question next).looks backend state =
      (next (backend.answer state question).1.heard).looks backend
        (backend.answer state question).2 := rfl

@[simp] theorem looks_clock (next : Except Failure Timestamp → Program α) (state : σ) :
    (clock next).looks backend state =
      (backend.clock state).1 :: (next (backend.clock state).1).looks backend
        (backend.clock state).2 := rfl

@[simp] theorem transcript_clock (next : Except Failure Timestamp → Program α) (state : σ) :
    (clock next).transcript backend state =
      (next (backend.clock state).1).transcript backend (backend.clock state).2 := rfl

@[simp] theorem result_clock (next : Except Failure Timestamp → Program α) (state : σ) :
    ((clock next).run backend state).result =
      ((next (backend.clock state).1).run backend (backend.clock state).2).result := rfl

@[simp] theorem state_clock (next : Except Failure Timestamp → Program α) (state : σ) :
    ((clock next).run backend state).state =
      ((next (backend.clock state).1).run backend (backend.clock state).2).state := rfl

/-- A stalled read and one that answers by cancellation lead to the same state. -/
@[simp] theorem state_read (question : Read)
    (next : Except Failure question.Answer → Program α) (state : σ) :
    ((read question next).run backend state).state =
      ((next (backend.answer state question).1.heard).run backend
        (backend.answer state question).2).state := by
  simp only [run]
  split <;> simp_all [Reply.heard]

@[simp] theorem result_lift (result : Except Failure α) (state : σ) :
    ((lift result).run backend state).result = result := by
  cases result <;> rfl

@[simp] theorem transcript_lift (result : Except Failure α) (state : σ) :
    (lift result).transcript backend state = [] := by
  cases result <;> rfl

@[simp] theorem looks_lift (result : Except Failure α) (state : σ) :
    (lift result).looks backend state = [] := by
  cases result <;> rfl

section Bind

theorem done_bind (result : α) (f : α → Program β) : (done result >>= f) = f result := rfl

theorem read_bind (question : Read) (next : Except Failure question.Answer → Program α)
    (f : α → Program β) : (read question next >>= f) = read question fun answer => next answer >>= f :=
  rfl

theorem clock_bind (next : Except Failure Timestamp → Program α) (f : α → Program β) :
    (clock next >>= f) = clock fun time => next time >>= f := rfl

/-- A program that looks at the clock goes on with the time, if there is one. -/
theorem now_bind (f : Timestamp → Program β) :
    (now >>= f) = clock fun
      | .ok time => f time
      | .error failure => fail failure := by
  rw [now, clock_bind]
  congr 1
  funext time
  cases time <;> rfl

theorem bind_assoc (program : Program α) (f : α → Program β) (g : β → Program γ) :
    (program >>= f) >>= g = program >>= fun result => f result >>= g := by
  induction program with
  | done result => rfl
  | fail failure => rfl
  | read question next ih =>
      simp only [read_bind]
      congr 1
      funext answer
      exact ih answer
  | clock next ih =>
      simp only [clock_bind]
      congr 1
      funext time
      exact ih time

variable (program : Program α) (f : α → Program β) (state : σ)

theorem result_bind :
    ((program >>= f).run backend state).result =
      match (program.run backend state).result with
      | .ok result => ((f result).run backend (program.run backend state).state).result
      | .error failure => .error failure := by
  induction program generalizing state with
  | done result => rfl
  | fail failure => rfl
  | read question next ih =>
      rw [read_bind, result_read, result_read, state_read]
      exact ih _ _
  | clock next ih =>
      rw [clock_bind, result_clock, result_clock, state_clock]
      exact ih _ _

theorem transcript_bind :
    (program >>= f).transcript backend state = program.transcript backend state ++
      match (program.run backend state).result with
      | .ok result => (f result).transcript backend (program.run backend state).state
      | .error _ => [] := by
  induction program generalizing state with
  | done result => rfl
  | fail failure => rfl
  | read question next ih =>
      rw [read_bind, transcript_read, transcript_read, result_read, state_read, List.cons_append]
      exact congrArg _ (ih _ _)
  | clock next ih =>
      rw [clock_bind, transcript_clock, transcript_clock, result_clock, state_clock]
      exact ih _ _

theorem looks_bind :
    (program >>= f).looks backend state = program.looks backend state ++
      match (program.run backend state).result with
      | .ok result => (f result).looks backend (program.run backend state).state
      | .error _ => [] := by
  induction program generalizing state with
  | done result => rfl
  | fail failure => rfl
  | read question next ih =>
      rw [read_bind, looks_read, looks_read, result_read, state_read]
      exact ih _ _
  | clock next ih =>
      rw [clock_bind, looks_clock, looks_clock, result_clock, state_clock, List.cons_append]
      exact congrArg _ (ih _ _)

end Bind

section Map

variable (f : α → β) (program : Program α) (state : σ)

theorem map_eq : f <$> program = program >>= fun result => done (f result) := rfl

theorem result_map :
    ((f <$> program).run backend state).result = (program.run backend state).result.map f := by
  rw [map_eq, result_bind]
  cases (program.run backend state).result <;> rfl

theorem state_map :
    ((f <$> program).run backend state).state = (program.run backend state).state := by
  induction program generalizing state with
  | done result => rfl
  | fail failure => rfl
  | read question next ih =>
      rw [map_eq, read_bind, state_read, state_read]
      exact ih _ _
  | clock next ih =>
      rw [map_eq, clock_bind, state_clock, state_clock]
      exact ih _ _

theorem transcript_map :
    (f <$> program).transcript backend state = program.transcript backend state := by
  rw [map_eq, transcript_bind]
  cases (program.run backend state).result <;> simp

theorem looks_map : (f <$> program).looks backend state = program.looks backend state := by
  rw [map_eq, looks_bind]
  cases (program.run backend state).result <;> simp

end Map

section Attempt

variable (program : Program α) (state : σ)

theorem result_attempt :
    (program.attempt.run backend state).result =
      match (program.run backend state).result with
      | .ok result => .ok (.ok result)
      | .error failure => if failure.isOrdinary then .ok (.error failure) else .error failure := by
  induction program generalizing state with
  | done result => rfl
  | fail failure =>
      simp only [attempt, result_fail]
      split <;> rfl
  | read question next ih =>
      rw [attempt, result_read, result_read]
      exact ih _ _
  | clock next ih =>
      rw [attempt, result_clock, result_clock]
      exact ih _ _

/-- What is ordinary does not end an attempt. -/
theorem not_isOrdinary_of_attempt {program : Program α} {state : σ} {failure : Failure}
    (h : (program.attempt.run backend state).result = .error failure) :
    failure.isOrdinary = false := by
  rw [result_attempt] at h
  split at h
  · cases h
  split at h
  · cases h
  · rename_i hOrdinary
    cases h
    exact Bool.eq_false_of_not_eq_true hOrdinary

theorem transcript_attempt :
    program.attempt.transcript backend state = program.transcript backend state := by
  induction program generalizing state with
  | done result => rfl
  | fail failure =>
      rw [attempt]
      split <;> rfl
  | read question next ih =>
      rw [attempt, transcript_read, transcript_read]
      exact congrArg _ (ih _ _)
  | clock next ih =>
      rw [attempt, transcript_clock, transcript_clock]
      exact ih _ _

theorem looks_attempt : program.attempt.looks backend state = program.looks backend state := by
  induction program generalizing state with
  | done result => rfl
  | fail failure =>
      rw [attempt]
      split <;> rfl
  | read question next ih =>
      rw [attempt, looks_read, looks_read]
      exact ih _ _
  | clock next ih =>
      rw [attempt, looks_clock, looks_clock]
      exact congrArg _ (ih _ _)

end Attempt

/-- What holds of every answer of a backend holds of every exchange of a run. -/
theorem forall_mem_transcript {holds : Exchange → Prop}
    (h : ∀ state question, holds ⟨question, (backend.answer state question).1.heard⟩)
    (program : Program α) (state : σ) : ∀ exchange ∈ program.transcript backend state,
      holds exchange := by
  induction program generalizing state with
  | done result => simp
  | fail failure => simp
  | read question next ih =>
      rw [transcript_read, List.forall_mem_cons]
      exact ⟨h state question, ih _ _⟩
  | clock next ih =>
      rw [transcript_clock]
      exact ih _ _

/-- What holds of every time that a backend shows holds of every time that a run sees. -/
theorem forall_mem_looks {holds : Except Failure Timestamp → Prop}
    (h : ∀ state, holds (backend.clock state).1) (program : Program α) (state : σ) :
    ∀ reading ∈ program.looks backend state, holds reading := by
  induction program generalizing state with
  | done result => simp
  | fail failure => simp
  | read question next ih =>
      rw [looks_read]
      exact ih _ _
  | clock next ih =>
      rw [looks_clock, List.forall_mem_cons]
      exact ⟨h state, ih _ _⟩

end Program

/-- What a backend answers that knows one row and has nothing in any window. -/
def Read.sparseAnswer : (question : Read) → question.Answer
  | .range .. => []
  | .count .. => (0 : Int)
  | .latest .. => some ⟨Window.oneDay.stop, .zero⟩
  | .recent .. => []
  | .stats _ => .empty

/-- A backend with sparse answers that is disturbed at the read with the number given, counted from
nought. The state is the number of reads so far. -/
def Backend.disturbedAt (number : Nat) (disturbance : ∀ {α : Type}, Reply α) : Backend Nat where
  answer asked question :=
    (if asked = number then disturbance else .ended (.ok question.sparseAnswer), asked + 1)
  clock asked := (.ok Window.oneDay.stop, asked)

/-- A backend that is disturbed by a failure fails by no other. -/
theorem Program.eq_of_failed_disturbedAt {α : Type} {program : Program α} {number asked : Nat}
    {failure : Failure} :
    ∀ exchange ∈ program.transcript (.disturbedAt number (.ended (.error failure))) asked,
      ∀ cause, exchange.answer = .error cause → cause = failure := by
  refine forall_mem_transcript ?_ program asked
  intro asked question cause hCause
  change (if asked = number then Reply.ended (.error failure) else _).heard = _ at hCause
  split at hCause
  · cases hCause
    rfl
  · cases hCause

end Rollup
