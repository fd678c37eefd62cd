import Mathlib
import Rollup.Proofs.Program.Sequence

/-!
Contracts of programs. As long as what a program hears and the times that it sees are as promised,
it asks only what it may, and it ends as agreed. Contracts are put together as programs are, and
every run over a backend that keeps its promise is bound by them.
-/
namespace Rollup

/-- The points that an answer shows. -/
def Read.points : (question : Read) → question.Answer → List Point
  | .range .., points => points
  | .count .., _ => []
  | .latest .., point => point.toList
  | .recent .., points => points
  | .stats _, _ => []

/-- The terms of a contract: what may be asked, which exchanges are possible, and which readings of
the clock. Nothing is excluded unless it is written down. -/
structure Terms where
  may : Read → Prop := fun _ => True
  told : Exchange → Prop := fun _ => True
  seen : Except Failure Timestamp → Prop := fun _ => True

namespace Terms

variable (terms : Terms)

/-- A point that is shown by an answer. -/
def Shows (p : Point) : Prop :=
  ∃ (question : Read) (answer : question.Answer),
    terms.told ⟨question, .ok answer⟩ ∧ p ∈ question.points answer

/-- A failure that comes from a question, as its caller sees it, from the clock, or from a
calculation. -/
inductive Raises : Failure → Prop
  | asked {question : Read} {failure : Failure} (h : terms.told ⟨question, .error failure⟩) :
      Raises (Program.asSeen question failure)
  | looked {failure : Failure} (h : terms.seen (.error failure)) : Raises failure
  | calculated (fault : ArithmeticFault) : Raises (.arithmetic fault)

end Terms

namespace Program

/-- A caller sees cancellation as it is. -/
theorem asSeen_of_not_isOrdinary (question : Read) {failure : Failure}
    (h : failure.isOrdinary = false) : asSeen question failure = failure := by
  simp [asSeen, h]

variable {α β σ τ : Type} {terms : Terms} {ends mid : Except Failure α → Prop}
  {after : Except Failure β → Prop} {program : Program α} {f : α → Program β}

/-- On these terms the program asks only what it may, and ends as agreed. -/
def Keeps (terms : Terms) (ends : Except Failure α → Prop) : Program α → Prop
  | done result => ends (.ok result)
  | fail failure => ends (.error failure)
  | read question next =>
    terms.may question ∧ ∀ answer, terms.told ⟨question, answer⟩ → (next answer).Keeps terms ends
  | clock next => ∀ reading, terms.seen reading → (next reading).Keeps terms ends

namespace Keeps

theorem mono (h : program.Keeps terms mid) (hEnds : ∀ result, mid result → ends result) :
    program.Keeps terms ends := by
  induction program with
  | done result => exact hEnds _ h
  | fail failure => exact hEnds _ h
  | read question next ih => exact ⟨h.1, fun answer hTold => ih answer (h.2 answer hTold)⟩
  | clock next ih => exact fun reading hSeen => ih reading (h reading hSeen)

theorem bind (h : program.Keeps terms mid)
    (hNext : ∀ result, mid (.ok result) → (f result).Keeps terms after)
    (hFail : ∀ failure, mid (.error failure) → after (.error failure)) :
    (program >>= f).Keeps terms after := by
  induction program with
  | done result => exact hNext result h
  | fail failure => exact hFail failure h
  | read question next ih => exact ⟨h.1, fun answer hTold => ih answer (h.2 answer hTold)⟩
  | clock next ih => exact fun reading hSeen => ih reading (h reading hSeen)

theorem map {g : α → β} (h : program.Keeps terms mid)
    (hNext : ∀ result, mid (.ok result) → after (.ok (g result)))
    (hFail : ∀ failure, mid (.error failure) → after (.error failure)) :
    (g <$> program).Keeps terms after :=
  h.bind hNext hFail

/-- An attempt fails only by what it does not absorb. -/
theorem attempt {after : Except Failure (Except Failure α) → Prop} (h : program.Keeps terms mid)
    (hDone : ∀ result, mid result → after (.ok result))
    (hFail : ∀ failure, mid (.error failure) → failure.isOrdinary = false →
      after (.error failure)) :
    program.attempt.Keeps terms after := by
  induction program with
  | done result => exact hDone _ h
  | fail failure =>
      rw [Program.attempt]
      split
      · exact hDone _ h
      · rename_i hOrdinary
        exact hFail failure h (Bool.eq_false_of_not_eq_true hOrdinary)
  | read question next ih => exact ⟨h.1, fun answer hTold => ih answer (h.2 answer hTold)⟩
  | clock next ih => exact fun reading hSeen => ih reading (h reading hSeen)

theorem lift {result : Except Failure α} (h : ends result) :
    (Program.lift result).Keeps terms ends := by
  cases result <;> exact h

theorem lift_bind {result : Except Failure α}
    (hNext : ∀ a, result = .ok a → (f a).Keeps terms after)
    (hFail : ∀ failure, result = .error failure → after (.error failure)) :
    (Program.lift result >>= f).Keeps terms after := by
  cases result with
  | ok a => exact hNext a rfl
  | error failure => exact hFail failure rfl

theorem now_bind {f : Timestamp → Program β}
    (hNext : ∀ time, terms.seen (.ok time) → (f time).Keeps terms after)
    (hFail : ∀ failure, terms.seen (.error failure) → after (.error failure)) :
    (Program.now >>= f).Keeps terms after := by
  rw [Program.now_bind]
  intro reading hSeen
  cases reading with
  | ok time => exact hNext time hSeen
  | error failure => exact hFail failure hSeen

theorem ask_bind {question : Read} {f : question.Answer → Program β} (hMay : terms.may question)
    (hNext : ∀ answer, terms.told ⟨question, .ok answer⟩ → (f answer).Keeps terms after)
    (hFail : ∀ failure, terms.told ⟨question, .error failure⟩ →
      after (.error (asSeen question failure))) :
    (Program.ask question >>= f).Keeps terms after := by
  rw [Program.ask_bind]
  refine ⟨hMay, fun answer hTold => ?_⟩
  cases answer with
  | ok answer => exact hNext answer hTold
  | error failure => exact hFail failure hTold

theorem askPlainly {question : Read} {ends : Except Failure question.Answer → Prop}
    (hMay : terms.may question) (h : ∀ answer, terms.told ⟨question, answer⟩ → ends answer) :
    (Program.askPlainly question).Keeps terms ends :=
  ⟨hMay, fun answer hTold => lift (h answer hTold)⟩

variable {backend : Backend σ} {state : σ}

/-- A run that hears and sees what was promised ends as agreed. -/
theorem result (h : program.Keeps terms ends)
    (hTold : ∀ exchange ∈ program.transcript backend state, terms.told exchange)
    (hSeen : ∀ reading ∈ program.looks backend state, terms.seen reading) :
    ends (program.run backend state).result := by
  induction program generalizing state with
  | done result => exact h
  | fail failure => exact h
  | read question next ih =>
      rw [transcript_read, List.forall_mem_cons] at hTold
      rw [looks_read] at hSeen
      rw [result_read]
      exact ih _ (h.2 _ hTold.1) hTold.2 hSeen
  | clock next ih =>
      rw [transcript_clock] at hTold
      rw [looks_clock, List.forall_mem_cons] at hSeen
      rw [result_clock]
      exact ih _ (h _ hSeen.1) hTold hSeen.2

/-- A run that hears and sees what was promised asks nothing else than it may. -/
theorem asked (h : program.Keeps terms ends)
    (hTold : ∀ exchange ∈ program.transcript backend state, terms.told exchange)
    (hSeen : ∀ reading ∈ program.looks backend state, terms.seen reading) :
    ∀ exchange ∈ program.transcript backend state, terms.may exchange.question := by
  induction program generalizing state with
  | done result => simp
  | fail failure => simp
  | read question next ih =>
      rw [transcript_read, List.forall_mem_cons] at hTold ⊢
      rw [looks_read] at hSeen
      exact ⟨h.1, ih _ (h.2 _ hTold.1) hTold.2 hSeen⟩
  | clock next ih =>
      rw [transcript_clock] at hTold ⊢
      rw [looks_clock, List.forall_mem_cons] at hSeen
      exact ih _ (h _ hSeen.1) hTold hSeen.2

/-- Backends that answer alike what a program may ask, and go on to do so, lead it to one result. -/
theorem result_eq {other : Backend τ} (alike : σ → τ → Prop) (h : program.Keeps terms ends)
    (hAnswer : ∀ state state', alike state state' → ∀ question, terms.may question →
      terms.told ⟨question, (backend.answer state question).1.heard⟩ ∧
        (backend.answer state question).1.heard = (other.answer state' question).1.heard ∧
          alike (backend.answer state question).2 (other.answer state' question).2)
    (hClock : ∀ state state', alike state state' →
      terms.seen (backend.clock state).1 ∧ (backend.clock state).1 = (other.clock state').1 ∧
        alike (backend.clock state).2 (other.clock state').2)
    {state' : τ} (hAlike : alike state state') :
    (program.run backend state).result = (program.run other state').result := by
  induction program generalizing state state' with
  | done result => rfl
  | fail failure => rfl
  | read question next ih =>
      obtain ⟨hTold, hSame, hNext⟩ := hAnswer state state' hAlike question h.1
      rw [result_read, result_read, ← hSame]
      exact ih _ (h.2 _ hTold) hNext
  | clock next ih =>
      obtain ⟨hSeen, hSame, hNext⟩ := hClock state state' hAlike
      rw [result_clock, result_clock, ← hSame]
      exact ih _ (h _ hSeen) hNext

end Keeps

end Program
end Rollup
