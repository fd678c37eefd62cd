import Mathlib
import Rollup.Proofs.Dashboard.Required
import Rollup.Proofs.Series.Protocol

/-!
Dashboards over backends whose reads may fail. A failure of what is required is the failure of the
whole; a failure of the heatmap's reads takes the cells away and leaves a note, and nothing else of
the dashboard shows it.
-/
namespace Rollup

open Program

/-- A failure of an exchange, if there is one, may be absorbed. -/
def Exchange.Ordinary (exchange : Exchange) : Prop :=
  ∀ failure, exchange.answer = .error failure → failure.isOrdinary = true

theorem Program.isOrdinary_asSeen (question : Read) (failure : Failure) :
    (asSeen question failure).isOrdinary = failure.isOrdinary := by
  rw [asSeen]
  split
  · rfl
  · rename_i hWrapped
    rw [Bool.or_eq_true, Bool.not_eq_true', not_or, Bool.not_eq_false] at hWrapped
    rw [hWrapped.2]
    rfl

namespace Dashboard

variable (policy : Policy) (server : String) {σ τ : Type} (backend : Backend σ) (state : σ)

/-- The exchanges of a run for what is required. -/
def requiredReads : List Exchange := (Required.read policy server).transcript backend state

/-- The exchanges of a run for the heatmap, which are none if something required is missing. -/
def cellReads : List Exchange :=
  let required := (Required.read policy server).run backend state
  match required.result with
  | .ok found => (Series.heatmap policy server found.window).transcript backend required.state
  | .error _ => []

/-- A run in which no read is cancelled and the clock shows times that have a day before them. -/
structure Regular : Prop where
  ordinary : ∀ exchange ∈ (Dashboard.read policy server).transcript backend state, exchange.Ordinary
  clock : ∀ reading ∈ (Dashboard.read policy server).looks backend state,
    ∃ window : Window, reading = .ok window.stop ∧ window.IsDay

variable {policy server backend state}

theorem transcript_finish (required : Required) :
    (Required.finish policy server required).transcript backend state =
      (Series.heatmap policy server required.window).transcript backend state := by
  rw [Required.finish_eq, transcript_bind, transcript_attempt]
  split
  · rw [transcript_clock]
    split <;> exact List.append_nil _
  · exact List.append_nil _

/-- A run asks first for what is required, then for the heatmap. -/
theorem transcript_eq : (Dashboard.read policy server).transcript backend state =
    requiredReads policy server backend state ++ cellReads policy server backend state := by
  rw [read_eq, transcript_bind, requiredReads, cellReads]
  congr 1
  cases ((Required.read policy server).run backend state).result with
  | error failure => rfl
  | ok found => exact transcript_finish found

theorem heatmap_eq (window : Window) :
    Series.heatmap policy server window = (fun series => Rollup.heatmap series.points) <$>
      Series.read policy server window none false := rfl

theorem result_heatmap (window : Window) :
    ((Series.heatmap policy server window).run backend state).result =
      ((Series.read policy server window none false).run backend state).result.map
        fun series => Rollup.heatmap series.points := by
  rw [heatmap_eq, result_map]

namespace Required.Course

variable {exchanges : List Exchange} {seen : List (Except Failure Timestamp)}
  {result : Except Failure Required}

/-- The reads of the day never ask for the current row. -/
theorem latest_not_mem {window : Window} {day : List Exchange} {series : Except Failure Series}
    (follow : Series.Course policy server window .tenMinutes policy.substitutes day series)
    (answer : Except Failure (Option Point)) :
    (⟨latestQuestion policy server, answer⟩ : Exchange) ∉ day := by
  intro hMem
  have hAsked := List.mem_map_of_mem (f := Exchange.question) hMem
  rcases follow.order with hOrder | hOrder
  · simpa using hOrder.subset hAsked
  · simpa using hOrder.subset hAsked

theorem result_of_absent (course : Required.Course policy server exchanges seen result)
    (hAbsent : ⟨latestQuestion policy server, .ok none⟩ ∈ exchanges) :
    result = .error (.noCurrentData server) := by
  cases course with
  | unread failure => simp at hAbsent
  | absent => rfl
  | followed current hDay follow => simp [latest_not_mem follow] at hAbsent

theorem failure_seen (course : Required.Course policy server exchanges seen result)
    {exchange : Exchange} {failure : Failure} (hMem : exchange ∈ exchanges)
    (hFailed : exchange.answer = .error failure) :
    ∃ cause, result = .error cause ∧ failure.Translated exchange.question server cause := by
  cases course with
  | unread failure =>
      rw [List.mem_singleton] at hMem
      subst hMem
      cases hFailed
      exact ⟨_, rfl, Failure.translated_asSeen rfl failure⟩
  | absent =>
      rw [List.mem_singleton] at hMem
      subst hMem
      cases hFailed
  | followed current hDay follow =>
      rcases List.mem_cons.mp hMem with rfl | hMem
      · cases hFailed
      · obtain ⟨cause, hCause, hTranslated⟩ := follow.failure_seen hMem hFailed
        exact ⟨cause, by rw [hCause]; rfl, hTranslated⟩

theorem fails_iff (course : Required.Course policy server exchanges seen result) :
    (∃ failure, result = .error failure) ↔
      (∃ exchange ∈ exchanges, exchange.Failed) ∨
        ⟨latestQuestion policy server, .ok none⟩ ∈ exchanges := by
  constructor
  · rintro ⟨failure, hFailure⟩
    cases course with
    | unread failure => exact .inl ⟨_, List.mem_cons_self, failure, rfl⟩
    | absent => exact .inr List.mem_cons_self
    | followed current hDay follow =>
        rename_i day
        cases day with
        | ok series => cases hFailure
        | error cause =>
            obtain ⟨exchange, hMem, failure, hFailed, -⟩ := follow.exists_failed
            exact .inl ⟨exchange, List.mem_cons_of_mem _ hMem, failure, hFailed⟩
  · rintro (⟨exchange, hMem, failure, hFailed⟩ | hAbsent)
    · obtain ⟨cause, hCause, -⟩ := course.failure_seen hMem hFailed
      exact ⟨cause, hCause⟩
    · exact ⟨_, course.result_of_absent hAbsent⟩

end Required.Course

theorem message_view_ok (found : Required) (cells : List HeatmapCell) (updated : Timestamp) :
    (found.view server (.ok cells) updated).message = found.day.notice.map Notice.text := by
  rw [message, Required.view]
  cases found.day.notice <;> rfl

namespace Regular

variable {other : Backend τ} {state' : τ}

theorem course (h : Regular policy server backend state) :
    Required.Course policy server (requiredReads policy server backend state)
      ((Required.read policy server).looks backend state)
      ((Required.read policy server).run backend state).result := by
  refine Required.course_read fun reading hMem => h.clock reading ?_
  rw [read_eq, looks_bind]
  exact List.mem_append_left _ hMem

end Regular

end Dashboard
end Rollup
