import Mathlib
import Rollup.Session
import Rollup.Proofs.Policy
import Rollup.Proofs.Program.Cancellation

/-!
Cancellation in every operation that a session offers, the pages of a site among them. Each is put
together from reads that pass cancellation on and from attempts that do not absorb it.
-/
namespace Rollup

open Program

namespace Series

variable (policy : Policy) (server : String) (window : Window)

theorem yields_substitute (tier : Tier) (allowed : Bool) :
    (substitute policy server window tier allowed).Yields := by
  rw [substitute]
  split
  · exact (Yields.ask _).bind fun _ => trivial
  · trivial

theorem yields_read (given : Option Value) (allowed : Bool) :
    (Series.read policy server window given allowed).Yields := by
  refine (Yields.lift _).bind fun tier => (Yields.lift _).bind fun closed => ?_
  split
  · trivial
  refine (Yields.ask _).bind fun count => ?_
  split
  · exact yields_substitute policy server window tier allowed
  refine (Yields.ask _).bind fun points => ?_
  split
  · exact yields_substitute policy server window tier allowed
  · trivial

theorem yields_realtime (span : Int) : (realtime policy server span).Yields :=
  Yields.now.bind fun _ => (Yields.lift _).bind fun _ => yields_read policy server _ _ _

theorem yields_historical (given : Value) : (historical policy server window given).Yields :=
  (Yields.lift _).bind fun _ => yields_read policy server window _ _

theorem yields_heatmap : (heatmap policy server window).Yields :=
  (yields_read policy server window none false).map _

end Series

theorem Comparison.yields_read (policy : Policy) (server : String) (first second : Window) :
    (Comparison.read policy server first second).Yields :=
  (Series.yields_read policy server first none false).bind fun _ =>
    (Series.yields_read policy server second none false).map _

theorem Dashboard.yields_latest (policy : Policy) (server : String) (tier : Tier) :
    (latest policy server tier).Yields :=
  Yields.ask _

theorem Dashboard.yields_read (policy : Policy) (server : String) :
    (Dashboard.read policy server).Yields := by
  refine (yields_latest policy server .oneMinute).bind fun reading => ?_
  cases reading with
  | none => trivial
  | some current =>
      refine Yields.now.bind fun stop => (Yields.lift _).bind fun start =>
        (Series.yields_read policy server _ none _).bind fun series =>
          (Series.yields_heatmap policy server _).attempt.bind fun cells =>
            Yields.now.bind fun updated => ?_
      cases cells <;> trivial

theorem Summary.yields_readTiers (policy : Policy) (tiers : List Tier) :
    (readTiers policy tiers).Yields := by
  induction tiers with
  | nil => trivial
  | cons tier tiers ih => exact (Yields.askPlainly _).attempt.bind fun _ => ih.map _

theorem Summary.yields_read (policy : Policy) : (Summary.read policy).Yields :=
  (yields_readTiers policy Tier.all).bind fun _ => Yields.now.map _

namespace Http

theorem yields_json (status : Nat) (value : Value) : (json status value).Yields :=
  (Yields.lift _).map _

theorem yields_problem (status : Nat) (message : String) (server : Option String) :
    (problem status message server).Yields :=
  yields_json _ _

theorem yields_detail (status : Nat) (text : String) : (detail status text).Yields :=
  yields_json _ _

theorem yields_respond {reading : Program Value} (h : reading.Yields) (general : String)
    (server : Option String) : (respond reading general server).Yields := by
  refine h.attempt.bind fun outcome => ?_
  cases outcome with
  | ok value => exact yields_json 200 value
  | error failure =>
      dsimp only
      split
      · exact yields_problem _ _ _
      · exact yields_problem _ _ _
      · exact yields_problem _ _ _

theorem yields_withChecked {α : Type} (checked : Except Failure α) {next : α → Program Response}
    (h : ∀ result, (next result).Yields) : (withChecked checked next).Yields := by
  rw [withChecked.eq_def]
  split
  · exact h _
  · exact yields_problem _ _ _
  · trivial

variable (site : Site)

theorem Site.yields_historical (id : String) (window : Window) (tier : Option String) :
    (site.historical id window tier).Yields := by
  rw [Site.historical.eq_def]
  split
  · split
    · exact Series.yields_read _ _ _ _ _
    · exact Series.yields_historical _ _ _ _
  · exact Series.yields_read _ _ _ _ _

theorem Site.yields_page (id : String) (given : List (String × String)) (page : Page) :
    (site.page id given page).Yields := by
  cases page with
  | metrics =>
      exact yields_withChecked _ fun _ => yields_respond ((Series.yields_read _ _ _ _ _).map _) _ _
  | realtime =>
      exact yields_withChecked _ fun _ => yields_respond ((Series.yields_realtime _ _ _).map _) _ _
  | historical =>
      exact yields_withChecked _ fun _ => yields_respond ((site.yields_historical _ _ _).map _) _ _
  | dashboard => exact yields_respond ((Dashboard.yields_read _ _).map _) _ _
  | comparison =>
      exact yields_withChecked _ fun _ => yields_withChecked _ fun _ =>
        yields_respond ((Comparison.yields_read _ _ _ _).map _) _ _
  | heatmap =>
      exact yields_withChecked _ fun _ => yields_respond ((Series.yields_heatmap _ _ _).map _) _ _

theorem Site.yields_handle (request : Request) : (site.handle request).Yields := by
  rw [Site.handle]
  split
  · split
    · rename_i route _ _
      cases route with
      | server id page => exact site.yields_page _ _ _
      | summary => exact yields_respond ((Summary.yields_read _).map _) _ _
    · exact (yields_detail _ _).map _
  · split
    · split
      · trivial
      · exact yields_detail _ _
    · exact yields_detail _ _

end Http

namespace Step

/-- Every operation of a session yields to cancellation. -/
theorem yields_program? {site : Http.Site} {step : Step} {program : Program Value}
    (h : step.program? site = some program) : program.Yields := by
  cases step <;> cases h
  case ask question => exact (Yields.askPlainly question).map _
  case latest server tier => exact (Dashboard.yields_latest _ _ _).map _
  case series server window given allowed => exact (Series.yields_read _ _ _ _ _).map _
  case realtime server span => exact (Series.yields_realtime _ _ _).map _
  case historical server window given => exact (Series.yields_historical _ _ _ _).map _
  case heatmap server window => exact (Series.yields_heatmap _ _ _).map _
  case compare server first second => exact (Comparison.yields_read _ _ _ _).map _
  case dashboard server => exact (Dashboard.yields_read _ _).map _
  case summarize => exact (Summary.yields_read _).map _
  case request request => exact (site.yields_handle request).map _

/-- Whatever came before, a call that is cancelled is the last one of an operation, which ends as
cancelled. Under a deadline a call that never comes back leaves an operation out of time. -/
theorem ends_of_cancelled {site : Http.Site} {step : Step} {program : Program Value}
    (hStep : step.program? site = some program) {σ : Type} (backend : Backend σ) (state : σ)
    {n : Nat} {call : Call} (hCall : (program.calls backend state)[n]? = some call) :
    let outcome := program.run backend state
    (call.reply = .ended (.error .cancelled) → outcome.trace.length = n + 1 ∧
      outcome.result = .error .cancelled ∧ outcome.inTime = .error .cancelled) ∧
    (call.reply = .stalled → outcome.trace.length = n + 1 ∧
      outcome.inTime = .error .deadline) := by
  have hYields := yields_program? hStep
  constructor
  · intro hReply
    obtain ⟨hLength, hResult, -, hInTime⟩ :=
      hYields.run_of_cancelled hCall (by rw [hReply]; rfl)
    exact ⟨hLength, hResult, hInTime (by rw [hReply]; nofun)⟩
  · intro hReply
    obtain ⟨hLength, -, hInTime, -⟩ := hYields.run_of_cancelled hCall (by rw [hReply]; rfl)
    exact ⟨hLength, hInTime hReply⟩

/-- A backend whose first read fails and whose later ones are met by one reply. -/
def brokenThen (reply : ∀ {α : Type}, Reply α) : Backend Nat where
  answer asked _ :=
    (if asked = 0 then .ended (.error (.foreign "OSError" "connection lost")) else reply, asked + 1)
  clock asked := (.ok Window.oneDay.stop, asked)

/-- The failure of the first tier is absorbed in a summary, the cancellation of the second is not. -/
theorem ends_of_cancelled_second :
    let program := Summary.toValue <$> Summary.read .usual
    let cancelled := program.run (brokenThen (.ended (.error .cancelled))) 0
    let stalled := program.run (brokenThen .stalled) 0
    Step.summarize.program? ⟨.usual, none⟩ = some program ∧
      (program.calls (brokenThen (.ended (.error .cancelled))) 0)[1]? =
        some ⟨.stats "metrics_5m_avg", .ended (.error .cancelled)⟩ ∧
      (program.calls (brokenThen .stalled) 0)[1]? = some ⟨.stats "metrics_5m_avg", .stalled⟩ ∧
      (cancelled.trace.length = 2 ∧ cancelled.result = .error .cancelled ∧
        cancelled.inTime = .error .cancelled) ∧
      stalled.trace.length = 2 ∧ stalled.inTime = .error .deadline := by
  intro program cancelled stalled
  have hStep : Step.summarize.program? ⟨.usual, none⟩ = some program := rfl
  have hCancelled : (program.calls (brokenThen (.ended (.error .cancelled))) 0)[1]? =
      some ⟨.stats "metrics_5m_avg", .ended (.error .cancelled)⟩ := rfl
  have hStalled : (program.calls (brokenThen .stalled) 0)[1]? =
      some ⟨.stats "metrics_5m_avg", .stalled⟩ := rfl
  exact ⟨hStep, hCancelled, hStalled,
    (ends_of_cancelled hStep _ 0 hCancelled).1 rfl, (ends_of_cancelled hStep _ 0 hStalled).2 rfl⟩

end Step
end Rollup
