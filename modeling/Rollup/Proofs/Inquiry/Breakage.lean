import Mathlib
import Rollup.Proofs.Dashboard.Degradation
import Rollup.Proofs.Inquiry

/-!
What makes an inquiry fail. The reads for the heatmap of a dashboard and for the tiers of a summary
may fail, and nothing comes of it. Any other read that fails makes the inquiry fail, as does the
clock, or a time that the calendar does not reach; and so does the lack of a current row.
-/
namespace Rollup

open Program

variable {α β σ : Type} {backend : Backend σ} {state : σ}

/-- A run fails exactly if one of its reads does, and it takes no look at the clock. -/
structure Program.FailsByRead (program : Program α) (backend : Backend σ) (state : σ) : Prop where
  fails_iff : (∃ failure, (program.run backend state).result = .error failure) ↔
    ∃ exchange ∈ program.transcript backend state, exchange.Failed
  looks_eq : program.looks backend state = []

namespace Program.FailsByRead

theorem map {program : Program α} (h : program.FailsByRead backend state) (f : α → β) :
    (f <$> program).FailsByRead backend state where
  fails_iff := by
    rw [result_map, transcript_map, ← h.fails_iff]
    cases (program.run backend state).result with
    | ok result => exact ⟨nofun, nofun⟩
    | error failure => exact ⟨fun _ => ⟨failure, rfl⟩, fun _ => ⟨failure, rfl⟩⟩
  looks_eq := by rw [looks_map, h.looks_eq]

theorem bind {program : Program α} {f : α → Program β} (h : program.FailsByRead backend state)
    (hNext : ∀ result state, (f result).FailsByRead backend state) :
    (program >>= f).FailsByRead backend state := by
  have hFirst := h.fails_iff
  cases hResult : (program.run backend state).result with
  | ok result =>
      have hRest := hNext result (program.run backend state).state
      have hNone : ¬∃ exchange ∈ program.transcript backend state, exchange.Failed := by
        rw [← hFirst, hResult]
        exact nofun
      constructor
      · rw [result_bind, transcript_bind, hResult, hRest.fails_iff]
        simp only [List.mem_append, or_and_right, exists_or, hNone, false_or]
      · rw [looks_bind, h.looks_eq, hResult]
        exact hRest.looks_eq
  | error failure =>
      constructor
      · rw [result_bind, transcript_bind, hResult, List.append_nil, ← hFirst, hResult]
        exact ⟨fun _ => ⟨failure, rfl⟩, fun _ => ⟨failure, rfl⟩⟩
      · rw [looks_bind, h.looks_eq, hResult]
        rfl

end Program.FailsByRead

/-- A step of a run fails: a read, a look at the clock, or the way back from the first time seen. -/
def Program.StepFails (program : Program α) (back : Int) (backend : Backend σ) (state : σ) : Prop :=
  (∃ exchange ∈ program.transcript backend state, exchange.Failed) ∨
    (∃ failure, .error failure ∈ program.looks backend state) ∨
      ∃ stop failure, (program.looks backend state).head? = some (.ok stop) ∧
        stop.shift (-back) = .error failure

/-- A program that looks at the clock and goes back from there before it reads. -/
theorem Program.fails_back_iff (backend : Backend σ) (state : σ) (back : Int)
    (f : Timestamp → Timestamp → Program α)
    (hNext : ∀ start stop, Window.Comparable ⟨start, stop⟩ → ∀ state,
      (f start stop).FailsByRead backend state) :
    let program : Program α := do let stop ← now; let start ← lift (stop.shift (-back)); f start stop
    (∃ failure, (program.run backend state).result = .error failure) ↔
      program.StepFails back backend state := by
  dsimp only
  rw [StepFails, now_bind, result_clock, transcript_clock, looks_clock]
  generalize (backend.clock state).2 = seen
  cases (backend.clock state).1 with
  | error failure =>
      exact iff_of_true ⟨failure, rfl⟩ (.inr (.inl ⟨failure, List.mem_cons_self⟩))
  | ok stop =>
      dsimp only
      cases hStart : stop.shift (-back) with
      | error failure =>
          exact iff_of_true ⟨failure, rfl⟩ (.inr (.inr ⟨stop, failure, rfl, hStart⟩))
      | ok start =>
          have hRest := hNext start stop (Timestamp.shift_eq_ok hStart).1 seen
          have hGo : (lift (.ok start) >>= fun start => f start stop) = f start stop := rfl
          rw [hGo, hRest.fails_iff, hRest.looks_eq]
          refine (or_iff_left ?_).symm
          rintro (⟨failure, hMem⟩ | ⟨_, failure, hHead, hShift⟩)
          · simp at hMem
          · cases hHead
            rw [hStart] at hShift
            cases hShift

/-- A program that only what is not ordinary ends, and that shows the time of its end. -/
theorem Program.fails_timed_iff {program : Program α} (view : α → Timestamp → β)
    (hLooks : program.looks backend state = [])
    (hFails : ∀ failure, (program.run backend state).result = .error failure →
      failure.isOrdinary = false) :
    let timed : Program β := do let result ← program; return view result (← now)
    (∀ failure, (timed.run backend state).result = .error failure → failure.isOrdinary = true) →
      ((∃ failure, (timed.run backend state).result = .error failure) ↔
        ∃ failure, .error failure ∈ timed.looks backend state) := by
  dsimp only
  rw [result_bind, looks_bind, hLooks, List.nil_append]
  cases hResult : (program.run backend state).result with
  | error failure =>
      intro hOrdinary
      have hCause := hFails failure hResult
      rw [hOrdinary failure rfl] at hCause
      cases hCause
  | ok result =>
      intro _
      dsimp only
      rw [now_bind, result_clock, looks_clock]
      cases (backend.clock _).1 with
      | ok time => simp [pure]
      | error failure => simp

theorem Series.failsByRead (policy : Policy) (server : String) {window : Window} {tier : Tier}
    {given : Option Value} (allowed : Bool) (hWindow : window.Comparable)
    (hTier : tier.IsMeant given window) (backend : Backend σ) (state : σ) :
    (Series.read policy server window given allowed).FailsByRead backend state where
  fails_iff := by
    have course : Course policy server window tier allowed _ _ :=
      course_run hWindow hTier backend state
    constructor
    · rintro ⟨failure, hFailure⟩
      rw [hFailure] at course
      obtain ⟨exchange, hMem, cause, hFailed, -⟩ := course.exists_failed
      exact ⟨exchange, hMem, cause, hFailed⟩
    · rintro ⟨exchange, hMem, failure, hFailed⟩
      obtain ⟨seen, hSeen, -⟩ := course.failure_seen hMem hFailed
      exact ⟨seen, hSeen⟩
  looks_eq := looks_read_eq_nil hWindow hTier

namespace Inquiry

variable (policy : Policy) (backend : Backend σ) (state : σ)

/-- The exchanges of a run that matter for its failure: all but those for the heatmap of a dashboard
and for the tiers of a summary. -/
def bearing : Inquiry → List Exchange
  | .dashboard server => Dashboard.requiredReads policy server backend state
  | .summary => []
  | inquiry => (inquiry.read policy).transcript backend state

/-- How far an inquiry goes back from the first time that it sees, if it does. -/
def back? : Inquiry → Option Int
  | .realtime _ span => some (min span Series.recentSpan)
  | .dashboard _ => some day
  | _ => none

/-- A step of a run fails, and nothing absorbs it: a read, a look at the clock, or the way back from
the time that the clock showed. -/
inductive Breaks (inquiry : Inquiry) : Prop
  | unread {exchange : Exchange} (hMem : exchange ∈ inquiry.bearing policy backend state)
      (hFailed : exchange.Failed) : Breaks inquiry
  | unseen {failure : Failure}
      (h : .error failure ∈ (inquiry.read policy).looks backend state) : Breaks inquiry
  | unreached {stop : Timestamp} {span : Int} {failure : Failure} (hSpan : inquiry.back? = some span)
      (hLook : ((inquiry.read policy).looks backend state).head? = some (.ok stop))
      (h : stop.shift (-span) = .error failure) : Breaks inquiry

/-- The inquiry is for a dashboard, and its first read tells that there is no current row. -/
def Absent (inquiry : Inquiry) : Prop :=
  ∃ server, inquiry = .dashboard server ∧ ((inquiry.read policy).transcript backend state).head? =
    some ⟨Dashboard.latestQuestion policy server, .ok none⟩

/-- A run fails exactly if one of its steps does or there is no current row. -/
def FailsByBreaking (inquiry : Inquiry) : Prop :=
  (∃ failure, ((inquiry.read policy).run backend state).result = .error failure) ↔
    inquiry.Breaks policy backend state ∨ inquiry.Absent policy backend state

/-- The windows of an inquiry can be measured, and what is given for a tier stands for one. -/
def WellPosed : Inquiry → Prop
  | .series _ window given => window.Comparable ∧ ∃ tier : Tier, tier.IsMeant given window
  | .historical server window given =>
    window.Comparable ∧ ∃ tier, Tier.ofValue given (some server) = .ok tier
  | .heatmap _ window => window.Comparable
  | .compare _ first second => first.Comparable ∧ second.Comparable
  | _ => True

variable {policy backend state} {inquiry : Inquiry} {server : String}

theorem breaks_iff : inquiry.Breaks policy backend state ↔
    (∃ exchange ∈ inquiry.bearing policy backend state, exchange.Failed) ∨
      (∃ failure, .error failure ∈ (inquiry.read policy).looks backend state) ∨
        ∃ span, inquiry.back? = some span ∧ ∃ stop failure,
          ((inquiry.read policy).looks backend state).head? = some (.ok stop) ∧
            stop.shift (-span) = .error failure := by
  constructor
  · intro hBreaks
    cases hBreaks with
    | unread hMem hFailed => exact .inl ⟨_, hMem, hFailed⟩
    | unseen hLook => exact .inr (.inl ⟨_, hLook⟩)
    | unreached hSpan hLook hShift => exact .inr (.inr ⟨_, hSpan, _, _, hLook, hShift⟩)
  · rintro (⟨_, hMem, hFailed⟩ | ⟨_, hLook⟩ | ⟨_, hSpan, _, _, hLook, hShift⟩)
    · exact .unread hMem hFailed
    · exact .unseen hLook
    · exact .unreached hSpan hLook hShift

/-- Only a dashboard lacks a current row, so the others fail by what breaks them. -/
theorem failsByBreaking_of_breaks (hDashboard : ∀ server, inquiry ≠ .dashboard server)
    (h : (∃ failure, ((inquiry.read policy).run backend state).result = .error failure) ↔
      inquiry.Breaks policy backend state) :
    inquiry.FailsByBreaking policy backend state :=
  h.trans (or_iff_left fun ⟨server, hServer, _⟩ => hDashboard server hServer).symm

/-- Where all reads matter and no look is taken, only a failed read breaks a run. -/
theorem failsByBreaking_of_failsByRead (h : (inquiry.read policy).FailsByRead backend state)
    (hBearing : inquiry.bearing policy backend state =
      (inquiry.read policy).transcript backend state)
    (hBack : inquiry.back? = none) (hDashboard : ∀ server, inquiry ≠ .dashboard server) :
    inquiry.FailsByBreaking policy backend state := by
  refine failsByBreaking_of_breaks hDashboard ?_
  rw [breaks_iff, hBearing, h.looks_eq, hBack, h.fails_iff]
  simp

theorem isMeant_tier (tier : Tier) (window : Window) :
    tier.IsMeant (some (.tier tier)) window := rfl

theorem isMeant_none (window : Window) :
    (Tier.forSpan (window.stop.position - window.start.position)).IsMeant none window := rfl

theorem failsByBreaking_series {window : Window} {given : Option Value}
    (h : WellPosed (.series server window given)) :
    FailsByBreaking policy backend state (.series server window given) := by
  obtain ⟨hWindow, tier, hTier⟩ := h
  exact failsByBreaking_of_failsByRead
    (Series.failsByRead policy server policy.substitutes hWindow hTier backend state) rfl rfl nofun

theorem failsByBreaking_historical {window : Window} {given : Value}
    (h : WellPosed (.historical server window given)) :
    FailsByBreaking policy backend state (.historical server window given) := by
  obtain ⟨hWindow, tier, hTier⟩ := h
  have hRead : read policy (.historical server window given) =
      Series.read policy server window (some (.tier tier)) policy.substitutes := by
    change Series.historical policy server window given = _
    rw [Series.historical, hTier]
    rfl
  refine failsByBreaking_of_failsByRead ?_ rfl rfl nofun
  rw [hRead]
  exact Series.failsByRead policy server policy.substitutes hWindow (isMeant_tier tier window)
    backend state

theorem failsByBreaking_heatmap {window : Window} (h : WellPosed (.heatmap server window)) :
    FailsByBreaking policy backend state (.heatmap server window) :=
  failsByBreaking_of_failsByRead
    ((Series.failsByRead policy server false h (isMeant_none window) backend state).map _)
    rfl rfl nofun

theorem failsByBreaking_compare {first second : Window}
    (h : WellPosed (.compare server first second)) :
    FailsByBreaking policy backend state (.compare server first second) := by
  have hFirst := Series.failsByRead policy server false h.1 (isMeant_none first) backend state
  have hSecond := fun state =>
    Series.failsByRead policy server false h.2 (isMeant_none second) backend state
  exact failsByBreaking_of_failsByRead (hFirst.bind fun one state => (hSecond state).map _)
    rfl rfl nofun

theorem failsByBreaking_realtime {span : Int} :
    FailsByBreaking policy backend state (.realtime server span) := by
  have hSteps : (∃ failure, ((read policy (.realtime server span)).run backend state).result =
      .error failure) ↔ (read policy (.realtime server span)).StepFails
        (min span Series.recentSpan) backend state :=
    fails_back_iff backend state _ _ fun start stop hWindow state =>
      Series.failsByRead policy server policy.substitutes hWindow (isMeant_tier .oneMinute _)
        backend state
  refine failsByBreaking_of_breaks nofun ?_
  rw [breaks_iff]
  simp only [back?, Option.some.injEq, exists_eq_left']
  exact hSteps

/-- Only what is not ordinary ends the reads of a summary, and they take no look at the clock. -/
theorem readTiers_fails (policy : Policy) (backend : Backend σ) (tiers : List Tier) (state : σ) :
    (Summary.readTiers policy tiers).looks backend state = [] ∧
      ∀ failure, ((Summary.readTiers policy tiers).run backend state).result = .error failure →
        failure.isOrdinary = false := by
  induction tiers generalizing state with
  | nil => exact ⟨rfl, nofun⟩
  | cons tier tiers ih =>
      let first := attempt (askPlainly (.stats (policy.source tier)))
      have hLooks : first.looks backend state = [] := by
        rw [looks_attempt, askPlainly, looks_read, looks_lift]
      obtain ⟨hRestLooks, hRest⟩ := ih (first.run backend state).state
      rw [Summary.readTiers]
      constructor
      · rw [looks_bind, hLooks]
        split
        · exact (looks_map _ _ _).trans hRestLooks
        · rfl
      · intro failure hFailure
        rw [result_bind] at hFailure
        split at hFailure
        · rename_i answer _
          change ((_ <$> Summary.readTiers policy tiers).run backend _).result = _ at hFailure
          rw [result_map] at hFailure
          cases hTiers : ((Summary.readTiers policy tiers).run backend
              (first.run backend state).state).result with
          | ok others =>
              rw [hTiers] at hFailure
              cases hFailure
          | error cause =>
              rw [hTiers] at hFailure
              cases hFailure
              exact hRest _ hTiers
        · rename_i hError
          cases hFailure
          exact not_isOrdinary_of_attempt hError

/-- The tiers of a summary that cannot be read are left out, so only its clock can break it. -/
theorem failsByBreaking_summary
    (hOrdinary : ∀ failure, ((read policy .summary).run backend state).result = .error failure →
      failure.isOrdinary = true) :
    FailsByBreaking policy backend state .summary := by
  obtain ⟨hNone, hFails⟩ := readTiers_fails policy backend Tier.all state
  refine failsByBreaking_of_breaks nofun ?_
  rw [breaks_iff]
  simp only [bearing, back?, List.not_mem_nil, false_and, exists_false, false_or, or_false,
    reduceCtorEq]
  exact fails_timed_iff _ hNone hFails hOrdinary

/-- What is required of a dashboard cannot be read if a step fails or there is no current row. -/
theorem fails_required_iff (policy : Policy) (server : String) (backend : Backend σ) (state : σ) :
    (∃ failure, ((Dashboard.Required.read policy server).run backend state).result =
      .error failure) ↔
        (Dashboard.Required.read policy server).StepFails day backend state ∨
          ((Dashboard.Required.read policy server).transcript backend state).head? =
            some ⟨Dashboard.latestQuestion policy server, .ok none⟩ := by
  rw [Dashboard.Required.read, Dashboard.latest, ask_bind, StepFails, result_read, transcript_read,
    looks_read]
  generalize (backend.answer state _).2 = asked
  generalize (backend.answer state _).1.heard = reading
  rcases reading with failure | _ | current
  · exact iff_of_true ⟨_, rfl⟩ (.inl (.inl ⟨_, List.mem_cons_self, failure, rfl⟩))
  · exact iff_of_true ⟨_, rfl⟩ (.inr rfl)
  · have hRest := fails_back_iff backend asked day
      (fun start stop => Dashboard.Required.mk current ⟨start, stop⟩ <$>
        Series.read policy server ⟨start, stop⟩ none policy.substitutes)
      fun start stop hWindow state =>
        (Series.failsByRead policy server policy.substitutes hWindow (isMeant_none _) backend
          state).map _
    have hRow : ¬Exchange.Failed ⟨Dashboard.latestQuestion policy server, .ok (some current)⟩ := by
      simp [Exchange.Failed]
    refine hRest.trans ?_
    rw [StepFails]
    simp only [List.exists_mem_cons_iff, hRow, false_or, List.head?_cons, Option.some.injEq]
    refine (or_iff_left ?_).symm
    intro hNone
    cases hNone

/-- A dashboard fails as what is required of it does, or by the time that it is to show. -/
theorem failsByBreaking_dashboard
    (hOrdinary : ∀ failure,
      ((read policy (.dashboard server)).run backend state).result = .error failure →
        failure.isOrdinary = true) :
    FailsByBreaking policy backend state (.dashboard server) := by
  have hRead : read policy (.dashboard server) =
      Dashboard.Required.read policy server >>= Dashboard.Required.finish policy server :=
    Dashboard.read_eq policy server
  have hAbsent : Absent policy backend state (.dashboard server) ↔
      ((read policy (.dashboard server)).transcript backend state).head? =
        some ⟨Dashboard.latestQuestion policy server, .ok none⟩ :=
    ⟨fun ⟨_, hServer, h⟩ => Inquiry.dashboard.inj hServer ▸ h, fun h => ⟨server, rfl, h⟩⟩
  have hRequired := fails_required_iff policy server backend state
  rw [FailsByBreaking, hAbsent, breaks_iff]
  simp only [bearing, back?, Option.some.injEq, exists_eq_left', Dashboard.requiredReads]
  rw [hRead] at hOrdinary ⊢
  rw [result_bind] at hOrdinary ⊢
  rw [looks_bind, transcript_bind]
  cases hFound : ((Dashboard.Required.read policy server).run backend state).result with
  | error failure =>
      rw [hFound] at hRequired
      simpa [StepFails] using hRequired
  | ok found =>
      have hClock := Dashboard.Required.isDay_of_mem_looks hFound
      have course := Dashboard.Required.course_read hClock
      obtain ⟨⟨rest, hReads⟩, hSeen, hDay⟩ := course.found hFound
      rw [hFound] at hOrdinary
      have hCells : (Series.heatmap policy server found.window).FailsByRead backend
          ((Dashboard.Required.read policy server).run backend state).state :=
        (Series.failsByRead policy server false hDay.comparable (isMeant_none _) backend _).map _
      have hTime := fails_timed_iff (found.view server) ((looks_attempt _ _).trans hCells.looks_eq)
        (fun _ hFailure => not_isOrdinary_of_attempt hFailure) hOrdinary
      refine hTime.trans ⟨?_, ?_⟩
      · rintro ⟨failure, hMem⟩
        exact .inl (.inr (.inl ⟨failure, List.mem_append_right _ hMem⟩))
      -- Where what is required was read, only the last look at the clock is left to fail.
      · rintro ((hFailed | ⟨failure, hMem⟩ | ⟨stop, failure, hHead, hShift⟩) | hNone)
        · obtain ⟨failure, hFailure⟩ := hRequired.mpr (.inl (.inl hFailed))
          cases hFound.symm.trans hFailure
        · rcases List.mem_append.mp hMem with hMem | hMem
          · rw [hSeen] at hMem
            simp at hMem
          · exact ⟨failure, hMem⟩
        · rw [hSeen] at hHead
          cases hHead
          cases hDay.symm.trans hShift
        · rw [hReads] at hNone
          cases hNone

/-- An inquiry with measurable windows and a known tier that ends by nothing but what is ordinary
fails exactly if one of its steps does, or if there is no current row. -/
theorem failsByBreaking (hPosed : inquiry.WellPosed)
    (hOrdinary : ∀ failure, ((inquiry.read policy).run backend state).result = .error failure →
      failure.isOrdinary = true) :
    inquiry.FailsByBreaking policy backend state := by
  cases inquiry with
  | series server window given => exact failsByBreaking_series hPosed
  | realtime server span => exact failsByBreaking_realtime
  | historical server window given => exact failsByBreaking_historical hPosed
  | heatmap server window => exact failsByBreaking_heatmap hPosed
  | compare server first second => exact failsByBreaking_compare hPosed
  | dashboard server => exact failsByBreaking_dashboard hOrdinary
  | summary => exact failsByBreaking_summary hOrdinary

section Absent

/-- What is required of a dashboard starts with the current row. -/
theorem head?_transcript_append (exchanges : List Exchange) :
    ((Dashboard.Required.read policy server).transcript backend state ++ exchanges).head? =
      ((Dashboard.Required.read policy server).transcript backend state).head? := by
  rw [Dashboard.Required.read, Dashboard.latest, ask_bind, transcript_read]
  rfl

/-- If the first read tells that there is no current row, it is the only step. -/
theorem required_of_head?
    (h : ((Dashboard.Required.read policy server).transcript backend state).head? =
      some ⟨Dashboard.latestQuestion policy server, .ok none⟩) :
    (Dashboard.Required.read policy server).transcript backend state =
        [⟨Dashboard.latestQuestion policy server, .ok none⟩] ∧
      (Dashboard.Required.read policy server).looks backend state = [] ∧
        ((Dashboard.Required.read policy server).run backend state).result =
          .error (.noCurrentData server) := by
  rw [Dashboard.Required.read, Dashboard.latest, ask_bind, transcript_read] at h ⊢
  rw [looks_read, result_read]
  generalize (backend.answer state _).2 = asked at h ⊢
  generalize (backend.answer state _).1.heard = reading at h ⊢
  cases h
  exact ⟨rfl, rfl, rfl⟩

/-- No step of a run that lacks a current row fails. -/
theorem Absent.not_breaks (h : inquiry.Absent policy backend state) :
    ¬inquiry.Breaks policy backend state := by
  obtain ⟨server, rfl, hHead⟩ := h
  have hRead : read policy (.dashboard server) =
      Dashboard.Required.read policy server >>= Dashboard.Required.finish policy server :=
    Dashboard.read_eq policy server
  rw [hRead, transcript_bind, head?_transcript_append] at hHead
  obtain ⟨hReads, hLooks, hResult⟩ := required_of_head? hHead
  rw [breaks_iff, hRead, looks_bind, hLooks, hResult]
  simp [bearing, Dashboard.requiredReads, hReads, Exchange.Failed]

variable (terms : Terms) (hMay : ∀ question, terms.may question)
  (hQuiet : ∀ server, ¬terms.Raises (.noCurrentData server))
include hMay hQuiet

/-- Where no step raises the lack of a current row, only the first read tells it. -/
theorem required_head?_of_result {missing : String}
    (hTold : ∀ exchange ∈ (Dashboard.Required.read policy server).transcript backend state,
      terms.told exchange)
    (hSeen : ∀ reading ∈ (Dashboard.Required.read policy server).looks backend state,
      terms.seen reading)
    (h : ((Dashboard.Required.read policy server).run backend state).result =
      .error (.noCurrentData missing)) :
    ((Dashboard.Required.read policy server).transcript backend state).head? =
      some ⟨Dashboard.latestQuestion policy server, .ok none⟩ := by
  rw [Dashboard.Required.read, Dashboard.latest, ask_bind] at hTold hSeen h ⊢
  rw [transcript_read, List.forall_mem_cons] at hTold
  rw [looks_read] at hSeen
  rw [result_read] at h
  rw [transcript_read, List.head?_cons]
  generalize (backend.answer state _).2 = asked at hTold hSeen h ⊢
  generalize (backend.answer state _).1.heard = reading at hTold hSeen h ⊢
  rcases reading with failure | _ | current
  · have hRaises := Terms.Raises.asked hTold.1
    rw [Except.error.inj h] at hRaises
    exact absurd hRaises (hQuiet missing)
  · rfl
  · have hShown : terms.Shows current :=
      ⟨Dashboard.latestQuestion policy server, some current, hTold.1, List.mem_singleton_self _⟩
    have hRaises := (keeps_required_current policy (fun _ _ => hMay _) hShown).result hTold.2 hSeen
    dsimp only at h
    rw [h] at hRaises
    exact absurd hRaises (hQuiet missing)

/-- Where no step raises the lack of a current row, only a dashboard tells it, by its first read. -/
theorem absent_iff
    (hTold : ∀ exchange ∈ (inquiry.read policy).transcript backend state, terms.told exchange)
    (hSeen : ∀ reading ∈ (inquiry.read policy).looks backend state, terms.seen reading) :
    (∃ server, ((inquiry.read policy).run backend state).result = .error (.noCurrentData server)) ↔
      inquiry.Absent policy backend state := by
  have hRead : ∀ server, read policy (.dashboard server) =
      Dashboard.Required.read policy server >>= Dashboard.Required.finish policy server :=
    Dashboard.read_eq policy
  constructor
  · rintro ⟨missing, hResult⟩
    have hEnds := ends terms hMay hTold hSeen
    rw [hResult] at hEnds
    generalize hFailure : Failure.noCurrentData missing = failure at hEnds
    cases hEnds with
    | raised h => exact absurd (hFailure ▸ h) (hQuiet missing)
    | refused hGiven h =>
        cases hFailure.trans (Tier.unsupported_of_ofValue h)
    | absent hInquiry h =>
        rename_i server
        subst hInquiry
        refine ⟨server, rfl, ?_⟩
        rw [hRead, transcript_bind, List.forall_mem_append] at hTold
        rw [hRead, looks_bind, List.forall_mem_append] at hSeen
        rw [hRead, result_bind] at hResult
        rw [hRead, transcript_bind, head?_transcript_append]
        cases hRequired : ((Dashboard.Required.read policy server).run backend state).result with
        | error cause =>
            rw [hRequired] at hResult
            cases hResult
            exact required_head?_of_result terms hMay hQuiet hTold.1 hSeen.1 hRequired
        | ok found =>
            rw [hRequired] at hTold hSeen hResult
            have hFound := (keeps_required policy fun _ _ => hMay _).result hTold.1 hSeen.1
            rw [hRequired] at hFound
            have hFinish := (keeps_finish policy (fun _ _ => hMay _) hFound).result hTold.2 hSeen.2
            dsimp only at hResult
            rw [hResult] at hFinish
            exact absurd hFinish (hQuiet missing)
  · rintro ⟨server, rfl, hHead⟩
    rw [hRead, transcript_bind, head?_transcript_append] at hHead
    refine ⟨server, ?_⟩
    rw [hRead, result_bind, (required_of_head? hHead).2.2]

end Absent

end Inquiry

end Rollup
