import Mathlib
import Rollup.Proofs.Dashboard.Completeness
import Rollup.Proofs.Http.Page
import Rollup.Proofs.Inquiry.Breakage
import Rollup.Proofs.Series.Reference
import Rollup.Proofs.Session.Cancellation
import Rollup.Proofs.Store.Failure

/-!
Requests are checked before anything is asked, and the check decides the status. A request that is
refused has asked nothing. One whose parameters are in order is never refused: its status tells
whether there was no current row, whether a step failed, or whether the answer is there.
-/
namespace Rollup

open Program

/-- The terms on which reads and the clock fail only by such failures. -/
def Terms.failingBy (cause : Failure → Prop) : Terms where
  told exchange := ∀ failure, exchange.answer = .error failure → cause failure
  seen reading := ∀ failure, reading = .error failure → cause failure

/-- An inquiry whose reads and clock fail by what is ordinary does not end otherwise. -/
theorem Inquiry.isOrdinary_of_ends {policy : Policy} {inquiry : Inquiry} {failure : Failure}
    (h : inquiry.Ends (.failingBy fun failure => failure.isOrdinary = true) policy
      (.error failure)) :
    failure.isOrdinary = true := by
  cases h with
  | raised h =>
      cases h with
      | asked hTold => exact (isOrdinary_asSeen _ _).trans (hTold _ rfl)
      | looked hSeen => exact hSeen _ rfl
      | calculated fault => rfl
  | refused hGiven h => rw [Tier.unsupported_of_ofValue h]; rfl
  | absent => rfl

/-- An inquiry with a tier that stands for none is refused before anything is asked. -/
theorem Inquiry.transcript_of_refused {policy : Policy} {inquiry : Inquiry} {value : Value}
    {failure : Failure} {σ : Type} {backend : Backend σ} {state : σ}
    (hGiven : inquiry.given? = some value)
    (h : Tier.ofValue value inquiry.server? = .error failure) :
    (inquiry.read policy).transcript backend state = [] := by
  cases inquiry with
  | series server window given =>
      cases hGiven
      change Tier.ofValue value (some server) = _ at h
      change (Series.read policy server window (some value) policy.substitutes).transcript _ _ = _
      rw [Series.read, Series.tierFor, h]
      rfl
  | historical server window given =>
      cases hGiven
      change Tier.ofValue value (some server) = _ at h
      change (Series.historical policy server window value).transcript _ _ = _
      rw [Series.historical, h]
      rfl
  | _ => cases hGiven

/-- A well-posed inquiry is not refused. -/
theorem Inquiry.WellPosed.not_refused {inquiry : Inquiry} {value : Value} {failure : Failure}
    (hPosed : inquiry.WellPosed) (hGiven : inquiry.given? = some value)
    (h : Tier.ofValue value inquiry.server? = .error failure) : False := by
  cases inquiry with
  | series server window given =>
      cases hGiven
      obtain ⟨hWindow, tier, hTier⟩ := hPosed
      have hMeant : Series.tierFor (some value) server window = .ok tier :=
        Series.tierFor_eq hWindow hTier
      cases hMeant.symm.trans h
  | historical server window given =>
      cases hGiven
      obtain ⟨-, tier, hTier⟩ := hPosed
      cases hTier.symm.trans h
  | _ => cases hGiven

namespace Http

variable {σ : Type} {backend : Backend σ} {state : σ}

/-- A step that fails by a cause that is not the library's own answers with the status 500. -/
theorem statusOf_of_raises {failure : Failure}
    (h : (Terms.failingBy fun failure => failure.isOwn = false).Raises failure) :
    statusOf failure = 500 := by
  have hForeign : ∀ cause : Failure, cause.isOwn = false → statusOf cause = 500 := by
    intro cause hCause
    cases cause <;> first | rfl | cases hCause
  cases h with
  | asked hTold =>
      have hCause := hTold _ rfl
      rw [asSeen]
      split
      · exact hForeign _ hCause
      · rfl
  | looked hSeen => exact hForeign _ (hSeen _ rfl)
  | calculated fault => rfl

namespace Site

variable (site : Site) (given : List (String × String))

/-- The parameters give a window that the site accepts. -/
def Accepts (label : String) : Prop :=
  ∃ window : Window, window.Given (parameter? (label ++ "start") given)
    (parameter? (label ++ "end") given) site.longest

/-- The parameters of a route are in order. -/
def InOrder : Route → Prop
  | .server _ .metrics | .server _ .heatmap => site.Accepts given ""
  | .server _ .realtime =>
    ∃ span, Duration.Given ((parameter? "duration" given).getD "1h") span
  | .server _ .historical =>
    site.Accepts given "" ∧ ∀ text ∈ parameter? "granularity" given,
      text = "" ∨ ∃ tier, Tier.ofText? text = some tier
  | .server _ .comparison => site.Accepts given "period1_" ∧ site.Accepts given "period2_"
  | .server _ .dashboard | .summary => True

variable {site given} {route : Route} {inquiry : Inquiry}

theorem window_of_accepts {label : String} (h : site.Accepts given label) :
    ∃ window : Window, site.window given label = .ok window ∧ window.Comparable := by
  obtain ⟨window, hWindow⟩ := h
  exact ⟨window, Window.ofTexts_eq_ok_iff.mpr hWindow, hWindow.aware.comparable⟩

/-- Parameters in order make a well-posed inquiry. -/
theorem inquiry_of_inOrder (h : site.InOrder given route) :
    ∃ inquiry, site.inquiry given route = .ok inquiry ∧ inquiry.WellPosed := by
  have hSeries : ∀ id window, Window.Comparable window →
      Inquiry.WellPosed (.series id window none) :=
    fun id window hWindow => ⟨hWindow, _, Inquiry.isMeant_none window⟩
  cases route with
  | summary => exact ⟨.summary, rfl, trivial⟩
  | server id page =>
      cases page with
      | metrics =>
          obtain ⟨window, hWindow, hComparable⟩ := window_of_accepts h
          refine ⟨.series id window none, ?_, hSeries id window hComparable⟩
          rw [Site.inquiry, hWindow]
          rfl
      | realtime =>
          obtain ⟨span, hSpan⟩ := h
          refine ⟨.realtime id span, ?_, trivial⟩
          rw [Site.inquiry, Duration.ofText_eq_ok_iff.mpr hSpan]
          rfl
      | historical =>
          obtain ⟨hAccepts, hTier⟩ := h
          obtain ⟨window, hWindow, hComparable⟩ := window_of_accepts hAccepts
          refine ⟨historicalInquiry id window (parameter? "granularity" given), ?_, ?_⟩
          · rw [Site.inquiry, hWindow]
            rfl
          generalize parameter? "granularity" given = raw at hTier
          cases raw with
          | none => exact hSeries id window hComparable
          | some text =>
              rw [historicalInquiry]
              split
              · exact hSeries id window hComparable
              · rename_i hSome
                obtain ⟨tier, hText⟩ := (hTier text rfl).resolve_left hSome
                refine ⟨hComparable, tier, ?_⟩
                simp [Tier.ofValue, hText]
      | dashboard => exact ⟨.dashboard id, rfl, trivial⟩
      | comparison =>
          obtain ⟨first, hFirst, hComparable⟩ := window_of_accepts h.1
          obtain ⟨second, hSecond, hComparable'⟩ := window_of_accepts h.2
          refine ⟨.compare id first second, ?_, hComparable, hComparable'⟩
          rw [Site.inquiry, hFirst, hSecond]
          rfl
      | heatmap =>
          obtain ⟨window, hWindow, hComparable⟩ := window_of_accepts h
          refine ⟨.heatmap id window, ?_, hComparable⟩
          rw [Site.inquiry, hWindow]
          rfl

/-- Only the page of a dashboard inquires for one. -/
theorem route_of_dashboard {server : String}
    (h : site.inquiry given route = .ok (.dashboard server)) :
    route = .server server .dashboard := by
  cases route with
  | summary => cases h
  | server id page =>
      cases page with
      | dashboard =>
          cases h
          rfl
      | historical =>
          rw [Site.inquiry] at h
          obtain ⟨window, -, h⟩ := exists_of_bind_eq_ok h
          generalize parameter? "granularity" given = raw at h
          cases raw with
          | none => cases h
          | some text =>
              simp only [historicalInquiry] at h
              split at h <;> cases h
      | comparison =>
          rw [Site.inquiry] at h
          obtain ⟨first, -, h⟩ := exists_of_bind_eq_ok h
          obtain ⟨second, -, h⟩ := exists_of_bind_eq_ok h
          cases h
      | _ =>
          rw [Site.inquiry] at h
          obtain ⟨window, -, h⟩ := exists_of_bind_eq_ok h
          cases h

end Site

variable {inquiry : Inquiry} {policy : Policy} {response : Response}

/-- An answered page shows a result, or has the status of the failure. -/
theorem status_of_answers {result : Except Failure inquiry.Result}
    (h : Answers (result.map inquiry.toValue) (.ok response)) :
    (∃ found, result = .ok found ∧ response.status = 200) ∨
      ∃ failure, result = .error failure ∧ failure.isOrdinary = true ∧
        response.status = statusOf failure := by
  cases result with
  | ok found =>
      cases h
      exact .inl ⟨found, rfl, rfl⟩
  | error failure =>
      cases h with
      | explained hOrdinary hBody => exact .inr ⟨failure, rfl, hOrdinary, rfl⟩

section Foreign

variable
  (hTold : ∀ exchange ∈ (inquiry.read policy).transcript backend state,
    ∀ failure, exchange.answer = .error failure → failure.isOwn = false)
  (hSeen : ∀ reading ∈ (inquiry.read policy).looks backend state,
    ∀ failure, reading = .error failure → failure.isOwn = false)
  (h : Answers (((inquiry.read policy).run backend state).result.map inquiry.toValue)
    (.ok response))
include hTold hSeen h

/-- Where no step fails by a cause of the library itself, only a refused tier is a bad request. -/
theorem transcript_of_bad_request (hStatus : response.status = 400) :
    (inquiry.read policy).transcript backend state = [] := by
  have hEnds := Inquiry.ends (.failingBy fun failure => failure.isOwn = false) (fun _ => trivial)
    hTold hSeen
  rcases status_of_answers h with ⟨found, -, hFound⟩ | ⟨failure, hFailure, -, hCause⟩
  · cases hFound.symm.trans hStatus
  rw [hFailure] at hEnds
  rw [hStatus] at hCause
  cases hEnds with
  | raised hRaises => cases hCause.trans (statusOf_of_raises hRaises)
  | refused hGiven hTier => exact Inquiry.transcript_of_refused hGiven hTier
  | absent => cases hCause

/-- Where no step fails by a cause of the library itself, the status of a well-posed inquiry tells
what became of it. -/
theorem status_iff (hPosed : inquiry.WellPosed) :
    (response.status = 404 ↔ inquiry.Absent policy backend state) ∧
      (response.status = 500 ↔ inquiry.Breaks policy backend state) ∧
        (response.status = 200 ∨ response.status = 404 ∨ response.status = 500) := by
  have hEnds := Inquiry.ends (.failingBy fun failure => failure.isOwn = false) (fun _ => trivial)
    hTold hSeen
  have hAbsent := Inquiry.absent_iff (.failingBy fun failure => failure.isOwn = false)
    (fun _ => trivial) (fun server hRaises => by cases statusOf_of_raises hRaises) hTold hSeen
  have hOrdinary : ∀ failure, ((inquiry.read policy).run backend state).result = .error failure →
      failure.isOrdinary = true := by
    intro failure hFailure
    rcases status_of_answers h with ⟨found, hFound, -⟩ | ⟨cause, hCause, hOrdinary, -⟩
    · cases hFound.symm.trans hFailure
    · cases hCause.symm.trans hFailure
      exact hOrdinary
  have hFails := Inquiry.failsByBreaking hPosed hOrdinary
  rcases status_of_answers h with ⟨found, hFound, hStatus⟩ | ⟨failure, hFailure, -, hStatus⟩
  · have hNone : ¬(inquiry.Breaks policy backend state ∨ inquiry.Absent policy backend state) := by
      intro hEither
      obtain ⟨failure, hFailure⟩ := hFails.mpr hEither
      cases hFound.symm.trans hFailure
    rw [hStatus]
    exact ⟨iff_of_false (by decide) fun hMissing => hNone (.inr hMissing),
      iff_of_false (by decide) fun hBreaks => hNone (.inl hBreaks), .inl rfl⟩
  have hEither := hFails.mp ⟨failure, hFailure⟩
  rw [hFailure] at hEnds hAbsent
  generalize hResult : Except.error failure = result at hEnds
  cases hEnds with
  | shown => cases hResult
  | raised hRaises =>
      cases hResult
      rw [hStatus, statusOf_of_raises hRaises]
      have hPresent : ¬inquiry.Absent policy backend state := by
        intro hMissing
        obtain ⟨server, hServer⟩ := hAbsent.mpr hMissing
        cases hServer
        cases statusOf_of_raises hRaises
      exact ⟨iff_of_false (by decide) hPresent, iff_of_true rfl (hEither.resolve_right hPresent),
        .inr (.inr rfl)⟩
  | refused hGiven hTier => exact (hPosed.not_refused hGiven hTier).elim
  | absent hInquiry hLatest =>
      cases hResult
      have hMissing := hAbsent.mp ⟨_, rfl⟩
      rw [hStatus]
      exact ⟨iff_of_true rfl hMissing, iff_of_false nofun hMissing.not_breaks, .inr (.inl rfl)⟩

end Foreign

/-- Where reads and the clock fail by nothing but what is ordinary, an inquiry is answered exactly
if all numbers of its result are finite and all integers of it have few enough digits. -/
theorem answered_iff {answered : Except Failure Response}
    (hTold : ∀ exchange ∈ (inquiry.read policy).transcript backend state,
      ∀ failure, exchange.answer = .error failure → failure.isOrdinary = true)
    (hSeen : ∀ reading ∈ (inquiry.read policy).looks backend state,
      ∀ failure, reading = .error failure → failure.isOrdinary = true)
    (h : Answers (((inquiry.read policy).run backend state).result.map inquiry.toValue) answered) :
    (∃ response, answered = .ok response) ↔
      ∀ found, ((inquiry.read policy).run backend state).result = .ok found →
        AllFinite (inquiry.readings found) ∧ AllFinite (inquiry.derived found) ∧
          AllShort (inquiry.integers found) := by
  have hEnds := Inquiry.ends (.failingBy fun failure => failure.isOrdinary = true)
    (fun _ => trivial) hTold hSeen
  cases hResult : ((inquiry.read policy).run backend state).result with
  | ok found =>
      have hEncodes := inquiry.encodes_toValue found
      rw [hResult] at h
      simp only [Except.ok.injEq, forall_eq', ← hEncodes]
      cases h with
      | shown hBody => exact iff_of_true ⟨_, rfl⟩ ⟨_, hBody⟩
      | unshown hFailure =>
          refine iff_of_false nofun ?_
          rintro ⟨body, hBody⟩
          cases hBody.symm.trans hFailure
  | error failure =>
      rw [hResult] at h hEnds
      refine iff_of_true ?_ nofun
      cases h with
      | explained => exact ⟨_, rfl⟩
      | cancelled hCancelled =>
          rw [Inquiry.isOrdinary_of_ends hEnds] at hCancelled
          cases hCancelled

/-- Where neither a read nor the clock fails by a cause of the library itself, a bad request has
asked nothing. -/
theorem Site.silent_of_bad_request {site : Site} {request : Request}
    (hRead : ∀ exchange ∈ (site.handle request).transcript backend state,
      ∀ failure, exchange.answer = .error failure → failure.isOwn = false)
    (hClock : ∀ reading ∈ (site.handle request).looks backend state,
      ∀ failure, reading = .error failure → failure.isOwn = false)
    (hResponse : ((site.handle request).run backend state).result = .ok response)
    (hStatus : response.status = 400) :
    (site.handle request).transcript backend state = [] := by
  rcases Site.inquires_or_silent site request backend state with
    ⟨route, inquiry, hMethod, hRoute, hInquiry⟩ | hSilent
  · obtain ⟨hReads, hLooks, hAnswers⟩ :=
      Site.run_of_inquiry backend state hMethod hRoute hInquiry
    rw [hReads] at hRead ⊢
    rw [hLooks] at hClock
    rw [hResponse] at hAnswers
    exact transcript_of_bad_request hRead hClock hAnswers hStatus
  · exact hSilent

/-- Where neither a read nor the clock fails by a cause of the library itself, a bad request has
asked nothing. If the parameters of a page are in order, it is no bad request: its status tells that
there is no current row for a dashboard, that a step failed that nothing absorbs, or that the answer
is there. A read that is cancelled ends the request without a response. Where neither a read nor the
clock is cancelled, the response is missing exactly if the result has a number that is not finite or
an integer with too many digits to be told. -/
theorem Site.handle_checked (site : Site) (request : Request) (backend : Backend σ) (state : σ)
    (hRead : ∀ exchange ∈ (site.handle request).transcript backend state,
      ∀ failure, exchange.answer = .error failure → failure.isOwn = false)
    (hClock : ∀ reading ∈ (site.handle request).looks backend state,
      ∀ failure, reading = .error failure → failure.isOwn = false) :
    let run := (site.handle request).run backend state
    let exchanges := (site.handle request).transcript backend state
    let looks := (site.handle request).looks backend state
    (∀ response, run.result = .ok response → response.status = 400 → run.trace = []) ∧
      ∀ route, request.method = "GET" → Route.ofPath? request.path.toList = some route →
        site.InOrder (parameters request.query) route →
          ∃ inquiry, site.inquiry (parameters request.query) route = .ok inquiry ∧
            (∀ response, run.result = .ok response →
              (response.status = 200 ∨ response.status = 404 ∨ response.status = 500) ∧
                (response.status = 404 ↔ ∃ id, route = .server id .dashboard ∧
                  exchanges.head? = some ⟨Dashboard.latestQuestion site.policy id, .ok none⟩) ∧
                (response.status = 500 ↔ inquiry.Breaks site.policy backend state)) ∧
            ((∃ exchange ∈ exchanges, exchange.answer = .error .cancelled) →
              run.result = .error .cancelled) ∧
            ((∀ exchange ∈ exchanges, ∀ failure, exchange.answer = .error failure →
                failure.isOrdinary = true) →
              (∀ reading ∈ looks, ∀ failure, reading = .error failure →
                failure.isOrdinary = true) →
              ((∃ response, run.result = .ok response) ↔ ∀ found,
                ((inquiry.read site.policy).run backend state).result = .ok found →
                  AllFinite (inquiry.readings found) ∧ AllFinite (inquiry.derived found) ∧
                    AllShort (inquiry.integers found))) := by
  dsimp only
  refine ⟨?_, ?_⟩
  · intro response hResponse hStatus
    rw [trace_run, List.map_eq_nil_iff]
    exact Site.silent_of_bad_request hRead hClock hResponse hStatus
  · intro route hMethod hRoute hOrder
    obtain ⟨inquiry, hInquiry, hPosed⟩ := Site.inquiry_of_inOrder hOrder
    obtain ⟨hReads, hLooks, hAnswers⟩ :=
      Site.run_of_inquiry backend state hMethod hRoute hInquiry
    have hCancelled : (∃ exchange ∈ (site.handle request).transcript backend state,
        exchange.answer = .error .cancelled) →
          ((site.handle request).run backend state).result = .error .cancelled := by
      rintro ⟨exchange, hMem, hAnswer⟩
      exact (site.yields_handle request).result_of_cancelled hMem hAnswer
    rw [hReads] at hRead hCancelled ⊢
    rw [hLooks] at hClock ⊢
    refine ⟨inquiry, hInquiry, ?_, hCancelled,
      fun hOrdinary hTimely => answered_iff hOrdinary hTimely hAnswers⟩
    intro response hResponse
    rw [hResponse] at hAnswers
    obtain ⟨hMissing, hFailed, hStatus⟩ := status_iff hRead hClock hAnswers hPosed
    refine ⟨hStatus, hMissing.trans ?_, hFailed⟩
    constructor
    · rintro ⟨server, rfl, hHead⟩
      exact ⟨server, Site.route_of_dashboard hInquiry, hHead⟩
    · rintro ⟨id, rfl, hHead⟩
      cases hInquiry
      exact ⟨id, rfl, hHead⟩

/-- A request for a day in rows of ten minutes. -/
def historicalRequest : Request where
  method := "GET"
  host := "localhost"
  path := "/servers/web-1/metrics/historical"
  query := "start=2021-07-29T00:00:00Z&end=2021-07-30T00:00:00Z&granularity=10m"

/-- The site with the usual policy and limit. -/
def Site.usual : Site := ⟨.usual, some Window.defaultLimit⟩

/-- What the request inquires. -/
def historicalInquiry10m : Inquiry := .historical "web-1" .oneDay (.text "10m")

theorem Site.inquiry_historicalRequest :
    Site.usual.inquiry (parameters historicalRequest.query) (.server "web-1" .historical) =
      .ok historicalInquiry10m := rfl

theorem Site.inOrder_historicalRequest :
    Site.usual.InOrder (parameters historicalRequest.query) (.server "web-1" .historical) := by
  have hWindow : Site.usual.window (parameters historicalRequest.query) "" = .ok .oneDay := rfl
  refine ⟨⟨.oneDay, Window.ofTexts_eq_ok_iff.mp hWindow⟩, ?_⟩
  rintro _ ⟨⟩
  exact .inr ⟨.tenMinutes, rfl⟩

/-- Where the first read fails, a request for rows breaks. -/
theorem breaks_historicalRequest (failure : Failure) :
    historicalInquiry10m.Breaks .usual (.disturbedAt 0 (.ended (.error failure))) 0 :=
  .unread List.mem_cons_self ⟨_, rfl⟩

/-- The first read fails. The request is in order, so it is answered, and with the status 500. -/
theorem Site.handle_checked_unread :
    let site : Site := ⟨.usual, some Window.defaultLimit⟩
    let backend := Backend.disturbedAt 0 (.ended (.error (.foreign "OSError" "disk I/O error")))
    site.InOrder (parameters historicalRequest.query) (.server "web-1" .historical) ∧
      ∃ response, ((site.handle historicalRequest).run backend 0).result = .ok response ∧
        response.status = 500 := by
  intro site backend
  have hRead : ∀ exchange ∈ (site.handle historicalRequest).transcript backend 0,
      ∀ failure, exchange.answer = .error failure →
        failure.isOwn = false ∧ failure.isOrdinary = true := by
    intro exchange hMem failure hFailure
    rw [eq_of_failed_disturbedAt exchange hMem failure hFailure]
    exact ⟨rfl, rfl⟩
  have hClock : ∀ reading ∈ (site.handle historicalRequest).looks backend 0,
      ∀ failure, reading ≠ .error failure :=
    forall_mem_looks (fun _ => nofun) _ _
  obtain ⟨-, hPage⟩ := Site.handle_checked site historicalRequest backend 0
    (fun exchange hMem failure hFailure => (hRead exchange hMem failure hFailure).1)
    (fun reading hMem failure hFailure => absurd hFailure (hClock reading hMem failure))
  obtain ⟨inquiry, hInquiry, hStatus, -, hAnswered⟩ :=
    hPage (.server "web-1" .historical) rfl rfl Site.inOrder_historicalRequest
  cases Site.inquiry_historicalRequest.symm.trans hInquiry
  have hUnread : ∀ found,
      ((historicalInquiry10m.read site.policy).run backend 0).result ≠ .ok found := by
    intro found hFound
    change ((Series.historical site.policy "web-1" .oneDay (.text "10m")).run backend 0).result =
      .ok found at hFound
    cases hFound
  obtain ⟨response, hResponse⟩ :=
    (hAnswered (fun exchange hMem failure hFailure => (hRead exchange hMem failure hFailure).2)
      fun reading hMem failure hFailure => absurd hFailure (hClock reading hMem failure)).mpr
      fun found hFound => absurd hFound (hUnread found)
  exact ⟨Site.inOrder_historicalRequest, response, hResponse,
    (hStatus response hResponse).2.2.mpr (breaks_historicalRequest _)⟩

/-- A row at the end of the day that counts more samples than have a text. -/
def countlessRow : Point :=
  ⟨Window.oneDay.stop, { Readings.zero with samples := 10 ^ Text.maxDigits }⟩

/-- A store that holds this row alone. -/
def countlessMemory : Memory := ⟨[⟨"metrics_10m_avg", "web-1", [countlessRow]⟩], []⟩

/-- The series that shows this row. -/
def countlessSeries : Series := ⟨"web-1", .oneDay, .tenMinutes, [countlessRow], none, false⟩

theorem not_short_countlessRow : ¬Text.Short countlessRow.readings.samples := by
  intro h
  have hLt : (10 ^ Text.maxDigits : Int).natAbs < 10 ^ Text.maxDigits := h.lt
  have hTen : (10 : Int).natAbs = 10 := rfl
  rw [Int.natAbs_pow, hTen] at hLt
  exact lt_irrefl _ hLt

theorem allFinite_countlessRow : AllFinite countlessRow.readings.numbers := by
  have hZero : Number.Binary64.isFinite 0 = true := by decide
  simp [countlessRow, Readings.numbers, Readings.zero, PerMetric.toList, PerMetric.fill, AllFinite,
    hZero]

/-- The day is read as it was written. -/
theorem read_countlessMemory {κ : Type} (clock : κ → Except Failure Timestamp × κ) (hand : κ) :
    ((historicalInquiry10m.read .usual).run (Store.backend clock)
      (.memory countlessMemory, hand)).result = .ok countlessSeries := by
  have hWritten : countlessMemory.written "metrics_10m_avg" "web-1" = [countlessRow] := rfl
  have hAware : countlessMemory.Aware "metrics_10m_avg" "web-1" := by
    intro p hMem
    rw [hWritten, List.mem_singleton] at hMem
    rw [hMem]
    rfl
  have hChronicle : countlessMemory.chronicle "metrics_10m_avg" "web-1" = [countlessRow] := by
    rw [Memory.chronicle, hWritten]
    exact List.mergeSort_singleton _
  have hComparable : Window.Comparable .oneDay := rfl
  have hMeant : Tier.IsMeant (some (.tier .tenMinutes)) .oneDay .tenMinutes := rfl
  have hRun : ((Series.read .usual "web-1" .oneDay (some (.tier .tenMinutes)) true).run
      (Store.backend clock) (.memory countlessMemory, hand)).result =
        .ok (Series.expected .usual "web-1" .oneDay .tenMinutes true
          (countlessMemory.chronicle "metrics_10m_avg" "web-1")) :=
    (Series.course_run hComparable hMeant _ _).result_eq hAware ⟨rfl, rfl⟩
      (Store.answer_of_mem_transcript_memory _)
  rw [hChronicle] at hRun
  exact hRun

/-- Two requests in order end without a response, though no read fails by a cause of the library
itself: one whose first read is cancelled, which breaks it, and one that finds a row of finite
numbers with more samples than have a text. -/
theorem Site.not_handle_checked_unanswered :
    let program := Site.usual.handle historicalRequest
    let cancelled := Backend.disturbedAt 0 (.ended (.error .cancelled))
    let stored := Store.backend Dashboard.endOfDay
    let state := (Store.memory countlessMemory, ())
    (historicalRequest.method = "GET" ∧
      Route.ofPath? historicalRequest.path.toList = some (.server "web-1" .historical) ∧
        Site.usual.InOrder (parameters historicalRequest.query) (.server "web-1" .historical)) ∧
    ((∀ exchange ∈ program.transcript cancelled 0,
        ∀ failure, exchange.answer = .error failure → failure.isOwn = false) ∧
      historicalInquiry10m.Breaks .usual cancelled 0 ∧
        ¬∃ response, (program.run cancelled 0).result = .ok response) ∧
    (∀ exchange ∈ program.transcript stored state,
        ∀ failure, exchange.answer = .error failure → failure.isOwn = false) ∧
      ((historicalInquiry10m.read .usual).run stored state).result = .ok countlessSeries ∧
        AllFinite (historicalInquiry10m.readings countlessSeries) ∧
          AllFinite (historicalInquiry10m.derived countlessSeries) ∧
            ¬∃ response, (program.run stored state).result = .ok response := by
  intro program cancelled stored state
  have hMethod : historicalRequest.method = "GET" := rfl
  have hRoute : Route.ofPath? historicalRequest.path.toList =
      some (.server "web-1" .historical) := rfl
  refine ⟨⟨hMethod, hRoute, Site.inOrder_historicalRequest⟩, ⟨?_, breaks_historicalRequest _, ?_⟩,
    ?_, read_countlessMemory _ _, allFinite_countlessRow, allFinite_nil, ?_⟩
  · intro exchange hMem failure hFailure
    rw [eq_of_failed_disturbedAt exchange hMem failure hFailure]
    rfl
  · obtain ⟨-, -, hAnswers⟩ :=
      Site.run_of_inquiry cancelled 0 hMethod hRoute Site.inquiry_historicalRequest
    rintro ⟨response, hResponse⟩
    rw [hResponse] at hAnswers
    cases hAnswers with
    | explained hOrdinary => cases hOrdinary
  · intro exchange hMem failure hFailure
    have hAnswer := Store.answer_of_mem_transcript_memory program exchange hMem
    obtain ⟨fault, rfl⟩ :=
      countlessMemory.byArithmetic_read exchange.question failure (hAnswer.symm.trans hFailure)
    rfl
  · obtain ⟨-, -, hAnswers⟩ :=
      Site.run_of_inquiry stored state hMethod hRoute Site.inquiry_historicalRequest
    have hRead : ((historicalInquiry10m.read Site.usual.policy).run stored state).result =
        .ok countlessSeries := read_countlessMemory _ _
    rintro ⟨response, hResponse⟩
    rw [hResponse, hRead] at hAnswers
    cases hAnswers with
    | shown hBody =>
        have hShort := ((historicalInquiry10m.encodes_toValue countlessSeries).mp ⟨_, hBody⟩).2.2
        exact not_short_countlessRow (hShort _ List.mem_cons_self)

end Http
end Rollup
