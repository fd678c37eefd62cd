import Mathlib
import Rollup.Proofs.Dashboard.Completeness
import Rollup.Proofs.Http.Validation
import Rollup.Proofs.Store.Failure
import Rollup.Proofs.Store.Isolation

/-!
What a page does not answer. Over a store whose numbers are finite, and whatever of its reads fail
by what is ordinary, a page is answered with JSON text. Three things escape: a duration with parts
that cannot be added up, a number calculated from the rows that is not finite, and an integer with
too many digits to be told.
-/
namespace Rollup

open Program

/-- An answer shows points only if it is about a server. -/
theorem Read.exists_server_of_mem_points {question : Read} {answer : question.Answer} {p : Point}
    (h : p ∈ question.points answer) : ∃ server, question.server? = some server := by
  cases question with
  | stats source => cases h
  | _ => exact ⟨_, rfl⟩

namespace Store

variable {store : Store}

/-- Every number of every point that the store holds is finite. -/
def Finite (store : Store) : Prop :=
  ∀ server p, store.Has server p → AllFinite p.readings.numbers

/-- A store without rows is finite. -/
theorem New.finite (h : store.New) : store.Finite := fun _ _ hHas => absurd hHas h.not_has

/-- A read of the store is answered as the store answers it, or it fails by what is ordinary. -/
def Disturbed (store : Store) (exchange : Exchange) : Prop :=
  exchange.answer = (store.answer exchange.question).1 ∨
    ∃ failure, exchange.answer = .error failure ∧ failure.isOrdinary = true

/-- However a read of the store goes, its failure is ordinary. -/
theorem Disturbed.isOrdinary {exchange : Exchange} (h : store.Disturbed exchange)
    {failure : Failure} (hFailed : exchange.answer = .error failure) : failure.isOrdinary = true := by
  rcases h with hAnswer | ⟨cause, hCause, hOrdinary⟩
  · exact isOrdinary_of_answer (hAnswer.symm.trans hFailed)
  · cases hCause.symm.trans hFailed
    exact hOrdinary

/-- Whatever of the reads of a store fails, what is shown is what it holds. -/
theorem Sound.has_of_shows (h : store.Sound) {seen : Except Failure Timestamp → Prop} {p : Point}
    (hShown : Terms.Shows { told := store.Disturbed, seen := seen } p) :
    ∃ server, store.Has server p := by
  obtain ⟨question, answer, hTold, hMem⟩ := hShown
  obtain ⟨server, hServer⟩ := Read.exists_server_of_mem_points hMem
  rcases hTold with hAnswer | ⟨failure, hFailed, -⟩
  · exact ⟨server, h.has_of_answer hServer hAnswer.symm hMem⟩
  · cases hFailed

end Store

namespace Http

variable {σ : Type} {backend : Backend σ} {state : σ}

/-- The parameters of a route ask for a duration with parts that cannot be added up. -/
def Route.Overlong (given : List (String × String)) (route : Route) : Prop :=
  ∃ id fault, route = .server id .realtime ∧
    Duration.ofText ((parameter? "duration" given).getD "1h") = .error (.arithmetic fault)

/-- A page answers with one of four statuses and JSON text. -/
theorem json_of_answers {outcome : Except Failure Value} {response : Response}
    (h : Answers outcome (.ok response)) :
    response.status ∈ [200, 400, 404, 500] ∧ response.IsJson := by
  have hStatus : ∀ failure, statusOf failure ∈ [200, 400, 404, 500] := by
    intro failure
    rw [statusOf.eq_def]
    split <;> simp
  cases h with
  | shown hBody => exact ⟨by simp, _, hBody⟩
  | explained hOrdinary hBody => exact ⟨hStatus _, hBody⟩

namespace Site

variable {site : Site} {given : List (String × String)} {route : Route} {failure : Failure}

/-- What keeps a page from being asked for is told, unless a duration cannot be calculated. -/
theorem fault_of_inquiry (h : site.inquiry given route = .error failure) :
    (∃ fault, failure = .window fault) ∨
      route.Overlong given ∧ ∃ fault, failure = .arithmetic fault := by
  have hWindow : ∀ {label : String} {make : Window → Inquiry},
      (do return make (← site.window given label) : Except Failure Inquiry) = .error failure →
        ∃ fault, failure = .window fault := by
    intro label make hMake
    rcases error_or_of_bind_eq_error hMake with hFault | ⟨window, -, hDone⟩
    · exact Window.fault_of_ofTexts hFault
    · cases hDone
  cases route with
  | summary => cases h
  | server id page =>
      cases page with
      | metrics => exact .inl (hWindow h)
      | historical => exact .inl (hWindow h)
      | dashboard => cases h
      | heatmap => exact .inl (hWindow h)
      | comparison =>
          rcases error_or_of_bind_eq_error h with hFirst | ⟨first, -, hRest⟩
          · exact .inl (Window.fault_of_ofTexts hFirst)
          · exact .inl (hWindow hRest)
      | realtime =>
          rcases error_or_of_bind_eq_error h with hSpan | ⟨span, -, hDone⟩
          · refine (Duration.fault_of_ofText hSpan).imp_right ?_
            rintro ⟨fault, rfl⟩
            exact ⟨⟨id, fault, rfl, hSpan⟩, fault, rfl⟩
          · cases hDone

/-- A duration is overlong exactly if it is not asked for because it cannot be calculated. -/
theorem overlong_iff (site : Site) :
    route.Overlong given ↔ ∃ fault, site.inquiry given route = .error (.arithmetic fault) := by
  constructor
  · rintro ⟨id, fault, rfl, hSpan⟩
    refine ⟨fault, ?_⟩
    rw [Site.inquiry, hSpan]
    rfl
  · rintro ⟨fault, hInquiry⟩
    rcases fault_of_inquiry hInquiry with ⟨other, hOther⟩ | ⟨hOverlong, -⟩
    · cases hOther
    · exact hOverlong

/-- Over a finite store whose reads fail by nothing but what is ordinary, only a calculated number that
is not finite or an integer with too many digits keeps an inquiry from being answered. -/
theorem answered_iff_of_finite {store : Store} {policy : Policy} {inquiry : Inquiry}
    {answered : Except Failure Response} (hSound : store.Sound) (hFinite : store.Finite)
    (hRead : ∀ exchange ∈ (inquiry.read policy).transcript backend state, store.Disturbed exchange)
    (hClock : ∀ reading ∈ (inquiry.read policy).looks backend state,
      ∀ failure, reading = .error failure → failure.isOrdinary = true)
    (h : Answers (((inquiry.read policy).run backend state).result.map inquiry.toValue) answered) :
    (∃ response, answered = .ok response) ↔
      ∀ found, ((inquiry.read policy).run backend state).result = .ok found →
        AllFinite (inquiry.derived found) ∧ AllShort (inquiry.integers found) := by
  have hEnds := Inquiry.ends { told := store.Disturbed } (fun _ => trivial) hRead fun _ _ => trivial
  rw [answered_iff (fun exchange hMem failure => (hRead exchange hMem).isOrdinary) hClock h]
  refine forall₂_congr fun found hFound => and_iff_right ?_
  rw [hFound] at hEnds
  refine Inquiry.allFinite_readings hEnds fun p hShown => ?_
  obtain ⟨server, hHas⟩ := hSound.has_of_shows hShown
  exact hFinite server p hHas

/-- Over a finite store whose reads fail by nothing but what is ordinary, a page is answered with
JSON text, unless its duration cannot be added up, a number calculated from the rows is not finite,
or an integer of the result has too many digits to be told. -/
theorem answered_json_iff (site : Site) {request : Request} {route : Route}
    (hMethod : request.method = "GET") (hRoute : Route.ofPath? request.path.toList = some route)
    {store : Store} (hReach : store.Reachable) (hFinite : store.Finite) (backend : Backend σ)
    (state : σ)
    (hRead : ∀ exchange ∈ (site.handle request).transcript backend state, store.Disturbed exchange)
    (hClock : ∀ reading ∈ (site.handle request).looks backend state,
      ∀ failure, reading = .error failure → failure.isOrdinary = true) :
    (∃ response, ((site.handle request).run backend state).result = .ok response ∧
        response.status ∈ [200, 400, 404, 500] ∧ response.IsJson) ↔
      ¬route.Overlong (parameters request.query) ∧
        ∀ inquiry found, site.inquiry (parameters request.query) route = .ok inquiry →
          ((inquiry.read site.policy).run backend state).result = .ok found →
            AllFinite (inquiry.derived found) ∧ AllShort (inquiry.integers found) := by
  rw [overlong_iff site]
  cases hInquiry : site.inquiry (parameters request.query) route with
  | error failure =>
      rcases fault_of_inquiry hInquiry with ⟨fault, rfl⟩ | ⟨-, fault, rfl⟩
      · obtain ⟨response, hResponse, hStatus, hJson⟩ :=
          run_of_fault backend state hMethod hRoute hInquiry
        refine iff_of_true ⟨response, hResponse, by simp [hStatus], hJson⟩ ⟨?_, ?_⟩
        · rintro ⟨other, hOther⟩
          cases hOther
        · intro inquiry found hOther
          cases hOther
      · rw [run_of_arithmetic backend state hMethod hRoute hInquiry]
        refine iff_of_false ?_ fun h => h.1 ⟨fault, rfl⟩
        rintro ⟨response, hResponse, -⟩
        cases hResponse
  | ok inquiry =>
      obtain ⟨hReads, hLooks, hAnswers⟩ := run_of_inquiry backend state hMethod hRoute hInquiry
      rw [hReads] at hRead
      rw [hLooks] at hClock
      have hAnswered := answered_iff_of_finite hReach.sound hFinite hRead hClock hAnswers
      constructor
      · rintro ⟨response, hResponse, -⟩
        refine ⟨?_, ?_⟩
        · rintro ⟨fault, hFault⟩
          cases hFault
        · rintro _ found ⟨⟩ hFound
          exact hAnswered.mp ⟨response, hResponse⟩ found hFound
      · rintro ⟨-, hDerived⟩
        obtain ⟨response, hResponse⟩ := hAnswered.mpr fun found => hDerived inquiry found rfl
        rw [hResponse] at hAnswers
        exact ⟨response, hResponse, json_of_answers hAnswers⟩

/-- A request for the rows of a server as far back as a duration. -/
def realtimeRequest (duration : String) : Request where
  method := "GET"
  host := "localhost"
  path := "/servers/web-1/metrics/realtime"
  query := "duration=" ++ duration

/-- The last hour of a server without rows is answered. -/
theorem answered_json_iff_hour :
    let site : Site := ⟨.usual, none⟩
    let store := Store.memory .empty
    store.Reachable ∧ store.Finite ∧ ∃ response,
      ((site.handle (realtimeRequest "1h")).run (Store.backend Dashboard.endOfDay)
          (store, ())).result = .ok response ∧
        response.status ∈ [200, 400, 404, 500] ∧ response.IsJson := by
  intro site store
  have hSound : store.Sound := trivial
  have hFinite : store.Finite := Store.New.memory.finite
  have hReach : store.Reachable := trivial
  have hMethod : (realtimeRequest "1h").method = "GET" := rfl
  have hRoute : Route.ofPath? (realtimeRequest "1h").path.toList =
      some (.server "web-1" .realtime) := rfl
  refine ⟨hReach, hFinite, ?_⟩
  refine (answered_json_iff site hMethod hRoute hReach hFinite (Store.backend Dashboard.endOfDay)
    (store, ()) (fun exchange hMem => .inl (hSound.answer_of_mem_transcript _ exchange hMem))
    (forall_mem_looks (fun _ => nofun) _ _)).mpr ⟨?_, ?_⟩
  · rintro ⟨id, fault, -, hSpan⟩
    have hGiven : (parameter? "duration" (parameters (realtimeRequest "1h").query)).getD "1h" =
        "1h" := rfl
    have hOk : (Duration.ofText "1h").isOk = true := by decide +kernel
    rw [hGiven] at hSpan
    rw [hSpan] at hOk
    cases hOk
  · intro inquiry found hInquiry hFound
    obtain ⟨span, -, hMade⟩ := exists_of_bind_eq_ok hInquiry
    cases hMade
    have hEnds : Inquiry.Ends { told := store.Disturbed } site.policy (.realtime "web-1" span)
        (.ok found) := by
      rw [← hFound]
      exact Inquiry.ends _ (fun _ => trivial)
        (fun exchange hMem => .inl (hSound.answer_of_mem_transcript _ exchange hMem))
        fun _ _ => trivial
    cases hEnds with
    | shown hPoints hCells =>
        have hNone : found.points = [] := List.eq_nil_iff_forall_not_mem.mpr fun p hMem => by
          obtain ⟨server, hHas⟩ := hSound.has_of_shows (hPoints p hMem)
          exact Store.New.memory.not_has hHas
        refine ⟨nofun, ?_⟩
        simp [Inquiry.integers, Inquiry.points, Inquiry.cells, Inquiry.totals, hNone,
          Text.short_zero]

/-- A duration of a hundred thousand million hours is not answered at all. -/
theorem not_answered_json_overlong :
    let site : Site := ⟨.usual, none⟩
    let store := Store.memory .empty
    store.Reachable ∧ store.Finite ∧ (realtimeRequest "99999999999h").method = "GET" ∧
      Route.ofPath? (realtimeRequest "99999999999h").path.toList =
          some (.server "web-1" .realtime) ∧
        ¬∃ response, ((site.handle (realtimeRequest "99999999999h")).run
          (Store.backend Dashboard.endOfDay) (store, ())).result = .ok response := by
  intro site store
  have hMethod : (realtimeRequest "99999999999h").method = "GET" := rfl
  have hRoute : Route.ofPath? (realtimeRequest "99999999999h").path.toList =
      some (.server "web-1" .realtime) := rfl
  have hGiven : (parameter? "duration"
      (parameters (realtimeRequest "99999999999h").query)).getD "1h" = "99999999999h" := rfl
  have hTotal : (Duration.total [⟨"99999999999".toList, none, .hours⟩]).isOk = false := by
    decide +kernel
  refine ⟨trivial, Store.New.memory.finite, hMethod, hRoute, ?_⟩
  cases hSum : Duration.total [⟨"99999999999".toList, none, .hours⟩] with
  | ok sum =>
      rw [hSum] at hTotal
      cases hTotal
  | error failure =>
      obtain ⟨fault, rfl⟩ := Duration.arithmetic_of_total hSum
      have hSpan : Duration.ofText "99999999999h" = .error (.arithmetic fault) :=
        Duration.ofText_of_total (by decide) hSum
      obtain ⟨other, hInquiry⟩ := (overlong_iff site).mp ⟨"web-1", fault, rfl, hGiven ▸ hSpan⟩
      rw [run_of_arithmetic _ _ hMethod hRoute hInquiry]
      rintro ⟨response, hResponse⟩
      cases hResponse

end Site
end Http
end Rollup
