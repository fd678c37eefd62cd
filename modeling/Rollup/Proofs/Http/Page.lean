import Mathlib
import Rollup.Http
import Rollup.Proofs.Http.Parameters
import Rollup.Proofs.Inquiry.Encoding

/-!
Pages as inquiries. What a request asks for is told from its parameters alone, before any row is
read. The page then shows what is found out, or says in general words what kept it from being found
out.
-/
namespace Rollup.Http

open Program

/-- The server that a route is about, if it is about one. -/
def Route.server? : Route → Option String
  | .server id _ => some id
  | .summary => none

/-- The general words for what keeps a page from being shown. -/
def Route.general : Route → String
  | .server _ .metrics => "Failed to retrieve metrics"
  | .server _ .realtime => "Failed to retrieve real-time metrics"
  | .server _ .historical => "Failed to retrieve historical metrics"
  | .server _ .dashboard => "Failed to retrieve dashboard metrics"
  | .server _ .comparison => "Failed to retrieve metrics comparison"
  | .server _ .heatmap => "Failed to retrieve heatmap data"
  | .summary => "Failed to retrieve metrics summary"

/-- The inquiry for the series of a window in the tier that a text names, if there is a text. -/
def historicalInquiry (id : String) (window : Window) : Option String → Inquiry
  | some text => if text = "" then .series id window none else .historical id window (.text text)
  | none => .series id window none

/-- The inquiry behind a route, once its parameters were checked. -/
def Site.inquiry (site : Site) (given : List (String × String)) : Route → Except Failure Inquiry
  | .server id .metrics => do return .series id (← site.window given "") none
  | .server id .realtime => do
    return .realtime id (← Duration.ofText ((parameter? "duration" given).getD "1h"))
  | .server id .historical => do
    return historicalInquiry id (← site.window given "") (parameter? "granularity" given)
  | .server id .dashboard => .ok (.dashboard id)
  | .server id .comparison => do
    return .compare id (← site.window given "period1_") (← site.window given "period2_")
  | .server id .heatmap => do return .heatmap id (← site.window given "")
  | .summary => .ok .summary

/-- The status that answers a failure. -/
def statusOf : Failure → Nat
  | .noCurrentData _ => 404
  | .unsupportedTier .. => 400
  | _ => 500

/-- The body is JSON text. -/
def Response.IsJson (response : Response) : Prop :=
  ∃ value, Json.encodeCompact value = .ok response.body

/-- How a page answers what came of its inquiry. -/
inductive Answers : Except Failure Value → Except Failure Response → Prop
  | shown {value : Value} {body : String} (h : Json.encodeCompact value = .ok body) :
      Answers (.ok value) (.ok ⟨200, body, none, none⟩)
  | unshown {value : Value} {failure : Failure} (h : Json.encodeCompact value = .error failure) :
      Answers (.ok value) (.error failure)
  | explained {failure : Failure} {body : String} (hOrdinary : failure.isOrdinary = true)
      (hBody : ∃ value, Json.encodeCompact value = .ok body) :
      Answers (.error failure) (.ok ⟨statusOf failure, body, none, none⟩)
  | cancelled {failure : Failure} (h : failure.isOrdinary = false) :
      Answers (.error failure) (.error failure)

theorem json_eq {value : Value} {body : String} (status : Nat)
    (h : Json.encodeCompact value = .ok body) :
    json status value = done ⟨status, body, none, none⟩ := by
  rw [json, h]
  rfl

/-- A response is made without a read. -/
theorem exists_lift_json (status : Nat) (value : Value) :
    ∃ answer, json status value = lift answer := by
  cases hBody : Json.encodeCompact value with
  | ok body => exact ⟨.ok _, json_eq status hBody⟩
  | error failure =>
      refine ⟨.error failure, ?_⟩
      rw [json, hBody]
      rfl

/-- What is wrong can always be said. -/
theorem exists_problem (status : Nat) (message : String) (server : Option String) :
    ∃ value body, Json.encodeCompact value = .ok body ∧
      problem status message server = done ⟨status, body, none, none⟩ := by
  have hEncodes : Json.Encodes (.record (("error", .text message) ::
      server.toList.map fun id => ("server_id", .text id))) := by
    cases server <;> simp
  obtain ⟨body, hBody⟩ := hEncodes
  exact ⟨_, body, hBody, json_eq status hBody⟩

variable {σ : Type} {backend : Backend σ} {state : σ}

/-- What a page makes of what came of its inquiry. -/
def answerTo (general : String) (server : Option String) (outcome : Except Failure Value) :
    Program Response :=
  match outcome with
  | .ok value => json 200 value
  | .error failure => problem (statusOf failure)
    (if statusOf failure = 500 then general else failure.message) server

theorem respond_eq (reading : Program Value) (general : String) (server : Option String) :
    respond reading general server = attempt reading >>= answerTo general server := by
  rw [respond]
  congr 1
  funext outcome
  rcases outcome with failure | value
  · cases failure <;> rfl
  · rfl

/-- The answer is made without another read. -/
theorem exists_lift_answerTo (general : String) (server : Option String)
    (outcome : Except Failure Value) : ∃ answer, answerTo general server outcome = lift answer := by
  cases outcome with
  | ok value => exact exists_lift_json 200 value
  | error failure => exact exists_lift_json _ _

variable (reading : Program Value) (general : String) (server : Option String)

theorem transcript_respond : (respond reading general server).transcript backend state =
    reading.transcript backend state := by
  rw [respond_eq, transcript_bind, transcript_attempt]
  split
  · rename_i outcome _
    obtain ⟨answer, hAnswer⟩ := exists_lift_answerTo general server outcome
    rw [hAnswer, transcript_lift, List.append_nil]
  · exact List.append_nil _

theorem looks_respond : (respond reading general server).looks backend state =
    reading.looks backend state := by
  rw [respond_eq, looks_bind, looks_attempt]
  split
  · rename_i outcome _
    obtain ⟨answer, hAnswer⟩ := exists_lift_answerTo general server outcome
    rw [hAnswer, looks_lift, List.append_nil]
  · exact List.append_nil _

theorem answers_respond : Answers (reading.run backend state).result
    ((respond reading general server).run backend state).result := by
  rw [respond_eq, result_bind, result_attempt]
  cases (reading.run backend state).result with
  | ok value =>
      cases hBody : Json.encodeCompact value with
      | ok body =>
          simp only [answerTo, json_eq 200 hBody]
          exact .shown hBody
      | error failure =>
          simp only [answerTo, json, hBody]
          exact .unshown hBody
  | error failure =>
      by_cases hOrdinary : failure.isOrdinary = true
      · obtain ⟨value, body, hBody, hProblem⟩ := exists_problem (statusOf failure)
          (if statusOf failure = 500 then general else failure.message) server
        simp only [hOrdinary, ↓reduceIte, answerTo, hProblem]
        exact .explained hOrdinary ⟨value, hBody⟩
      · simp only [hOrdinary]
        exact .cancelled (Bool.eq_false_of_not_eq_true hOrdinary)

/-- Checks are made one after another. -/
theorem withChecked_bind {α β : Type} (checked : Except Failure α) (f : α → Except Failure β)
    (next : β → Program Response) :
    withChecked (checked >>= f) next = withChecked checked fun a => withChecked (f a) next := by
  cases checked with
  | ok a => rfl
  | error failure => cases failure <;> rfl

namespace Site

variable (site : Site)

/-- Every page is an inquiry for what its parameters ask, and the answer to it. -/
theorem serve_eq (route : Route) (query : String) :
    site.serve route query = withChecked (site.inquiry (parameters query) route) fun inquiry =>
      respond (inquiry.toValue <$> inquiry.read site.policy) route.general route.server? := by
  cases route with
  | summary => rfl
  | server id page =>
      rw [serve]
      generalize parameters query = given
      cases page with
      | metrics =>
          refine Eq.trans ?_ (withChecked_bind _ _ _).symm
          rfl
      | realtime =>
          refine Eq.trans ?_ (withChecked_bind _ _ _).symm
          rfl
      | historical =>
          refine Eq.trans ?_ (withChecked_bind _ _ _).symm
          rw [page]
          congr 1
          funext window
          generalize parameter? "granularity" given = tier
          rcases tier with _ | text
          · rfl
          · by_cases hEmpty : text = ""
            · simp only [historical, historicalInquiry, hEmpty, ↓reduceIte]
              rfl
            · simp only [historical, historicalInquiry, hEmpty, ↓reduceIte]
              rfl
      | dashboard => rfl
      | comparison =>
          refine Eq.trans ?_ (withChecked_bind _ _ _).symm
          rw [page]
          congr 1
          funext first
          refine Eq.trans ?_ (withChecked_bind _ _ _).symm
          rfl
      | heatmap =>
          refine Eq.trans ?_ (withChecked_bind _ _ _).symm
          rfl

/-- A request to get a page is served. -/
theorem handle_eq {request : Request} {route : Route} (hMethod : request.method = "GET")
    (hRoute : Route.ofPath? request.path.toList = some route) :
    site.handle request = site.serve route request.query := by
  simp only [handle, hRoute, hMethod, ↓reduceIte]

variable {site} {request : Request} {route : Route} {inquiry : Inquiry}

/-- A page whose parameters are in order is asked for by its inquiry. -/
theorem handle_of_inquiry (hMethod : request.method = "GET")
    (hRoute : Route.ofPath? request.path.toList = some route)
    (hInquiry : site.inquiry (parameters request.query) route = .ok inquiry) :
    site.handle request =
      respond (inquiry.toValue <$> inquiry.read site.policy) route.general route.server? := by
  rw [handle_eq site hMethod hRoute, serve_eq, hInquiry]
  rfl

/-- A page asks and sees what its inquiry does, and answers what came of it. -/
theorem run_of_inquiry (backend : Backend σ) (state : σ) (hMethod : request.method = "GET")
    (hRoute : Route.ofPath? request.path.toList = some route)
    (hInquiry : site.inquiry (parameters request.query) route = .ok inquiry) :
    (site.handle request).transcript backend state =
        (inquiry.read site.policy).transcript backend state ∧
      (site.handle request).looks backend state = (inquiry.read site.policy).looks backend state ∧
        Answers (((inquiry.read site.policy).run backend state).result.map inquiry.toValue)
          ((site.handle request).run backend state).result := by
  rw [handle_of_inquiry hMethod hRoute hInquiry, transcript_respond, transcript_map, looks_respond,
    looks_map, ← result_map]
  exact ⟨rfl, rfl, answers_respond _ _ _⟩

/-- A page whose parameters are not in order is refused with what is wrong. -/
theorem run_of_fault (backend : Backend σ) (state : σ) (hMethod : request.method = "GET")
    (hRoute : Route.ofPath? request.path.toList = some route) {fault : WindowFault}
    (hInquiry : site.inquiry (parameters request.query) route = .error (.window fault)) :
    ∃ response, ((site.handle request).run backend state).result = .ok response ∧
      response.status = 400 ∧ response.IsJson := by
  obtain ⟨value, body, hBody, hProblem⟩ := exists_problem 400 fault.message none
  refine ⟨⟨400, body, none, none⟩, ?_, rfl, value, hBody⟩
  rw [handle_eq site hMethod hRoute, serve_eq, hInquiry, withChecked, hProblem]
  rfl

/-- A page is not answered where its parameters cannot be calculated. -/
theorem run_of_arithmetic (backend : Backend σ) (state : σ) (hMethod : request.method = "GET")
    (hRoute : Route.ofPath? request.path.toList = some route) {fault : ArithmeticFault}
    (hInquiry : site.inquiry (parameters request.query) route = .error (.arithmetic fault)) :
    ((site.handle request).run backend state).result = .error (.arithmetic fault) := by
  rw [handle_eq site hMethod hRoute, serve_eq, hInquiry]
  rfl

/-- Only a page whose parameters are in order asks anything. -/
theorem inquires_or_silent (site : Site) (request : Request) (backend : Backend σ) (state : σ) :
    (∃ route inquiry, request.method = "GET" ∧
        Route.ofPath? request.path.toList = some route ∧
          site.inquiry (parameters request.query) route = .ok inquiry) ∨
      (site.handle request).transcript backend state = [] := by
  have hJson : ∀ status value, (json status value).transcript backend state = [] := by
    intro status value
    obtain ⟨answer, hAnswer⟩ := exists_lift_json status value
    rw [hAnswer, transcript_lift]
  cases hRoute : Route.ofPath? request.path.toList with
  | none =>
      right
      simp only [handle, hRoute]
      split
      · split
        · rfl
        · exact hJson _ _
      · exact hJson _ _
  | some route =>
      by_cases hMethod : request.method = "GET"
      · cases hInquiry : site.inquiry (parameters request.query) route with
        | ok inquiry => exact .inl ⟨route, inquiry, hMethod, rfl, hInquiry⟩
        | error failure =>
            right
            rw [handle_eq site hMethod hRoute, serve_eq, hInquiry]
            cases failure with
            | window fault => exact hJson _ _
            | _ => rfl
      · right
        simp only [handle, hRoute, hMethod, ↓reduceIte]
        rw [detail]
        refine (transcript_map _ _ _).trans ?_
        exact hJson _ _

end Site

end Rollup.Http
