import Rollup.Comparison
import Rollup.Dashboard
import Rollup.Http.Form
import Rollup.Http.Route
import Rollup.Json
import Rollup.Overview
import Rollup.Settings
import Rollup.Time.Duration

/-!
The web interface. A request is checked before any row is read: windows and durations that are not
in order are refused with what is wrong about them. A page whose rows cannot be read answers with
what failed in general words.
-/
namespace Rollup.Http

open Program

/-- A request: the host it was sent to, its path without escapes, and its query as it was sent. -/
structure Request where
  method : String
  host : String
  path : String
  query : String

/-- A response, with the address to go to instead and the methods allowed where these are given. -/
structure Response where
  status : Nat
  body : String
  location : Option String
  allow : Option String
deriving DecidableEq, Repr

/-- What a site serves: the policy for its series, and the longest window if there is a limit. -/
structure Site where
  policy : Policy
  longest : Option Int

/-- The site of a deployment. -/
def Site.ofSettings (settings : Settings) : Except Failure Site := do
  let policy ← settings.policy
  return ⟨policy, some (← settings.longestWindow)⟩

/-- A response with a JSON body. -/
def json (status : Nat) (value : Value) : Program Response := do
  return ⟨status, ← lift (Json.encodeCompact value), none, none⟩

/-- A response that says what is wrong, and about which server. -/
def problem (status : Nat) (message : String) (server : Option String) : Program Response :=
  json status (.record (("error", .text message) ::
    server.toList.map fun id => ("server_id", .text id)))

/-- A response with a detail from outside the pages. -/
def detail (status : Nat) (text : String) : Program Response :=
  json status (.record [("detail", .text text)])

/-- The response of a page: what was read, or what kept it from being read. -/
def respond (reading : Program Value) (general : String) (server : Option String) :
    Program Response := do
  let outcome ← attempt reading
  match outcome with
  | .ok value => json 200 value
  | .error failure =>
    match failure with
    | .noCurrentData _ => problem 404 failure.message server
    | .unsupportedTier .. => problem 400 failure.message server
    | _ => problem 500 general server

/-- Goes on with what was asked for, or refuses a window or a duration that is not in order. -/
def withChecked {α : Type} (checked : Except Failure α) (next : α → Program Response) :
    Program Response :=
  match checked with
  | .ok result => next result
  | .error (.window fault) => problem 400 fault.message none
  | .error failure => fail failure

namespace Site

/-- The window that a request asks for by the parameters whose names start with `label`. -/
def window (site : Site) (given : List (String × String)) (label : String) :
    Except Failure Window :=
  Window.ofTexts (parameter? (label ++ "start") given) (parameter? (label ++ "end") given)
    site.longest label

/-- The series of a window in the tier given, if one is. -/
def historical (site : Site) (id : String) (window : Window) (tier : Option String) :
    Program Series :=
  match tier with
  | some text =>
    if text = "" then Series.read site.policy id window none site.policy.substitutes
    else Series.historical site.policy id window (.text text)
  | none => Series.read site.policy id window none site.policy.substitutes

/-- Serves a page of a server. -/
def page (site : Site) (id : String) (given : List (String × String)) : Page → Program Response
  | .metrics =>
    withChecked (site.window given "") fun window =>
      respond (Series.toValue <$> Series.read site.policy id window none site.policy.substitutes)
        "Failed to retrieve metrics" id
  | .realtime =>
    withChecked (Duration.ofText ((parameter? "duration" given).getD "1h")) fun span =>
      respond (Series.toValue <$> Series.realtime site.policy id span)
        "Failed to retrieve real-time metrics" id
  | .historical =>
    withChecked (site.window given "") fun window =>
      respond (Series.toValue <$> site.historical id window (parameter? "granularity" given))
        "Failed to retrieve historical metrics" id
  | .dashboard =>
    respond (Dashboard.toValue <$> Dashboard.read site.policy id)
      "Failed to retrieve dashboard metrics" id
  | .comparison =>
    withChecked (site.window given "period1_") fun first =>
      withChecked (site.window given "period2_") fun second =>
        respond (Comparison.toValue <$> Comparison.read site.policy id first second)
          "Failed to retrieve metrics comparison" id
  | .heatmap =>
    withChecked (site.window given "") fun window =>
      respond (HeatmapCell.listValue <$> Series.heatmap site.policy id window)
        "Failed to retrieve heatmap data" id

/-- Serves a route. -/
def serve (site : Site) (route : Route) (query : String) : Program Response :=
  match route with
  | .server id page => site.page id (parameters query) page
  | .summary =>
    respond (Summary.toValue <$> Summary.read site.policy) "Failed to retrieve metrics summary" none

/-- Answers a request. Only the method GET is served. A path that leads somewhere once the slashes at
its end are gone is sent there. -/
def handle (site : Site) (request : Request) : Program Response :=
  let path := request.path.toList
  match Route.ofPath? path with
  | some route =>
    if request.method = "GET" then site.serve route request.query
    else do return { ← detail 405 "Method Not Allowed" with allow := some "GET" }
  | none =>
    match unslashed? path with
    | some shorter =>
      if (Route.ofPath? shorter).isSome then
        return ⟨307, "", some (address request.host shorter request.query), none⟩
      else detail 404 "Not Found"
    | none => detail 404 "Not Found"

end Site
end Rollup.Http
