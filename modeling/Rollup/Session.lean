import Rollup.Http
import Rollup.Session.Fault
import Rollup.Store

/-!
Sessions: a site over a store, with a clock that moves on by a fixed step at each look, and with
faults planned for the reads. A session is a row of steps; each leaves a result and the session for
the next one.
-/
namespace Rollup

open Program

/-- A session between two steps. `asked` holds the sorts of the reads since the site was set up, the
last one first. -/
structure Session where
  store : Store
  site : Http.Site
  clock : Timestamp
  tick : Int
  faults : List Fault
  asked : List Read.Kind

namespace Session

/-- A session that starts. -/
def start (store : Store) (site : Http.Site) (clock : Timestamp) (tick : Int)
    (faults : List Fault) : Session :=
  ⟨store, site, clock, tick, faults, []⟩

/-- Answers a read, by the store or as a fault wills. -/
def answer (session : Session) (question : Read) : Reply question.Answer × Session :=
  let asked := question.kind :: session.asked
  let session := { session with asked := asked }
  let (own, store) := session.store.answer question
  match Fault.effect? session.faults question.kind (asked.count question.kind) with
  | none => (.ended own, { session with store := store })
  | some (.raise failure) => (.ended (.error failure), session)
  | some .stall => (.stalled, session)
  | some (.replace substitute) =>
    (.ended (own.map (substitute.answer? question).getD), { session with store := store })

/-- Looks at the clock, which then moves on. -/
def look (session : Session) : Except Failure Timestamp × Session :=
  match session.clock.shift session.tick with
  | .ok later => (.ok session.clock, { session with clock := later })
  | .error failure => (.error failure, session)

/-- The session as what answers reads and shows the time. -/
def backend : Backend Session where
  answer := answer
  clock := look

end Session

/-- A step of a session. -/
inductive Step
  | write (source server : String) (points : List Point)
  | ask (question : Read)
  | latest (server : String) (tier : Tier)
  | series (server : String) (window : Window) (given : Option Value) (allowed : Option Bool)
  | realtime (server : String) (span : Int)
  | historical (server : String) (window : Window) (given : Value)
  | heatmap (server : String) (window : Window)
  | compare (server : String) (first second : Window)
  | dashboard (server : String)
  | summarize
  | request (request : Http.Request)
  | configure (draft : Policy.Draft)
  | setClock (time : Timestamp)
  | close
  | reopen

/-- A point that may be absent. -/
def optionalPoint : Option Point → Value
  | some p => p.toValue
  | none => .null

/-- The answer to a question as a value. -/
def Read.answerValue : (question : Read) → question.Answer → Value
  | .range .., points => Point.listValue points
  | .count .., n => .int n
  | .latest .., point => optionalPoint point
  | .recent .., points => Point.listValue points
  | .stats _, held => held.toValue

/-- A response as a record. -/
def Http.Response.toValue (r : Http.Response) : Value :=
  .record (("status", .int r.status) :: ("body", .text r.body) ::
    ((r.location.toList.map fun address => ("location", .text address)) ++
      r.allow.toList.map fun methods => ("allow", .text methods)))

namespace Step

/-- The program of a step that reads. -/
def program? (site : Http.Site) : Step → Option (Program Value)
  | .ask question => some (question.answerValue <$> askPlainly question)
  | .latest server tier => some (optionalPoint <$> Dashboard.latest site.policy server tier)
  | .series server window given allowed =>
    some (Series.toValue <$>
      Series.read site.policy server window given (allowed.getD site.policy.substitutes))
  | .realtime server span => some (Series.toValue <$> Series.realtime site.policy server span)
  | .historical server window given =>
    some (Series.toValue <$> Series.historical site.policy server window given)
  | .heatmap server window =>
    some (HeatmapCell.listValue <$> Series.heatmap site.policy server window)
  | .compare server first second =>
    some (Comparison.toValue <$> Comparison.read site.policy server first second)
  | .dashboard server => some (Dashboard.toValue <$> Dashboard.read site.policy server)
  | .summarize => some (Summary.toValue <$> Summary.read site.policy)
  | .request sent => some (Http.Response.toValue <$> site.handle sent)
  | _ => none

end Step

namespace Session

/-- Runs a program in a session. Under a deadline a read that stalls ends it. -/
def run {α : Type} (session : Session) (deadline : Bool) (program : Program α) :
    Except Failure α × Session :=
  let outcome := program.run backend session
  (if deadline then outcome.inTime else outcome.result, outcome.state)

/-- Takes a step. -/
def step (session : Session) (deadline : Bool) (step : Step) : Except Failure Value × Session :=
  match step with
  | .write source server points =>
    let (written, store) := session.store.write source server points
    (written.map fun _ => .null, { session with store := store })
  | .configure draft =>
    match draft.policy with
    | .ok policy =>
      (.ok .null, { session with site := { session.site with policy := policy }, asked := [] })
    | .error failure => (.error failure, session)
  | .setClock time => (.ok .null, { session with clock := time })
  | .close => (.ok .null, { session with store := session.store.close })
  | .reopen => (.ok .null, { session with store := session.store.reopen, asked := [] })
  | reading =>
    match reading.program? session.site with
    | some program => session.run deadline program
    | none => (.ok .null, session)

end Session
end Rollup
