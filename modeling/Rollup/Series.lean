import Rollup.Policy
import Rollup.Program

/-!
The series of a server in a window, read from a single tier with a bounded number of rows. A window
that holds nothing shows the tier's most recent rows instead, where that is allowed, and says so.
-/
namespace Rollup

open Program

/-- What a series has to say about itself. -/
inductive Notice
  | substituted
  | noData
deriving DecidableEq, Repr

/-- The words of a notice. -/
def Notice.text : Notice → String
  | .substituted => "Showing available data (requested period had no data)"
  | .noData => "No data found in specified range"

/-- The rows read for a window. `truncated` tells that the window holds more rows than were read. -/
structure Series where
  server : String
  window : Window
  tier : Tier
  points : List Point
  notice : Option Notice
  truncated : Bool

namespace Series

/-- The tier to read: the one that was given, or else the one for the window's length. -/
def tierFor (given : Option Value) (server : String) (window : Window) : Except Failure Tier :=
  match given with
  | some value => Tier.ofValue value (some server)
  | none => do return Tier.forSpan (← window.stop.minus window.start)

/-- The series of a window without rows, shown by substitutes if there are any. -/
def standIn (server : String) (window : Window) (tier : Tier) (points : List Point) : Series where
  server := server
  window := window
  tier := tier
  points := points
  notice := some (if points.isEmpty then .noData else .substituted)
  truncated := false

/-- Reads what is shown for a window without rows. -/
def substitute (policy : Policy) (server : String) (window : Window) (tier : Tier)
    (allowed : Bool) : Program Series := do
  if allowed then
    let points ← ask (.recent (policy.source tier) server policy.recentLimit)
    return standIn server window tier points
  else return standIn server window tier []

/-- Reads a series. The rows are counted first, so that a series knows whether it is cut short. A
window that does not reach past its start is empty and is never substituted. -/
def read (policy : Policy) (server : String) (window : Window) (given : Option Value)
    (allowed : Bool) : Program Series := do
  let tier ← lift (tierFor given server window)
  if ← lift (window.stop.notAfter window.start) then
    return standIn server window tier []
  else
    let source := policy.source tier
    let count : Int ← ask (.count source server window)
    if count = 0 then substitute policy server window tier allowed
    else
      let points : List Point ← ask (.range source server window policy.rowCap)
      if points.isEmpty then substitute policy server window tier allowed
      else return ⟨server, window, tier, points, none, decide (points.length < count)⟩

/-- The longest window before the present that is shown in the finest tier. -/
def recentSpan : Int := hour

/-- Reads the last rows before the present in the finest tier, for at most `recentSpan`. -/
def realtime (policy : Policy) (server : String) (span : Int) : Program Series := do
  let stop ← now
  let start ← lift (stop.shift (-min span recentSpan))
  read policy server ⟨start, stop⟩ (some (.tier .oneMinute)) policy.substitutes

/-- Reads a series of a tier that has to be given. -/
def historical (policy : Policy) (server : String) (window : Window) (given : Value) :
    Program Series := do
  let tier ← lift (Tier.ofValue given (some server))
  read policy server window (some (.tier tier)) policy.substitutes

/-- Reads the heatmap of a window. Rows of other times never stand in. -/
def heatmap (policy : Policy) (server : String) (window : Window) :
    Program (List HeatmapCell) := do
  let series ← read policy server window none false
  return Rollup.heatmap series.points

/-- A series as a record. -/
def toValue (s : Series) : Value :=
  .record [("server_id", .text s.server), ("start", .time s.window.start),
    ("end", .time s.window.stop), ("granularity", .tier s.tier),
    ("points", Point.listValue s.points), ("total_points", .int s.points.length),
    ("message", optionalText (s.notice.map Notice.text)), ("truncated", .bool s.truncated)]

end Series
end Rollup
