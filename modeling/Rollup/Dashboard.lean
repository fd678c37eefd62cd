import Rollup.Series
import Rollup.Trend

/-!
The dashboard of one server: its current reading, the last day with its trend, and the day's heatmap.
The reading and the day are required. A heatmap that cannot be read is left out, and a note says so.
-/
namespace Rollup

open Program

/-- The dashboard of a server. The notes tell what is missing from it or stands in. -/
structure Dashboard where
  server : String
  current : Point
  day : Series
  trend : PerMetric Float
  cells : List HeatmapCell
  updated : Timestamp
  notes : List String

namespace Dashboard

/-- The note on a heatmap that is left out. -/
def heatmapNote : String := "Heatmap unavailable"

/-- Reads the most recent row of a tier. -/
def latest (policy : Policy) (server : String) (tier : Tier) : Program (Option Point) :=
  ask (.latest (policy.source tier) server)

/-- Reads a dashboard. -/
def read (policy : Policy) (server : String) : Program Dashboard := do
  match ← latest policy server .oneMinute with
  | none => fail (.noCurrentData server)
  | some current =>
    let stop ← now
    let window := ⟨← lift (stop.shift (-(Rollup.day : Int))), stop⟩
    let series ← Series.read policy server window none policy.substitutes
    let notes := (series.notice.map Notice.text).toList
    let cells ← attempt (Series.heatmap policy server window)
    let updated ← now
    let view (cells : List HeatmapCell) (notes : List String) : Dashboard :=
      ⟨server, current, series, Rollup.trend series.points, cells, updated, notes⟩
    match cells with
    | .ok cells => return view cells notes
    | .error _ => return view [] (notes ++ [heatmapNote])

/-- The notes in one text, if there are any. -/
def message (d : Dashboard) : Option String :=
  if d.notes.isEmpty then none else some (Value.joined "; " d.notes)

/-- A dashboard as a record. -/
def toValue (d : Dashboard) : Value :=
  .record [("server_id", .text d.server), ("current", d.current.toValue),
    ("granularity", .tier d.day.tier),
    ("points_24h", Point.listValue d.day.points),
    ("trends", d.trend.toValue),
    ("heatmap", HeatmapCell.listValue d.cells),
    ("last_updated", .time d.updated), ("message", optionalText d.message)]

end Dashboard
end Rollup
