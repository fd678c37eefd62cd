import Rollup.Series
import Rollup.Trend

/-!
Two windows of one server side by side: each in the tier for its own length, with the averages and
their change from the first window to the second. Rows from outside a window never stand in.
-/
namespace Rollup

/-- Two windows of a server compared. -/
structure Comparison where
  first : Series
  second : Series
  change : PeriodChange

namespace Comparison

/-- Reads both windows and compares them. -/
def read (policy : Policy) (server : String) (first second : Window) : Program Comparison := do
  let one ← Series.read policy server first none false
  let two ← Series.read policy server second none false
  return ⟨one, two, comparePeriods one.points two.points⟩

/-- The window of a series and its tier as a record. -/
def periodValue (s : Series) : Value :=
  .record [("start", .time s.window.start), ("end", .time s.window.stop),
    ("granularity", .tier s.tier)]

/-- A comparison as a record. -/
def toValue (c : Comparison) : Value :=
  .record [("server_id", .text c.first.server),
    ("period1", periodValue c.first), ("period2", periodValue c.second),
    ("averages1", c.change.first.toValue), ("averages2", c.change.second.toValue),
    ("changes", c.change.change.toValue),
    ("points1", Point.listValue c.first.points),
    ("points2", Point.listValue c.second.points)]

end Comparison
end Rollup
