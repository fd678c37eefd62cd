import Rollup.Point

/-!
Averages over a series and their change in percent. The trend of a series compares its first quarter
with its last one.
-/
namespace Rollup

/-- The change from `old` to `new` in percent. From zero every change counts as none. -/
def percentChange (old new : Float) : Float :=
  if old == 0 then 0 else (new - old) / old * 100

/-- The change of every metric in percent. -/
def changes (old new : PerMetric Float) : PerMetric Float :=
  old.zipWith percentChange new

/-- The sum of numbers from left to right. -/
def sum (xs : List Float) : Float := xs.foldl (· + ·) 0

/-- The average of each metric's mean readings, all zero for no points. -/
def averages (points : List Point) : PerMetric Float :=
  if points.isEmpty then .fill 0
  else
    let means := points.map fun p => p.readings.mean
    let average (metric : PerMetric Float → Float) : Float :=
      sum (means.map metric) / points.length.toFloat
    ⟨average (·.cpu), average (·.memory), average (·.disk), average (·.network),
      average (·.temperature), average (·.load)⟩

/-- The first and the last quarter of a series, each of a fourth of its length, rounded down. -/
def quarters {α : Type} (series : List α) : List α × List α :=
  let quarter := series.length / 4
  (series.take quarter, series.drop (series.length - quarter))

/-- The change from the first quarter to the last; none for a series of fewer than four points. -/
def trend (points : List Point) : PerMetric Float :=
  let ends := quarters points
  if ends.1.isEmpty then .fill 0 else changes (averages ends.1) (averages ends.2)

/-- The averages of two periods and the change from the first to the second. -/
structure PeriodChange where
  first : PerMetric Float
  second : PerMetric Float
  change : PerMetric Float

/-- Compares two periods by their averages. -/
def comparePeriods (first second : List Point) : PeriodChange :=
  let old := averages first
  let new := averages second
  ⟨old, new, changes old new⟩

end Rollup
