import Rollup.Value

/-!
Measurements: one bucket of a tier with its mean, peak and low readings, the lighter view of it that
a heatmap draws, and the table of six values, one for each metric.
-/
namespace Rollup

/-- One value for each of the six metrics. -/
structure PerMetric (α : Type) where
  cpu : α
  memory : α
  disk : α
  network : α
  temperature : α
  load : α
deriving DecidableEq, Repr

namespace PerMetric

variable {α β γ : Type}

/-- The same value for every metric. -/
def fill (x : α) : PerMetric α := ⟨x, x, x, x, x, x⟩

/-- Applies a function to every value. -/
def map (f : α → β) (t : PerMetric α) : PerMetric β :=
  ⟨f t.cpu, f t.memory, f t.disk, f t.network, f t.temperature, f t.load⟩

/-- Applies a function to the two values of every metric. -/
def zipWith (f : α → β → γ) (s : PerMetric α) (t : PerMetric β) : PerMetric γ :=
  ⟨f s.cpu t.cpu, f s.memory t.memory, f s.disk t.disk, f s.network t.network,
    f s.temperature t.temperature, f s.load t.load⟩

/-- The six values as a record. -/
def toValue (t : PerMetric Float) : Value :=
  .record [("cpu", .float t.cpu), ("memory", .float t.memory), ("disk", .float t.disk),
    ("network", .float t.network), ("temperature", .float t.temperature), ("load", .float t.load)]

end PerMetric

/-- The least readings of a bucket. Not every tier keeps those of disk and network, and no tier keeps
those of temperature and load. -/
structure Lows where
  cpu : Float
  memory : Float
  disk : Option Float
  network : Option Float

/-- The readings of one bucket and how many raw samples went into it. -/
structure Readings where
  mean : PerMetric Float
  peak : PerMetric Float
  low : Lows
  samples : Int

/-- Readings of nothing. -/
def Readings.zero : Readings where
  mean := .fill 0
  peak := .fill 0
  low := ⟨0, 0, none, none⟩
  samples := 0

/-- A bucket with the time at which it starts. -/
structure Point where
  time : Timestamp
  readings : Readings

namespace Point

/-- A reading that may be absent. -/
def optional : Option Float → Value
  | some x => .float x
  | none => .null

/-- A point as a record. -/
def toValue (p : Point) : Value :=
  let r := p.readings
  .record [("timestamp", .time p.time),
    ("cpu_avg", .float r.mean.cpu), ("cpu_max", .float r.peak.cpu), ("cpu_min", .float r.low.cpu),
    ("memory_avg", .float r.mean.memory), ("memory_max", .float r.peak.memory),
    ("memory_min", .float r.low.memory),
    ("disk_avg", .float r.mean.disk), ("disk_max", .float r.peak.disk),
    ("disk_min", optional r.low.disk),
    ("network_avg", .float r.mean.network), ("network_max", .float r.peak.network),
    ("network_min", optional r.low.network),
    ("temperature_avg", .float r.mean.temperature), ("temperature_max", .float r.peak.temperature),
    ("load_avg", .float r.mean.load), ("load_max", .float r.peak.load),
    ("sample_count", .int r.samples)]

/-- Points as a list of records. -/
def listValue (points : List Point) : Value := .list (points.map toValue)

end Point

/-- What a heatmap draws of a bucket. -/
structure HeatmapCell where
  time : Timestamp
  cpuMean : Float
  memoryMean : Float
  diskMean : Float
  cpuPeak : Float
  memoryPeak : Float
  diskPeak : Float
  samples : Int

namespace HeatmapCell

/-- The cell of a point. No value is computed anew. -/
def ofPoint (p : Point) : HeatmapCell where
  time := p.time
  cpuMean := p.readings.mean.cpu
  memoryMean := p.readings.mean.memory
  diskMean := p.readings.mean.disk
  cpuPeak := p.readings.peak.cpu
  memoryPeak := p.readings.peak.memory
  diskPeak := p.readings.peak.disk
  samples := p.readings.samples

/-- A cell as a record. -/
def toValue (c : HeatmapCell) : Value :=
  .record [("timestamp", .time c.time), ("cpu_avg", .float c.cpuMean),
    ("memory_avg", .float c.memoryMean), ("disk_avg", .float c.diskMean),
    ("cpu_max", .float c.cpuPeak), ("memory_max", .float c.memoryPeak),
    ("disk_max", .float c.diskPeak), ("sample_count", .int c.samples)]

/-- Cells as a list of records. -/
def listValue (cells : List HeatmapCell) : Value := .list (cells.map toValue)

end HeatmapCell

/-- The cells of a series, in its order. -/
def heatmap (points : List Point) : List HeatmapCell := points.map .ofPoint

end Rollup
