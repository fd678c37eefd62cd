import Rollup.Point

/-!
Alerts for one bucket: each metric's mean reading against its limits. A reading on a limit raises
nothing.
-/
namespace Rollup.Alert

/-- A limit: the least reading that is still quiet, the words in front of the reading, and those
behind it. -/
structure Limit where
  above : Float
  words : String
  measure : String

/-- A metric's limits, the highest first, and the places shown of its reading. -/
structure Rule where
  reading : PerMetric Float → Float
  places : Nat
  limits : List Limit

/-- The rules in the order of their alerts. -/
def rules : List Rule := [
  ⟨(·.cpu), 1, [⟨80, "High CPU usage: ", "%"⟩, ⟨60, "Moderate CPU usage: ", "%"⟩]⟩,
  ⟨(·.memory), 1, [⟨85, "High memory usage: ", "%"⟩, ⟨70, "Moderate memory usage: ", "%"⟩]⟩,
  ⟨(·.disk), 1, [⟨90, "Critical disk usage: ", "%"⟩, ⟨80, "High disk usage: ", "%"⟩]⟩,
  ⟨(·.temperature), 1, [⟨80, "High CPU temperature: ", "°C"⟩]⟩,
  ⟨(·.load), 2, [⟨2, "High load average (1m): ", ""⟩]⟩,
  ⟨(·.network), 1, [⟨1000, "High network usage: ", " MB/s"⟩]⟩]

/-- The alert of a rule: that of the first limit that the reading exceeds. -/
def Rule.alert? (rule : Rule) (mean : PerMetric Float) : Option String :=
  let reading := rule.reading mean
  (rule.limits.find? fun limit => limit.above < reading).map fun limit =>
    limit.words ++ Number.fixed rule.places reading ++ limit.measure

/-- The alerts of a point. -/
def ofPoint (p : Point) : List String :=
  rules.filterMap fun rule => rule.alert? p.readings.mean

end Rollup.Alert
