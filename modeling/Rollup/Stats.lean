import Rollup.Point

/-!
How much each tier holds, and the summary over the tiers that could be read. Records add up over the
tiers; servers do not, since all tiers hold the same ones, so the largest count stands.
-/
namespace Rollup

/-- What one tier holds. -/
structure TierStats where
  records : Int
  servers : Int
  earliest : Option Timestamp
  latest : Option Timestamp
  size : Option String

/-- What an empty tier holds. -/
def TierStats.empty : TierStats := ⟨0, 0, none, none, none⟩

/-- A timestamp that may be absent. -/
def optionalTime : Option Timestamp → Value
  | some t => .time t
  | none => .null

/-- A text that may be absent. -/
def optionalText : Option String → Value
  | some s => .text s
  | none => .null

/-- What a tier holds, as a record. -/
def TierStats.toValue (s : TierStats) : Value :=
  .record [("total_records", .int s.records), ("unique_servers", .int s.servers),
    ("earliest_record", optionalTime s.earliest), ("latest_record", optionalTime s.latest),
    ("storage_size", optionalText s.size)]

/-- What all tiers hold together. -/
structure Summary where
  tiers : List (Tier × TierStats)
  records : Int
  servers : Int
  missing : List Tier
  updated : Timestamp

namespace Summary

/-- The largest of some counts, zero if there are none. -/
def largest : List Int → Int
  | [] => 0
  | n :: rest => rest.foldl max n

/-- The summary of the tiers that could be read. -/
def ofTiers (tiers : List (Tier × TierStats)) (missing : List Tier) (now : Timestamp) : Summary where
  tiers := tiers
  records := (tiers.map fun entry => entry.2.records).foldl (· + ·) 0
  servers := largest (tiers.map fun entry => entry.2.servers)
  missing := missing
  updated := now

/-- A summary as a record. -/
def toValue (s : Summary) : Value :=
  .record [
    ("granularity_stats", Value.ofEntries (s.tiers.map fun entry => (.tier entry.1, entry.2.toValue))),
    ("total_records", .int s.records), ("unique_servers", .int s.servers),
    ("tiers_missing", .list (s.missing.map .tier)), ("last_updated", .time s.updated)]

end Summary
end Rollup
