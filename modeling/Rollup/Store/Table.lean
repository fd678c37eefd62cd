import Rollup.Entries
import Rollup.Stats
import Rollup.Store.Bucket

/-!
Tables of rows. A table holds one row for each server and bucket: a row that is written again takes
the place of the earlier one. The rows of a server are kept from the newest to the oldest.
-/
namespace Rollup

/-- What a table holds for a bucket. -/
structure Row where
  bucket : Bucket
  readings : Readings

namespace Row

/-- A reading as it is stored: nothing for an undefined number, and one zero only. -/
def stored (x : Float) : Option Float :=
  if x.isNaN then none else if Number.Binary64.isNegativeZero x then some 0 else some x

/-- A reading as it comes back where nothing stands for zero. -/
def settled (x : Float) : Float := (stored x).getD 0

/-- All readings as they come back. Only the least ones of disk and network may be absent. -/
def settle (r : Readings) : Readings where
  mean := r.mean.map settled
  peak := r.peak.map settled
  low := ⟨settled r.low.cpu, settled r.low.memory, r.low.disk.bind stored, r.low.network.bind stored⟩
  samples := r.samples

/-- The row of a point. -/
def ofPoint (p : Point) : Except Failure Row := do
  return ⟨← Bucket.ofTime p.time, settle p.readings⟩

/-- The point of a row, in universal time. -/
def toPoint (row : Row) : Except Failure Point := do
  return ⟨← row.bucket.toTime, row.readings⟩

/-- Puts a row among others, the newest first, in place of the one of its bucket. -/
def insert (row : Row) : List Row → List Row
  | [] => [row]
  | other :: rest =>
    if other.bucket < row.bucket then row :: other :: rest
    else if other.bucket = row.bucket then row :: rest
    else other :: insert row rest

end Row

/-- The rows of each server, the newest first. -/
abbrev Table := List (String × List Row)

namespace Table

/-- The rows of a server, the newest first. -/
def rows (table : Table) (server : String) : List Row :=
  (Entries.find? (· == ·) server table).getD []

/-- Writes a row. -/
def put (table : Table) (server : String) (row : Row) : Table :=
  Entries.put (· == ·) server (row.insert (table.rows server)) table

/-- The rows of a server between two buckets, both included, the oldest first. -/
def between (table : Table) (server : String) (first last : Bucket) : List Row :=
  ((table.rows server).filter fun row => decide (first ≤ row.bucket ∧ row.bucket ≤ last)).reverse

/-- All buckets of a table. -/
def buckets (table : Table) : List Bucket :=
  table.flatMap fun entry => entry.2.map Row.bucket

/-- The points of rows, as far as they have a time in the calendar. -/
def points (rows : List Row) : Except Failure (List Point) := rows.mapM Row.toPoint

/-- The time of a bucket that may be absent. -/
def time? : Option Bucket → Except Failure (Option Timestamp)
  | none => .ok none
  | some bucket => do return some (← bucket.toTime)

/-- What a table holds. -/
def stats (table : Table) : Except Failure TierStats := do
  let buckets := table.buckets
  let earliest ← time? buckets.min?
  let latest ← time? buckets.max?
  return ⟨buckets.length, table.length, earliest, latest, none⟩

end Table
end Rollup
