import Rollup.Failure
import Rollup.Number.Rounding

/-!
Stored times: the seconds since 1970 as a binary64 value, which is kept exactly as a whole number of
`2 ^ -72` seconds. That step is fine enough for every value that a time to the microsecond rounds to,
and the order of the numbers is that of the values. Times that round to one value share a bucket.
-/
namespace Rollup

/-- A stored time, in steps of `2 ^ -72` seconds. -/
abbrev Bucket := Int

namespace Bucket

open Number (divNearest round53)

/-- The steps of a second. -/
def perSecond : Nat := Nat.pow 2 72

/-- The number of 53 significant bits nearest to `num / den`. -/
def nearest (num : Int) (den : Nat) : Int :=
  let size := round53 num.natAbs den
  if num < 0 then -size else size

/-- The bucket of an instant, given in microseconds since 1970: their quotient by a million with one
rounding. -/
def ofMicros (micros : Int) : Bucket :=
  nearest (micros * perSecond) second

/-- The bucket of a clock reading without offset: its whole seconds and its fraction, each rounded,
and their rounded sum. The local zone, which such a reading is in, is taken to be universal time. -/
def ofReading (micros : Int) : Bucket :=
  nearest (micros / second * perSecond + nearest (micros % second * perSecond) second) 1

/-- The bucket of a timestamp. A reading without offset is looked up in the calendar up to a day
earlier, so the first day has none. -/
def ofTime (t : Timestamp) : Except Failure Bucket :=
  if t.isAware then .ok (ofMicros t.sinceEpoch)
  else if t.wall < day then .error (.arithmetic (.yearOutOfRange 0))
  else .ok (ofReading t.sinceEpoch)

/-- The microseconds since 1970 of a bucket: its whole seconds, and its fraction times a million
with one rounding, taken to the nearest microsecond. -/
def toMicros (b : Bucket) : Int :=
  let whole := b.tdiv perSecond
  let fraction := b.tmod perSecond
  whole * second + divNearest (nearest (fraction * second) 1) perSecond

/-- The year next to the calendar on the side of a time outside it. -/
def yearOutside (micros : Int) : Nat :=
  if micros < 0 then 0 else 10000

/-- The timestamp of a bucket in universal time. -/
def toTime (b : Bucket) : Except Failure Timestamp :=
  match Timestamp.ofWall? (b.toMicros + Timestamp.epoch) (some .zero) with
  | some t => .ok t
  | none => .error (.arithmetic (.yearOutOfRange (yearOutside b.toMicros)))

end Bucket
end Rollup
