import Rollup.Time.Calendar

/-!
Points in time to the microsecond. A timestamp keeps the reading of a clock and, if it is known, the
clock's offset from universal time. Two timestamps with offsets compare as instants, two without
compare as readings, and a mixed pair does not compare at all.
-/
namespace Rollup

/-- The microseconds of a second, an hour and a day. -/
def second : Nat := 1000000
def hour : Nat := 3600 * second
def day : Nat := 24 * hour

/-- How far ahead of universal time a clock runs, in microseconds, by less than a day. -/
structure Offset where
  micros : Int
  lower : -(day : Int) < micros := by decide
  upper : micros < day := by decide
deriving DecidableEq, Repr

/-- The offset of universal time itself. -/
def Offset.zero : Offset := ⟨0, by decide, by decide⟩

/-- The offset of that many microseconds, if it is less than a day. -/
def Offset.ofMicros? (micros : Int) : Option Offset :=
  if h : -(day : Int) < micros ∧ micros < day then some ⟨micros, h.1, h.2⟩ else none

/-- A clock reading in microseconds since the start of year 1, with the clock's offset if known. Only
clocks with a fixed offset are meant. Two readings of one clock whose offset varies, as with the
season, would compare as readings and not as instants. -/
structure Timestamp where
  wall : Nat
  offset : Option Offset
  wall_lt : wall < Calendar.dayCount * day
deriving DecidableEq, Repr

namespace Timestamp

/-- The timestamp of a reading, if the reading lies in the years 1 to 9999. -/
def ofWall? (wall : Int) (offset : Option Offset) : Option Timestamp :=
  if h : wall.toNat < Calendar.dayCount * day then
    if 0 ≤ wall then some ⟨wall.toNat, offset, h⟩ else none
  else none

/-- Whether the timestamp knows its offset. -/
def isAware (t : Timestamp) : Bool := t.offset.isSome

/-- Where the timestamp lies on its time line: universal time if it has an offset, its own clock
otherwise. -/
def position (t : Timestamp) : Int :=
  match t.offset with
  | some offset => t.wall - offset.micros
  | none => t.wall

/-- The microseconds from the second timestamp to the first, if both lie on one time line. -/
def gap? (later earlier : Timestamp) : Option Int :=
  if later.isAware = earlier.isAware then some (later.position - earlier.position) else none

/-- Whether the first is not after the second, if both lie on one time line. -/
def le? (a b : Timestamp) : Option Bool :=
  if a.isAware = b.isAware then some (decide (a.position ≤ b.position)) else none

/-- Whether the first is before the second, if both lie on one time line. -/
def lt? (a b : Timestamp) : Option Bool :=
  if a.isAware = b.isAware then some (decide (a.position < b.position)) else none

/-- Whether two timestamps denote one point in time. -/
def isSame (a b : Timestamp) : Bool :=
  a.isAware == b.isAware && a.position == b.position

/-- The reading moved by a span, by the same clock, if it stays in the calendar. -/
def shift? (t : Timestamp) (micros : Int) : Option Timestamp :=
  ofWall? (t.wall + micros) t.offset

/-- The microseconds between the start of year 1 and that of 1970. -/
def epoch : Nat := 719162 * day

/-- The microseconds since the start of 1970, on the timestamp's own time line. -/
def sinceEpoch (t : Timestamp) : Int := t.position - epoch

/-- The date shown by the clock. -/
def date (t : Timestamp) : Calendar.Date := Calendar.ofDay (t.wall / day)

/-- The time of day shown by the clock, in microseconds. -/
def timeOfDay (t : Timestamp) : Nat := t.wall % day

end Timestamp
end Rollup
