import Rollup.Time.Iso

/-!
How messages show spans and timestamps: a span as days and a time of day, and both as the calls that
make them, with the parts that are not zero.
-/
namespace Rollup

open Number (padded)

/-- A span by itself: its days, rounded down, unless there are none, and the time of day left. -/
def spanText (micros : Int) : String :=
  let days := micros / day
  let rest := (micros % day).toNat
  (if days = 0 then "" else
    toString days ++ (if days.natAbs = 1 then " day, " else " days, ")) ++
    Nat.repr (rest / hour) ++ ":" ++ padded 2 (rest / (60 * second) % 60) ++ ":" ++
    padded 2 (rest / second % 60) ++ fractionText (rest % second)

/-- A span as the call that makes it. -/
def spanLiteral (micros : Int) : String :=
  let parts : List (String × Int) := [("days", micros / day), ("seconds", micros % day / second),
    ("microseconds", micros % second)]
  let named := (parts.filter fun part => part.2 != 0).map fun part => part.1 ++ "=" ++ toString part.2
  "datetime.timedelta(" ++ (if named.isEmpty then "0" else String.intercalate ", " named) ++ ")"

/-- An offset as the call that makes it. -/
def Offset.literal (offset : Offset) : String :=
  if offset.micros = 0 then "datetime.timezone.utc"
  else "datetime.timezone(" ++ spanLiteral offset.micros ++ ")"

/-- The numbers of a clock reading: hour and minute always, the second where it or the fraction is not
zero, the microsecond where it is not zero. -/
def Timestamp.numbers (t : Timestamp) : List Nat :=
  let date := t.date
  let time := t.timeOfDay
  let seconds := time / second % 60
  let fraction := time % second
  [date.year, date.month, date.day, time / hour, time / (60 * second) % 60] ++
    (if seconds = 0 ∧ fraction = 0 then [] else [seconds]) ++
    (if fraction = 0 then [] else [fraction])

/-- A timestamp as the call that makes it. -/
def Timestamp.literal (t : Timestamp) : String :=
  let zone := (t.offset.map fun offset => "tzinfo=" ++ offset.literal).toList
  "datetime.datetime(" ++ String.intercalate ", " (t.numbers.map Nat.repr ++ zone) ++ ")"

/-- A timestamp by itself: as it is written, with a space before the time of day and with universal
time as an offset like any other. -/
def Timestamp.display (t : Timestamp) : String :=
  let spaced := t.toText.toList.map fun c => if c = 'T' then ' ' else c
  String.ofList (spaced.flatMap fun c => if c = 'Z' then "+00:00".toList else [c])

end Rollup
