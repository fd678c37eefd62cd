import Rollup.Time.Timestamp
import Rollup.Number.Style

/-!
The written form of a timestamp: date, `T`, time of day, a fraction of six digits unless it is zero,
and the offset. Universal time is written `Z`, any other offset as hours and minutes, with seconds
and a fraction only where they are needed.
-/
namespace Rollup

open Number (padded)

/-- A fraction of a second, written only if it is not zero. -/
def fractionText (micros : Nat) : String :=
  if micros = 0 then "" else "." ++ padded 6 micros

/-- Hours and minutes, parted by a colon. -/
def hourMinuteText (micros : Nat) : String :=
  padded 2 (micros / hour) ++ ":" ++ padded 2 (micros / (60 * second) % 60)

/-- The written form of an offset. -/
def Offset.toText (offset : Offset) : String :=
  let size := offset.micros.natAbs
  if size = 0 then "Z"
  else
    let seconds := size / second % 60
    let fraction := size % second
    (if offset.micros < 0 then "-" else "+") ++ hourMinuteText size ++
      (if seconds = 0 ∧ fraction = 0 then "" else ":" ++ padded 2 seconds ++ fractionText fraction)

/-- The written form of a timestamp. -/
def Timestamp.toText (t : Timestamp) : String :=
  let date := t.date
  let time := t.timeOfDay
  padded 4 date.year ++ "-" ++ padded 2 date.month ++ "-" ++ padded 2 date.day ++ "T" ++
    hourMinuteText time ++ ":" ++ padded 2 (time / second % 60) ++ fractionText (time % second) ++
    match t.offset with
    | some offset => offset.toText
    | none => ""

end Rollup
