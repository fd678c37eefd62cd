import Rollup.Failure
import Rollup.Text.Blank
import Rollup.Text.Digit

/-!
Durations as text: one or more parts of a decimal number and a unit, such as `1h30m` or `250ms`. The
parts are looked for from left to right, and the text is a duration if the parts found, written one
after another, are the whole text.
-/
namespace Rollup.Duration

/-- The unit of a part. -/
inductive Unit
  | hours
  | minutes
  | seconds
  | milliseconds
deriving DecidableEq, Repr

/-- How a unit is written. -/
def Unit.text : Unit → List Char
  | hours => ['h']
  | minutes => ['m']
  | seconds => ['s']
  | milliseconds => ['m', 's']

/-- The microseconds of a unit. -/
def Unit.micros : Unit → Nat
  | hours => hour
  | minutes => 60 * second
  | seconds => second
  | milliseconds => 1000

/-- A number, by the digits before the point and those behind it if there is a point, and a unit. -/
structure Part where
  whole : List Char
  fraction : Option (List Char)
  unit : Unit
deriving DecidableEq, Repr

/-- The decimal point and the digits behind it. -/
def fractionText : Option (List Char) → List Char
  | none => []
  | some digits => '.' :: digits

/-- A part as it is written. -/
def Part.text (part : Part) : List Char :=
  part.whole ++ fractionText part.fraction ++ part.unit.text

/-- The unit that a text starts with; `ms` goes before `m`. -/
def unitAt? : List Char → Option Unit
  | 'm' :: 's' :: _ => some .milliseconds
  | 'h' :: _ => some .hours
  | 'm' :: _ => some .minutes
  | 's' :: _ => some .seconds
  | _ => none

/-- The digits behind a decimal point that the text starts with, if there are any. -/
def fractionAt? : List Char → Option (List Char)
  | '.' :: rest =>
    let digits := rest.takeWhile Text.isDigit
    if digits.isEmpty then none else some digits
  | _ => none

/-- The part that a text starts with. Its digits reach as far as they can. -/
def partAt? (cs : List Char) : Option Part :=
  let whole := cs.takeWhile Text.isDigit
  if whole.isEmpty then none
  else
    let fraction := fractionAt? (cs.drop whole.length)
    (unitAt? (cs.drop (whole.length + (fractionText fraction).length))).map fun unit =>
      ⟨whole, fraction, unit⟩

/-- The parts found from left to right, after skipping so many characters. A character at which no
part starts is passed over. -/
def partsAfter : (skip : Nat) → List Char → List Part
  | _, [] => []
  | skip + 1, _ :: rest => partsAfter skip rest
  | 0, c :: rest =>
    match partAt? (c :: rest) with
    | some part => part :: partsAfter (part.text.length - 1) rest
    | none => partsAfter 0 rest

/-- The parts of a text, if it consists of parts. -/
def parts? (cs : List Char) : Option (List Part) :=
  let found := partsAfter 0 cs
  if found.isEmpty ∨ found.flatMap Part.text ≠ cs then none else some found

/-- The span of a part: the number's nearest binary64 value times the unit, rounded to a microsecond
with a half going to the even one. -/
def Part.span (part : Part) : Except Failure Int :=
  let decimals := part.fraction.getD []
  let units := Number.Binary64.nearestUnits (Text.numeral (part.whole ++ decimals))
    (Nat.pow 10 decimals.length)
  if Number.Binary64.tooLarge units then .error (.arithmetic .infiniteNumber)
  else
    checkedSpan (Number.divNearest (units * part.unit.micros : Nat)
      (Nat.pow 2 Number.Binary64.places))

/-- The sum of the parts' spans, from left to right. -/
def total (parts : List Part) : Except Failure Int :=
  parts.foldlM (fun sum part => do checkedSpan (sum + (← part.span))) 0

/-- The span that a text writes, blanks around it aside. -/
def ofText (text : String) : Except Failure Int :=
  match parts? (Text.strip text.toList) with
  | none => .error (.window .invalidDuration)
  | some parts => do
    let sum ← total parts
    if sum ≤ 0 then .error (.window .noDuration) else .ok sum

end Rollup.Duration
