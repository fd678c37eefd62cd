import Rollup.Number.Binary64

/-!
The fewest decimal digits that read back as a given binary64 value. A decimal reads back iff it
lies in the interval of numbers that round to the value; the coarsest decimal grid with a point in
that interval gives the digits, and of two such points the nearer one.
-/
namespace Rollup.Number.Shortest

/-- A decimal `digits * 10 ^ exponent`. -/
structure Decimal where
  digits : Nat
  exponent : Int
deriving DecidableEq, Repr

/-- The numbers that round to `significand * 2 ^ exponent`, in quarters of `2 ^ exponent`: both
ends, and whether they belong to it. Below a power of two the gap is half as wide. -/
structure Interval where
  low : Nat
  high : Nat
  closed : Bool

/-- The interval of a value; `lowest` says that the values below are spaced alike. -/
def Interval.around (significand : Nat) (lowest : Bool) : Interval where
  low := 4 * significand - (if significand = Nat.pow 2 52 && !lowest then 1 else 2)
  high := 4 * significand + 2
  closed := significand % 2 = 0

/-- `digits * 10 ^ exponent` and `quarters * 2 ^ (binary - 2)` over a common denominator. -/
def align (digits : Nat) (exponent : Int) (quarters : Nat) (binary : Int) : Nat × Nat :=
  (digits * Nat.pow 10 exponent.toNat * 4 * Nat.pow 2 (-binary).toNat,
    quarters * Nat.pow 2 binary.toNat * Nat.pow 10 (-exponent).toNat)

/-- Whether a decimal lies in an interval counted in quarters of `2 ^ binary`. -/
def Interval.holds (i : Interval) (binary : Int) (d : Decimal) : Bool :=
  let above := align d.digits d.exponent i.low binary
  let below := align d.digits d.exponent i.high binary
  if i.closed then decide (above.2 ≤ above.1) && decide (below.1 ≤ below.2)
  else decide (above.2 < above.1) && decide (below.1 < below.2)

/-- The point of a decimal grid in the interval that is nearest to the value; a tie goes to the even
digits. -/
def onGrid (significand : Nat) (binary : Int) (i : Interval) (exponent : Int) : Option Decimal :=
  let value := align 1 exponent (4 * significand) binary
  let floor := value.2 / value.1
  let below : Decimal := ⟨floor, exponent⟩
  let above : Decimal := ⟨floor + 1, exponent⟩
  match i.holds binary below, i.holds binary above with
  | true, true => some ⟨(divNearest value.2 value.1).toNat, exponent⟩
  | true, false => some below
  | false, true => some above
  | false, false => none

/-- The exponent of a decimal grid that is coarser than the value itself. -/
def coarsest (significand : Nat) (binary : Int) : Int :=
  (Nat.log2 significand + 1 + binary) * 30103 / 100000 + 1

/-- The shortest decimal of the positive value `significand * 2 ^ shift` least values. Twenty grids
suffice, since seventeen digits tell any two values apart. -/
def decimal (significand shift : Nat) : Decimal :=
  let binary : Int := (shift : Int) - Binary64.places
  let interval := Interval.around significand (shift == 0)
  let first := coarsest significand binary
  let found := (List.range 20).findSome? fun (step : Nat) => onGrid significand binary interval (first - step)
  found.getD ⟨0, 0⟩

end Rollup.Number.Shortest
