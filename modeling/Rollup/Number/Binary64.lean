import Rollup.Number.Rounding

/-!
Binary64 values as whole multiples of the least positive one, `2 ^ -1074`. A value is read from
its bits and rebuilt from a multiple, so a decimal or a quotient becomes the nearest value with
one rounding.
-/
namespace Rollup.Number.Binary64

/-- How many binary places the least positive value lies below one. -/
def places : Nat := 1074

/-- The kinds of value: a finite one is `significand * 2 ^ shift` multiples of the least one. -/
inductive Parts
  | nan
  | infinite (negative : Bool)
  | finite (negative : Bool) (significand shift : Nat)

/-- Takes a value apart. The significand of a normal value has exactly 53 bits. -/
def parts (x : Float) : Parts :=
  let bits := x.toBits.toNat
  let negative := bits / Nat.pow 2 63 == 1
  let exponent := bits / Nat.pow 2 52 % Nat.pow 2 11
  let fraction := bits % Nat.pow 2 52
  if exponent = 2047 then
    if fraction = 0 then .infinite negative else .nan
  else if exponent = 0 then .finite negative fraction 0
  else .finite negative (Nat.pow 2 52 + fraction) (exponent - 1)

/-- Whether the value is the zero with a minus sign. -/
def isNegativeZero (x : Float) : Bool :=
  x.toBits == 0x8000000000000000

/-- Whether the value is neither infinite nor undefined. -/
def isFinite (x : Float) : Bool :=
  match parts x with
  | .finite .. => true
  | _ => false

/-- The multiple of the least positive value nearest to `num / den`, unbounded above. -/
def nearestUnits (num den : Nat) : Nat :=
  round53 (num * Nat.pow 2 places) den

/-- Whether a multiple of the least positive value is too large for a finite value. -/
def tooLarge (units : Nat) : Bool :=
  Nat.pow 2 (1024 + places) ≤ units

/-- The value of that many least positive values, infinite if there is no finite one. Only the
53 leading bits of the multiple count. -/
def ofUnits (negative : Bool) (units : Nat) : Float :=
  let sign : Nat := if negative then Nat.pow 2 63 else 0
  let magnitude :=
    if tooLarge units then 2047 * Nat.pow 2 52
    else if units < Nat.pow 2 52 then units
    else
      let shift := Nat.log2 units - 52
      shift * Nat.pow 2 52 + units / Nat.pow 2 shift
  Float.ofBits (sign + magnitude).toUInt64

/-- The value nearest to `num / den`, or to its negative. -/
def nearest (negative : Bool) (num den : Nat) : Float :=
  ofUnits negative (nearestUnits num den)

/-- The value nearest to `digits * 10 ^ -decimals`. -/
def ofDecimal (digits : Int) (decimals : Nat) : Float :=
  nearest (digits < 0) digits.natAbs (Nat.pow 10 decimals)

end Rollup.Number.Binary64
