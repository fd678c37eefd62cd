import Rollup.Number.Shortest

/-!
Text of numbers: the shortest text that reads back as a binary64 value, and a fixed number of
decimal places.
-/
namespace Rollup.Number

/-- Decimal digits, padded on the left with zeros to a least width. -/
def padded (width n : Nat) : String :=
  let digits := Nat.repr n
  String.ofList (List.replicate (width - digits.length) '0') ++ digits

/-- The words for the values that have no digits. -/
structure Style where
  nan : String
  infinity : String
deriving DecidableEq, Repr

/-- Lower-case words, for texts meant to be read. -/
def Style.plain : Style := ⟨"nan", "inf"⟩

/-- Words in the spelling of data formats. -/
def Style.data : Style := ⟨"NaN", "Infinity"⟩

/-- The text of a decimal: positional while the leading digit stands for `10 ^ -4` up to `10 ^ 15`,
with at least one place, otherwise with an exponent of a sign and at least two digits. -/
def Shortest.Decimal.render (d : Shortest.Decimal) : String :=
  let digits := (Nat.repr d.digits).toList
  let leading : Int := d.exponent + digits.length - 1
  if -4 ≤ leading ∧ leading < 16 then
    if 0 ≤ d.exponent then
      String.ofList (digits ++ List.replicate d.exponent.toNat '0') ++ ".0"
    else if 0 ≤ leading then
      let whole := (leading + 1).toNat
      String.ofList (digits.take whole) ++ "." ++ String.ofList (digits.drop whole)
    else
      "0." ++ String.ofList (List.replicate (-leading - 1).toNat '0' ++ digits)
  else
    let fraction := digits.drop 1
    let point := if fraction.isEmpty then "" else "."
    let sign := if leading < 0 then "-" else "+"
    String.ofList (digits.take 1) ++ point ++ String.ofList fraction ++ "e" ++ sign ++
      padded 2 leading.natAbs

/-- The shortest text that reads back as the value. -/
def Style.render (style : Style) (x : Float) : String :=
  match Binary64.parts x with
  | .nan => style.nan
  | .infinite negative => (if negative then "-" else "") ++ style.infinity
  | .finite negative significand shift =>
    (if negative then "-" else "") ++
      if significand = 0 then "0.0" else (Shortest.decimal significand shift).render

/-- The exact value rounded to a fixed, positive number of places, a half going to the even digit. -/
def fixed (places : Nat) (x : Float) : String :=
  match Binary64.parts x with
  | .nan => Style.plain.nan
  | .infinite negative => (if negative then "-" else "") ++ Style.plain.infinity
  | .finite negative significand shift =>
    let scaled := (divNearest (significand * Nat.pow 2 shift * Nat.pow 10 places : Nat)
      (Nat.pow 2 Binary64.places)).toNat
    (if negative then "-" else "") ++ Nat.repr (scaled / Nat.pow 10 places) ++ "." ++
      padded places (scaled % Nat.pow 10 places)

end Rollup.Number
