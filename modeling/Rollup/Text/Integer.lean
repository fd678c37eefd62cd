import Rollup.Text.Blank
import Rollup.Text.Digit

/-!
Whole numbers as people write them: blanks around, a sign, digits of any script, and single
underscores between digits. They are told in plain decimal digits. A number with too many digits is
neither read nor told.
-/
namespace Rollup.Text

/-- Whether a character may surround a number: a blank other than the four separators among the
controls. -/
def isPadding (c : Char) : Bool :=
  isBlank c && !(0x1c ≤ c.toNat && c.toNat ≤ 0x1f)

/-- The most digits that a number may have. -/
def maxDigits : Nat := 4300

/-- The digits of a number without the underscores between them; none if an underscore does not
stand between two digits, or another character occurs. -/
def groupedDigits? : List Char → Option (List Char)
  | [] => none
  | [c] => if isDigit c then some [c] else none
  | c :: '_' :: rest => if isDigit c then (groupedDigits? rest).map (c :: ·) else none
  | c :: rest => if isDigit c then (groupedDigits? rest).map (c :: ·) else none

/-- The number that unsigned digits write. -/
def natural? (cs : List Char) : Option Nat :=
  match groupedDigits? cs with
  | some digits => if digits.length ≤ maxDigits then some (numeral digits) else none
  | none => none

/-- The whole number that a text writes. -/
def integer? (text : String) : Option Int :=
  let cs := (text.toList.dropWhile isPadding).reverse.dropWhile isPadding |>.reverse
  match cs with
  | '-' :: rest => (natural? rest).map fun n => -(n : Int)
  | '+' :: rest => (natural? rest).map fun n => (n : Int)
  | _ => (natural? cs).map fun n => (n : Int)

/-- The text of a whole number. The sign does not count as a digit. -/
def decimal? (n : Int) : Option String :=
  if (Nat.toDigits 10 n.natAbs).length ≤ maxDigits then some (toString n) else none

end Rollup.Text
