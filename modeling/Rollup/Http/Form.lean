import Rollup.Entries
import Rollup.Text.Pieces
import Rollup.Text.Utf8

/-!
The parameters of a request. They stand between `&`, each with its value behind the first `=`; a `+`
is a space, and bytes may be written as `%` and two hexadecimal digits. What a row of such bytes and
ASCII characters spells in UTF-8 is the text; damaged sequences become replacement characters.
-/
namespace Rollup.Http

/-- The value of a hexadecimal digit. -/
def hexDigit? (c : Char) : Option Nat :=
  if '0' ≤ c ∧ c ≤ '9' then some (c.toNat - '0'.toNat)
  else if 'a' ≤ c ∧ c ≤ 'f' then some (c.toNat - 'a'.toNat + 10)
  else if 'A' ≤ c ∧ c ≤ 'F' then some (c.toNat - 'A'.toNat + 10)
  else none

/-- The byte that two hexadecimal digits write. -/
def hexByte? (high low : Char) : Option Nat := do
  return 16 * (← hexDigit? high) + (← hexDigit? low)

/-- Resolves the escapes of a text. `row` holds the bytes of the row being read, the last one first;
a character outside ASCII ends a row. A `%` without two digits stands for itself. -/
def unescapeFrom (row : List Nat) : List Char → List Char
  | [] => Text.decodeFrom none row.reverse
  | '%' :: high :: low :: rest =>
    match hexByte? high low with
    | some byte => unescapeFrom (byte :: row) rest
    | none => unescapeFrom ('%'.toNat :: row) (high :: low :: rest)
  | c :: rest =>
    if c.toNat < 0x80 then unescapeFrom (c.toNat :: row) rest
    else Text.decodeFrom none row.reverse ++ c :: unescapeFrom [] rest

/-- The text that a name or a value writes. -/
def unescape (cs : List Char) : String :=
  String.ofList (unescapeFrom [] (cs.map fun c => if c = '+' then ' ' else c))

/-- The characters of a query as they arrive: each byte of it is one character. -/
def arriving (query : String) : List Char := (Text.bytes query).map Char.ofNat

/-- The name and the value of a piece. Without an equals sign the value is empty. -/
def parameter (piece : List Char) : String × String :=
  let name := piece.takeWhile (· != '=')
  (unescape name, unescape (piece.drop (name.length + 1)))

/-- The parameters of a query in order. Empty pieces are none. -/
def parameters (query : String) : List (String × String) :=
  ((Text.pieces '&' (arriving query)).filter fun piece => !piece.isEmpty).map parameter

/-- The value of a parameter. Of several the last one counts. -/
def parameter? (name : String) (given : List (String × String)) : Option String :=
  Entries.find? (· == ·) name given.reverse

end Rollup.Http
