import Rollup.Failure
import Rollup.Text.Integer

/-!
JSON text of values. The spaced layout is for files and logs: a space after each separator, ASCII
only. The compact layout is for responses: no space, every character that needs no escape as itself,
and no text at all for a number that is infinite or undefined. Neither layout has a text for an
integer with too many digits.
-/
namespace Rollup.Json

/-- How JSON text is laid out. Infinite and undefined numbers have words in some layouts only. -/
structure Layout where
  separator : String
  colon : String
  asciiOnly : Bool
  words : Option Number.Style

/-- The layout with spaces, in ASCII. -/
def Layout.spaced : Layout := ⟨", ", ": ", true, some .data⟩

/-- The layout without spaces. -/
def Layout.compact : Layout := ⟨",", ":", false, none⟩

/-- The escape of one unit of sixteen bits. -/
def unitEscape (n : Nat) : List Char :=
  '\\' :: 'u' :: Text.hex 4 n

/-- A character outside ASCII as an escape, above 16 bits as a pair of surrogates. -/
def wideEscape (n : Nat) : List Char :=
  if n < 0x10000 then unitEscape n
  else
    unitEscape (0xd800 + (n - 0x10000) / 0x400) ++ unitEscape (0xdc00 + (n - 0x10000) % 0x400)

/-- One character inside a JSON text. -/
def escape (layout : Layout) (c : Char) : List Char :=
  let n := c.toNat
  if c = '"' ∨ c = '\\' then ['\\', c]
  else if c = '\n' then ['\\', 'n']
  else if c = '\r' then ['\\', 'r']
  else if c = '\t' then ['\\', 't']
  else if n = 8 then ['\\', 'b']
  else if n = 12 then ['\\', 'f']
  else if n < 0x20 then unitEscape n
  else if layout.asciiOnly ∧ 0x7e < n then wideEscape n
  else [c]

/-- A text between double quotes. -/
def quote (layout : Layout) (text : String) : String :=
  "\"" ++ String.ofList (text.toList.flatMap (escape layout)) ++ "\""

/-- A number, if the layout has a text for it. -/
def number (layout : Layout) (x : Float) : Except Failure String :=
  match layout.words with
  | some words => .ok (words.render x)
  | none =>
    if Number.Binary64.isFinite x then .ok (Number.Style.data.render x)
    else .error (.encoding .infiniteNumber)

/-- The failure to turn an integer with too many digits into text. -/
def tooManyDigits : Failure :=
  .foreign "ValueError"
    ("Exceeds the limit (" ++ toString Text.maxDigits ++ " digits) for integer string conversion; "
      ++ "use sys.set_int_max_str_digits() to increase the limit")

/-- An integer, if it has a text. -/
def integer (n : Int) : Except Failure String :=
  match Text.decimal? n with
  | some text => .ok text
  | none => .error tooManyDigits

mutual

/-- The JSON text of a value. -/
def print (layout : Layout) : Value → Except Failure String
  | .null => .ok "null"
  | .bool value => .ok (if value then "true" else "false")
  | .int value => integer value
  | .float value => number layout value
  | .text value => .ok (quote layout value)
  | .tier value => .ok (quote layout value.label)
  | .time value => .ok (quote layout value.toText)
  | .span _ => .error (.encoding .span)
  | .list items | .tuple items => do
    let texts ← printItems layout items
    .ok ("[" ++ Value.joined layout.separator texts ++ "]")
  | .mapping entries => do
    let texts ← printEntries layout entries
    .ok ("\x7b" ++ Value.joined layout.separator texts ++ "\x7d")
  | .record fields => do
    let texts ← printFields layout fields
    .ok ("\x7b" ++ Value.joined layout.separator texts ++ "\x7d")

/-- The JSON texts of a row of values. -/
def printItems (layout : Layout) : List Value → Except Failure (List String)
  | [] => .ok []
  | item :: rest => do
    let text ← print layout item
    let texts ← printItems layout rest
    .ok (text :: texts)

/-- The members of a JSON object, from the entries of a mapping. -/
def printEntries (layout : Layout) : List (Value × Value) → Except Failure (List String)
  | [] => .ok []
  | (key, value) :: rest => do
    let text ← print layout value
    let texts ← printEntries layout rest
    .ok ((quote layout key.display ++ layout.colon ++ text) :: texts)

/-- The members of a JSON object, from the fields of a record. -/
def printFields (layout : Layout) : List (String × Value) → Except Failure (List String)
  | [] => .ok []
  | (name, value) :: rest => do
    let text ← print layout value
    let texts ← printFields layout rest
    .ok ((quote layout name ++ layout.colon ++ text) :: texts)

end

/-- The spaced JSON text of a value's plain form. -/
def encode (value : Value) : Except Failure String :=
  print .spaced value.plain

/-- The compact JSON text of a value's plain form. -/
def encodeCompact (value : Value) : Except Failure String :=
  print .compact value.plain

end Rollup.Json
