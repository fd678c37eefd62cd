import Rollup.Entries
import Rollup.Tier
import Rollup.Time.Literal
import Rollup.Text.Quoted

/-!
Values of mixed kind: what results are made of before they are encoded, and what a caller may hand
in where a tier is expected. `Value.plain` turns a value into plain data: texts, numbers, lists and
mappings from texts.
-/
namespace Rollup

/-- A value of any kind that a result may hold. -/
inductive Value
  | null
  | bool (value : Bool)
  | int (value : Int)
  | float (value : Float)
  | text (value : String)
  | tier (value : Tier)
  | time (value : Timestamp)
  | span (micros : Int)
  | list (items : List Value)
  | tuple (items : List Value)
  | mapping (entries : List (Value × Value))
  | record (fields : List (String × Value))

namespace Value

/-- The parts one after another, with the separator between them. -/
def joined (separator : String) (parts : List String) : String :=
  String.intercalate separator parts

mutual

/-- The text that messages show for a value: texts between quotes, everything else as it would be
written down. -/
def literal : Value → String
  | .null => "None"
  | .bool value => if value then "True" else "False"
  | .int value => toString value
  | .float value => Number.Style.plain.render value
  | .text value => Text.quoted value
  | .tier value => "<Granularity." ++ value.name ++ ": '" ++ value.label ++ "'>"
  | .time value => value.literal
  | .span micros => spanLiteral micros
  | .list items => "[" ++ joined ", " (literals items) ++ "]"
  | .tuple items =>
    "(" ++ joined ", " (literals items) ++ (if items.length = 1 then "," else "") ++ ")"
  | .mapping entries => "\x7b" ++ joined ", " (entryLiterals entries) ++ "\x7d"
  | .record fields => "\x7b" ++ joined ", " (fieldLiterals fields) ++ "\x7d"

/-- The literals of a row of values. -/
def literals : List Value → List String
  | [] => []
  | item :: rest => literal item :: literals rest

/-- The literals of a mapping's entries. -/
def entryLiterals : List (Value × Value) → List String
  | [] => []
  | (key, value) :: rest => (literal key ++ ": " ++ literal value) :: entryLiterals rest

/-- The literals of a record's fields. -/
def fieldLiterals : List (String × Value) → List String
  | [] => []
  | (name, value) :: rest => (Text.quoted name ++ ": " ++ literal value) :: fieldLiterals rest

end

/-- The text of a value by itself: a text as it is, a tier by its name, times and spans as they are
read, all else as a literal. -/
def display : Value → String
  | .text value => value
  | .time value => value.display
  | .span micros => spanText micros
  | .tier value => "Granularity." ++ value.name
  | value => value.literal

/-- What an error says that was given these words: nothing, the one value, or all as a tuple. -/
def statement : List Value → String
  | [] => ""
  | [value] => value.display
  | values => literal (.tuple values)

/-- A finite number as a fraction of a numerator and a power of two. -/
def fraction? : Value → Option (Int × Nat)
  | .bool value => some (if value then 1 else 0, 0)
  | .int value => some (value, 0)
  | .float value =>
    match Number.Binary64.parts value with
    | .finite negative significand shift =>
      let size : Nat := significand * Nat.pow 2 shift
      some (if negative then -size else size, Number.Binary64.places)
    | _ => none
  | _ => none

/-- Whether two fractions over powers of two are equal. -/
def sameFraction (a b : Int × Nat) : Bool :=
  a.1 * Nat.pow 2 b.2 == b.1 * Nat.pow 2 a.2

mutual

/-- Whether two values are one key of a mapping: numbers by value, whatever their kind, a tier and
its label alike, timestamps as points in time, tuples item by item. A number that is undefined is
never the same key. -/
def sameKey : Value → Value → Bool
  | .null, .null => true
  | .text a, .text b => a == b
  | .tier a, .tier b => a == b
  | .text a, .tier b => a == b.label
  | .tier a, .text b => a.label == b
  | .time a, .time b => a.isSame b
  | .span a, .span b => a == b
  | .tuple a, .tuple b => sameKeys a b
  | .float a, .float b => a == b
  | a, b =>
    match fraction? a, fraction? b with
    | some a, some b => sameFraction a b
    | _, _ => false

/-- Whether two rows of values are the same keys one by one. -/
def sameKeys : List Value → List Value → Bool
  | [], [] => true
  | a :: rest, b :: others => sameKey a b && sameKeys rest others
  | _, _ => false

end

/-- The mapping of the entries in order. -/
def ofEntries (entries : List (Value × Value)) : Value :=
  .mapping (Entries.ofList sameKey entries)

mutual

/-- A value as plain data. Timestamps become their text, tiers their label, tuples lists, records
mappings from their field names, and every key of a mapping the text of its plain form. Keys that
become equal are one entry. A span of time has no plain form and stays. An integer that is a key is
taken to have no more digits than may be told. -/
def plain : Value → Value
  | .tier value => .text value.label
  | .time value => .text value.toText
  | .list items => .list (plainItems items)
  | .tuple items => .list (plainItems items)
  | .mapping entries => ofEntries (plainEntries entries)
  | .record fields => .mapping (plainFields fields)
  | value => value

/-- A row of values as plain data. -/
def plainItems : List Value → List Value
  | [] => []
  | item :: rest => plain item :: plainItems rest

/-- A mapping's entries as plain data. -/
def plainEntries : List (Value × Value) → List (Value × Value)
  | [] => []
  | (key, value) :: rest => (.text (plain key).display, plain value) :: plainEntries rest

/-- A record's fields as plain data. -/
def plainFields : List (String × Value) → List (Value × Value)
  | [] => []
  | (name, value) :: rest => (.text name, plain value) :: plainFields rest

end

end Value
end Rollup
