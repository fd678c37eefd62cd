import Rollup.Entries
import Rollup.Text.Blank

/-!
Environment files: one `NAME=value` binding a line, with an optional `export` in front, comments
after `#`, and quotes around values that need them. A quoted value may span lines. A line that does
not fit the grammar sets nothing, and reading goes on after it.
-/
namespace Rollup.EnvFile

/-- Every line break as a single line feed. -/
def unifyBreaks : List Char → List Char
  | [] => []
  | '\r' :: '\n' :: rest => '\n' :: unifyBreaks rest
  | '\r' :: rest => '\n' :: unifyBreaks rest
  | c :: rest => c :: unifyBreaks rest

/-- Whether a character is blank and ends no line. -/
def isGap (c : Char) : Bool := Text.isBlank c && c != '\n'

/-- Whether a character may stand in a name without quotes. -/
def isNamePart (c : Char) : Bool := c != '=' && c != '#' && !Text.isBlank c

/-- The text without an `export` and the gap behind it. -/
def dropExport (cs : List Char) : List Char :=
  match cs with
  | 'e' :: 'x' :: 'p' :: 'o' :: 'r' :: 't' :: c :: rest =>
    if isGap c then rest.dropWhile isGap else cs
  | _ => cs

/-- What a step of reading leaves: the value read and the rest of the text, or only the rest if the
step failed. -/
inductive Step (α : Type)
  | done (value : α) (rest : List Char)
  | failed (rest : List Char)

/-- The name at the start of a line. A comment has none. -/
def name (cs : List Char) : Step (Option String) :=
  match cs with
  | '#' :: _ => .done none cs
  | '\'' :: rest =>
    let inner := rest.takeWhile (· != '\'')
    match inner, rest.drop inner.length with
    | _ :: _, _ :: after => .done (some (String.ofList inner)) after
    | _, _ => .failed cs
  | _ =>
    let inner := cs.takeWhile isNamePart
    if inner.isEmpty then .failed cs
    else .done (some (String.ofList inner)) (cs.drop inner.length)

/-- The value up to the closing quote, and the text behind it. A backslash keeps a quote from
closing, unless no later quote closes the value. `inner` holds what was read, last character
first. -/
def untilQuote (quote : Char) (inner : List Char) : List Char → Option (List Char × List Char)
  | [] => none
  | '\\' :: c :: rest =>
    if c = quote then
      match untilQuote quote (c :: '\\' :: inner) rest with
      | some found => some found
      | none => some (('\\' :: inner).reverse, rest)
    else untilQuote quote ('\\' :: inner) (c :: rest)
  | c :: rest =>
    if c = quote then some (inner.reverse, rest) else untilQuote quote (c :: inner) rest

/-- What stands for an escape in single quotes. -/
def singleEscape? (c : Char) : Option Char :=
  if c = '\\' ∨ c = '\'' then some c else none

/-- What stands for an escape in double quotes. -/
def doubleEscape? : Char → Option Char
  | '\\' => some '\\'
  | '\'' => some '\''
  | '"' => some '"'
  | 'a' => some '\x07'
  | 'b' => some '\x08'
  | 'f' => some '\x0c'
  | 'n' => some '\n'
  | 'r' => some '\r'
  | 't' => some '\t'
  | 'v' => some '\x0b'
  | _ => none

/-- A value with its escapes resolved; a backslash in front of any other character stays. -/
def unescape (escape? : Char → Option Char) : List Char → List Char
  | [] => []
  | [c] => [c]
  | '\\' :: c :: rest =>
    match escape? c with
    | some plain => plain :: unescape escape? rest
    | none => '\\' :: unescape escape? (c :: rest)
  | c :: rest => c :: unescape escape? rest

/-- A value without the comment that starts with a blank and a `#`. `gap` holds the blanks just
read, last first. -/
def dropComment (gap : List Char) : List Char → List Char
  | [] => gap.reverse
  | c :: rest =>
    if Text.isBlank c then dropComment (c :: gap) rest
    else if c = '#' ∧ gap ≠ [] then []
    else gap.reverse ++ c :: dropComment [] rest

/-- The value behind an equals sign. -/
def value (cs : List Char) : Step String :=
  let quoted (quote : Char) (escape? : Char → Option Char) (rest : List Char) : Step String :=
    match untilQuote quote [] rest with
    | some (inner, after) => .done (String.ofList (unescape escape? inner)) after
    | none => .failed cs
  match cs with
  | '\'' :: rest => quoted '\'' singleEscape? rest
  | '"' :: rest => quoted '"' doubleEscape? rest
  | _ =>
    let line := cs.takeWhile (· != '\n')
    .done (String.ofList (Text.stripEnd (dropComment [] line))) (cs.drop line.length)

/-- The text from the next line on. -/
def nextLine (cs : List Char) : List Char :=
  (cs.dropWhile (· != '\n')).drop 1

/-- Whether nothing but blanks and a comment stands before the next line. -/
def lineEnds (cs : List Char) : Bool :=
  match cs.dropWhile isGap with
  | [] => true
  | c :: _ => c == '\n' || c == '#'

/-- A binding: the name, and the value if an equals sign follows the name. -/
abbrev Binding := String × Option String

/-- The binding at the start of the text, and the text behind its line. -/
def binding (cs : List Char) : Option Binding × List Char :=
  match name (dropExport cs) with
  | .failed rest => (none, nextLine rest)
  | .done found rest =>
    let afterName := rest.dropWhile isGap
    let bound : Step (Option String) :=
      match afterName with
      | '=' :: more =>
        match value (more.dropWhile isGap) with
        | .done text after => .done (some text) after
        | .failed after => .failed after
      | _ => .done none afterName
    match bound with
    | .failed after => (none, nextLine after)
    | .done text after =>
      let entry := if lineEnds after then found.map fun name => (name, text) else none
      (entry, nextLine after)

/-- The bindings of a text whose lines end in line feeds, reading at most `fuel` lines. -/
def bindingsWithin : (fuel : Nat) → List Char → List Binding
  | 0, _ => []
  | fuel + 1, cs =>
    let start := cs.dropWhile Text.isBlank
    if start.isEmpty then []
    else
      let (entry, rest) := binding start
      entry.toList ++ bindingsWithin fuel rest

/-- The bindings of a file, in order. Every binding takes at least one character. -/
def bindings (content : String) : List Binding :=
  let cs := unifyBreaks content.toList
  bindingsWithin cs.length cs

/-- What the file sets: the last binding of each name, where that has a value. -/
def assignments (content : String) : List (String × String) :=
  (Entries.ofList (· == ·) (bindings content)).filterMap fun entry =>
    entry.2.map fun text => (entry.1, text)

end Rollup.EnvFile
