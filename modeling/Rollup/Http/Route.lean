import Rollup.Text.Pieces
import Rollup.Text.Utf8

/-!
The paths that lead somewhere: the pages of one server and the summary over all of them. A path may
end in one line feed. The address of another page is given with its unusual characters escaped.
-/
namespace Rollup.Http

/-- The pages of a server. -/
inductive Page
  | metrics
  | realtime
  | historical
  | dashboard
  | comparison
  | heatmap
deriving DecidableEq, Repr

/-- Where a path leads. -/
inductive Route
  | server (id : String) (page : Page)
  | summary
deriving DecidableEq, Repr

/-- The pages behind a server's metrics, by the last word of their path. -/
def pageWords : List (List Char × Page) := [
  ("realtime".toList, .realtime), ("historical".toList, .historical),
  ("dashboard".toList, .dashboard), ("comparison".toList, .comparison),
  ("heatmap".toList, .heatmap)]

/-- The route of a server's page. A server has a name. -/
def Route.ofServer? (id : List Char) (page : Option Page) : Option Route :=
  if id.isEmpty then none else page.map (.server (String.ofList id))

/-- The path without a line feed at its end. -/
def dropLineFeed (path : List Char) : List Char :=
  if path.getLast? = some '\n' then path.dropLast else path

/-- The route of a path, if it leads somewhere. -/
def Route.ofPath? (path : List Char) : Option Route :=
  match Text.pieces '/' (dropLineFeed path) with
  | [[], first, second] =>
    if first = "metrics".toList ∧ second = "summary".toList then some .summary else none
  | [[], first, id, second] =>
    if first = "servers".toList ∧ second = "metrics".toList then ofServer? id (some .metrics)
    else none
  | [[], first, id, second, word] =>
    if first = "servers".toList ∧ second = "metrics".toList then ofServer? id (pageWords.lookup word)
    else none
  | _ => none

/-- The path without slashes at its end, if it has any and is more than one slash. -/
def unslashed? (path : List Char) : Option (List Char) :=
  if path.getLast? = some '/' ∧ path ≠ ['/'] then some (path.reverse.dropWhile (· == '/')).reverse
  else none

/-- Whether a character of an address stands for itself. -/
def isPlain (c : Char) : Bool := c.isAlphanum || "_.-~:/%#?=@[]!$&'()*+,;".toList.contains c

/-- A byte as an escape. -/
def byteEscape (byte : Nat) : List Char :=
  ['%', Char.toUpper (Nat.digitChar (byte / 16)), Char.toUpper (Nat.digitChar (byte % 16))]

/-- The characters of an address with escapes where they are needed. -/
def escapeAddress (cs : List Char) : List Char :=
  cs.flatMap fun c => if isPlain c then [c] else (Text.charBytes c).flatMap byteEscape

/-- The full address of a path on a host, with a query, which may be empty. -/
def address (host : String) (path : List Char) (query : String) : String :=
  let whole := path ++ if query = "" then [] else '?' :: query.toList
  "http://" ++ host ++ String.ofList (escapeAddress whole)

end Rollup.Http
