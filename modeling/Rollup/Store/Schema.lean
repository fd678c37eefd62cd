import Rollup.Failure
import Rollup.Text.Letter

/-!
Which collections of sources have a schema. A source becomes a table of its name and an index named
after it, one source after another by name. Names are alike in any case of their ASCII letters. A few
are words of the query language or reserved, and the table of one cannot be read back once it is
made. Every name is taken to have the shape of an identifier, as the sources of a policy have:
letters, digits and underscores, no digit first, and perhaps a line feed at the end.
-/
namespace Rollup.Schema

/-- The name under which a table is found. -/
def fold (name : String) : String := String.ofList (name.toList.map Char.toLower)

/-- The words that no table can have as its name. -/
def reservedWords : List String := [
  "add", "all", "alter", "and", "as", "autoincrement", "between", "case", "check", "collate",
  "commit", "constraint", "create", "default", "deferrable", "delete", "distinct", "drop", "else",
  "escape", "except", "exists", "foreign", "from", "group", "having", "in", "index", "insert",
  "intersect", "into", "is", "isnull", "join", "limit", "not", "nothing", "notnull", "null", "on",
  "or", "order", "primary", "references", "returning", "select", "set", "table", "then", "to",
  "transaction", "union", "unique", "update", "using", "values", "when", "where"]

/-- How the names begin that only the database itself may give. -/
def internalStart : List Char := "sqlite_".toList

/-- The name of a source's index. -/
def indexName (source : String) : String := "idx_" ++ source ++ "_bucket"

/-- The tables and indexes made so far, by folded name. -/
structure Made where
  tables : List String
  indexes : List String

/-- Makes the table and the index of a source, or tells why that fails. The name is assumed, not
asked, to have the shape of an identifier. -/
def make (made : Made) (source : String) : Except StoreFault Made :=
  let name := fold source
  let index := indexName source
  if reservedWords.contains name then .error (.badSchema ("near \"" ++ source ++ "\": syntax error"))
  else if name = "if" then .error (.unreadableSchema source)
  else if internalStart.isPrefixOf name.toList then
    .error (.badSchema ("object name reserved for internal use: " ++ source))
  else if source.toList.getLast? = some '\n' then
    .error (.badSchema "near \"_bucket\": syntax error")
  else if made.indexes.contains name then
    .error (.badSchema ("there is already an index named " ++ source))
  else
    let tables := name :: made.tables
    if tables.contains (fold index) then
      .error (.badSchema ("there is already a table named " ++ index))
    else .ok ⟨tables, fold index :: made.indexes⟩

/-- A name put in its place among others in order, unless it is one of them. -/
def place (name : String) : List String → List String
  | [] => [name]
  | other :: rest =>
    if name = other then other :: rest
    else if name < other then name :: other :: rest
    else other :: place name rest

/-- The sources by name, each once. -/
def ordered (sources : List String) : List String := sources.foldr place []

/-- Why the sources have no schema, if they have none. Their names are taken to be identifiers. -/
def fault? (sources : List String) : Option StoreFault :=
  match (ordered sources).foldlM make ⟨[], []⟩ with
  | .ok _ => none
  | .error fault => some fault

end Rollup.Schema
