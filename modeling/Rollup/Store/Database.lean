import Rollup.Program
import Rollup.Store.Schema
import Rollup.Store.Table

/-!
A store in a relational database. The tables of its sources are made at first use. A database in a
file keeps what is written; one in memory lives as long as its connection, and the next call after
closing finds it empty. A batch of writes that fails leaves a file as it was, but the rows in front
of the failing one stay in an open connection.
-/
namespace Rollup

/-- Where a database is kept. -/
inductive Location
  | memory
  | file
  | unreachable
deriving DecidableEq, Repr

/-- The tables by folded name. -/
abbrev Tables := List (String × Table)

namespace Tables

/-- The table of a source, without rows unless something was written. -/
def get (tables : Tables) (source : String) : Table :=
  (Entries.find? (· == ·) (Schema.fold source) tables).getD []

/-- The tables with another one for a source. -/
def set (tables : Tables) (source : String) (table : Table) : Tables :=
  Entries.put (· == ·) (Schema.fold source) table tables

end Tables

/-- A database: `ready` tells that the tables of its sources were made, `connection` holds the
tables of an open connection to memory, and `file` those in the file. -/
structure Database where
  location : Location
  sources : List String
  ready : Bool
  connection : Option Tables
  file : Tables

namespace Database

/-- A database that was not used before. -/
def new (location : Location) (sources : List String) : Database :=
  ⟨location, sources, false, none, []⟩

/-- Checks that a source is one of the database. -/
def known (db : Database) (source : String) : Except Failure Unit :=
  if db.sources.contains source then .ok () else .error (.store (.unknownSource source))

/-- Makes the tables at the first use. -/
def prepare (db : Database) : Except Failure Database :=
  if db.ready then .ok db
  else
    match db.location, Schema.fault? db.sources with
    | .unreachable, _ => .error (.store .cannotOpen)
    | _, some fault => .error (.store fault)
    | .memory, none => .ok { db with ready := true, connection := some [] }
    | .file, none => .ok { db with ready := true }

/-- The tables that a new connection sees. -/
def visible (db : Database) : Except Failure Tables :=
  match db.location with
  | .memory =>
    match db.connection with
    | some tables => .ok tables
    | none => .error (.store .notConnected)
  | .file => .ok db.file
  | .unreachable => .error (.store .cannotOpen)

/-- Makes the tables if need be and opens a connection. -/
def opened (db : Database) : Except Failure (Tables × Database) := do
  let db ← db.prepare
  return (← db.visible, db)

/-- The database with other tables in the place where it is kept. -/
def keep (db : Database) (tables : Tables) : Database :=
  match db.location with
  | .memory => { db with connection := some tables }
  | .file => { db with file := tables }
  | .unreachable => db

/-- The first integer too large for the database, whose integers have 64 bits. -/
def integerLimit : Nat := Nat.pow 2 63

/-- Whether an integer fits the database's integers. -/
def fits (n : Int) : Bool := decide (-(integerLimit : Int) ≤ n ∧ n < integerLimit)

/-- Checks that an integer fits. -/
def bindable (n : Int) : Except Failure Unit :=
  if fits n then .ok () else .error (.arithmetic .notStorable)

/-- Writes rows one after another, up to the first that does not fit. Leaves the table and tells
whether all rows fit. -/
def insertRows (server : String) : List Row → Table → Bool × Table
  | [], table => (true, table)
  | row :: rest, table =>
    if fits row.readings.samples then insertRows server rest (table.put server row)
    else (false, table)

/-- Writes points for a server of a source. -/
def write (db : Database) (source server : String) (points : List Point) :
    Except Failure Unit × Database :=
  match db.known source >>= fun _ => db.opened with
  | .error failure => (.error failure, db)
  | .ok (tables, db) =>
    match points.mapM Row.ofPoint with
    | .error failure => (.error failure, db)
    | .ok rows =>
      match insertRows server rows (tables.get source) with
      | (true, table) => (.ok (), db.keep (tables.set source table))
      | (false, table) =>
        let left := if db.location = .memory then db.keep (tables.set source table) else db
        (.error (.arithmetic .notStorable), left)

/-- So many elements from the start; all of them for a negative number. -/
def bounded {α : Type} (limit : Int) (xs : List α) : List α :=
  if 0 ≤ limit then xs.take limit.toNat else xs

/-- The most recent points of a server, the oldest first. -/
def recent (table : Table) (server : String) (limit : Int) : Except Failure (List Point) := do
  bindable limit
  let newestFirst ← Table.points (bounded limit (table.rows server))
  return newestFirst.reverse

/-- The stored forms of the ends of a window. -/
def ends (window : Window) : Except Failure (Bucket × Bucket) := do
  return (← Bucket.ofTime window.start, ← Bucket.ofTime window.stop)

/-- Reads from the table of a source. What the question needs is worked out before a connection is
opened. -/
def serve {α β : Type} (db : Database) (source : String) (needed : Except Failure β)
    (query : β → Table → Except Failure α) : Except Failure α × Database :=
  match db.known source >>= fun _ => needed with
  | .error failure => (.error failure, db)
  | .ok terms =>
    match db.opened with
    | .error failure => (.error failure, db)
    | .ok (tables, db) => (query terms (tables.get source), db)

/-- The answer to a question. -/
def answer (db : Database) : (question : Read) → Except Failure question.Answer × Database
  | .range source server window limit =>
    db.serve source (ends window) fun (first, last) table => do
      bindable limit
      Table.points (bounded limit (table.between server first last))
  | .count source server window =>
    db.serve source (ends window) fun (first, last) table =>
      .ok (table.between server first last).length
  | .latest source server =>
    db.serve source (.ok ()) fun _ table => do return (← recent table server 1).head?
  | .recent source server limit =>
    db.serve source (.ok ()) fun _ table => recent table server limit
  | .stats source =>
    db.serve source (.ok ()) fun _ table => table.stats

/-- Closes an open connection to memory, and with it what it holds. -/
def close (db : Database) : Database :=
  if db.connection.isSome then { db with connection := none, ready := false } else db

/-- Another database over the same place: a file keeps its rows. -/
def reopen (db : Database) : Database := { new db.location db.sources with file := db.file }

end Database
end Rollup
