import Rollup.Store.Database
import Rollup.Store.Memory

/-!
The stores that rows are read from: one that keeps every written point as it is, and one in a
database. Both answer the same questions.
-/
namespace Rollup

/-- A store. -/
inductive Store
  | memory (m : Memory)
  | database (db : Database)

namespace Store

/-- The answer to a question, and the store after it. -/
def answer (store : Store) (question : Read) : Except Failure question.Answer × Store :=
  match store with
  | memory m =>
    let (answer, m) := m.answer question
    (answer, memory m)
  | database db =>
    let (answer, db) := db.answer question
    (answer, database db)

/-- Writes points for a server of a source. -/
def write (store : Store) (source server : String) (points : List Point) :
    Except Failure Unit × Store :=
  match store with
  | memory m => (.ok (), memory (m.write source server points))
  | database db =>
    let (answer, db) := db.write source server points
    (answer, database db)

/-- Closes a store in a database; the other kind has nothing to close. -/
def close : Store → Store
  | memory m => memory m
  | database db => database db.close

/-- A new store over the same place. -/
def reopen : Store → Store
  | memory _ => memory .empty
  | database db => database db.reopen

end Store
end Rollup
