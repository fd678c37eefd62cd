import Mathlib
import Rollup.Proofs.Store.Isolation

/-!
What every read sees of a table follows from the rows of each server. Tables with the same rows hold
the same entries, if perhaps in another order, so databases with the same rows cannot be told apart.
-/
namespace Rollup

namespace Table

variable {table table' : Table} {buckets buckets' : List Bucket}

theorem Sound.perm_of_rows_eq (h : table.Sound) (h' : table'.Sound)
    (hRows : ∀ server, table.rows server = table'.rows server) : table.Perm table' := by
  rw [List.perm_ext_iff_of_nodup h.nodup.of_map h'.nodup.of_map]
  rintro ⟨server, rows⟩
  rw [h.mem_iff, h'.mem_iff, hRows]

theorem min?_of_perm (h : buckets.Perm buckets') : buckets.min? = buckets'.min? := by
  apply Option.ext
  intro bucket
  simp only [List.min?_eq_some_iff, h.mem_iff]

theorem max?_of_perm (h : buckets.Perm buckets') : buckets.max? = buckets'.max? := by
  apply Option.ext
  intro bucket
  simp only [List.max?_eq_some_iff, h.mem_iff]

theorem between_eq (table : Table) (server : String) (first last : Bucket) :
    table.between server first last =
      (table.rows server).reverse.filter fun row => first ≤ row.bucket ∧ row.bucket ≤ last := by
  rw [between, List.filter_reverse]

/-- What a table with some servers and buckets holds. -/
def figures (servers : List String) (buckets : List Bucket) : Except Failure TierStats := do
  let earliest ← buckets.min?.mapM Bucket.toTime
  let latest ← buckets.max?.mapM Bucket.toTime
  return ⟨buckets.length, servers.length, earliest, latest, none⟩

theorem time?_eq_mapM (bucket : Option Bucket) : time? bucket = bucket.mapM Bucket.toTime := by
  cases bucket <;> rfl

theorem figures_of_perm (servers : List String) (h : buckets.Perm buckets') :
    figures servers buckets = figures servers buckets' := by
  rw [figures, figures, min?_of_perm h, max?_of_perm h, h.length_eq]

theorem stats_eq_figures (table : Table) :
    table.stats = figures (table.map Prod.fst) table.buckets := by
  rw [stats, figures, List.length_map, time?_eq_mapM, time?_eq_mapM]

/-- Tables with the same rows hold the same. -/
theorem Sound.stats_eq (h : table.Sound) (h' : table'.Sound)
    (hRows : ∀ server, table.rows server = table'.rows server) : table.stats = table'.stats := by
  have hPerm := h.perm_of_rows_eq h' hRows
  have hBuckets : table.buckets.Perm table'.buckets := hPerm.flatMap_right _
  rw [stats_eq_figures, stats_eq_figures, figures_of_perm _ hBuckets, figures, figures,
    List.length_map, List.length_map, hPerm.length_eq]

end Table

/-- What is read of a row. Its time is that of its bucket in universal time, and a point of the row has
that time and the readings of the row. Neither is read if the time lies outside the calendar. -/
structure Row.ReadBack (row : Row) : Prop where
  time : ∀ t, row.bucket.toTime = .ok t ↔ row.bucket.ReadsAs t
  point : ∀ p, row.toPoint = .ok p ↔ row.bucket.ReadsAs p.time ∧ p.readings = row.readings

theorem Row.readBack (row : Row) : row.ReadBack where
  time _ := Bucket.toTime_eq_ok_iff
  point p := by
    rw [← Bucket.toTime_eq_ok_iff, toPoint]
    cases row.bucket.toTime with
    | error failure => simp [bind, Except.bind]
    | ok time =>
        cases p
        simp [bind, Except.bind, pure, Except.pure, eq_comm]

namespace Database

variable {db db' db'' : Database} {source server : String} {rows : String → List Row}

namespace AlikeFor

theorem close (h : AlikeFor server db db') : AlikeFor server db.close db'.close where
  location := by simp [h.location]
  sources := by simp [h.sources]
  rows source := by
    rw [tables_close, tables_close, h.location]
    split
    · rfl
    · exact h.rows source

theorem reopen (h : AlikeFor server db db') : AlikeFor server db.reopen db'.reopen where
  location := h.location
  sources := h.sources
  rows source := by
    rw [tables_reopen, tables_reopen, h.location]
    split
    · rfl
    · exact h.rows source

theorem leaves (h : AlikeFor server db db') (hDb : db.Sound) (hDb' : db'.Sound) (use : Use) :
    AlikeFor server (use.leaves db) (use.leaves db') := by
  cases use with
  | write batch => exact h.write hDb hDb' batch.source batch.server batch.points
  | read question => exact (answer_state hDb question).trans (h.trans (answer_state hDb' question).symm)
  | close => exact h.close
  | reopen => exact h.reopen

end AlikeFor

/-- The databases are in use and hold the same rows for every server. -/
structure SameRows (db db' : Database) : Prop where
  left : db.Sound
  right : db'.Sound
  alike : ∀ server, AlikeFor server db db'

namespace SameRows

theorem leaves (h : SameRows db db') (use : Use) : SameRows (use.leaves db) (use.leaves db') :=
  ⟨h.left.leaves use, h.right.leaves use, fun server => (h.alike server).leaves h.left h.right use⟩

theorem after (h : SameRows db db') (uses : List Use) : SameRows (db.after uses) (db'.after uses) := by
  induction uses generalizing db db' with
  | nil => exact h
  | cons use uses ih => exact ih (h.leaves use)

/-- No question is answered by more than the rows of each server. -/
theorem answer_eq (h : SameRows db db') (question : Read) :
    (db.answer question).1 = (db'.answer question).1 := by
  cases hServer : question.server? with
  | some server => exact (h.alike server).answer_eq h.left h.right hServer
  | none =>
      cases question with
      | stats source =>
          have hStats := (h.left.tables source).stats_eq (h.right.tables source)
            fun server => (h.alike server).rows source
          exact h.left.serve_congr h.right (h.alike "").location (h.alike "").sources _
            fun _ => hStats
      | _ => cases hServer

theorem indistinct (h : SameRows db db') : Indistinct db db' :=
  fun uses question => (h.after uses).answer_eq question

end SameRows

/-- Every read about a source is answered from some rows for each server: those between the stored
ends of a window, or the newest, the oldest of them first, or their number and their ends. Each of
the rows is read as its readings at the time of its bucket. -/
structure Observes (db : Database) (source : String) (rows : String → List Row) : Prop where
  range : ∀ server window (limit : Int),
    (db.answer (.range source server window limit)).1 = do
      let (first, last) ← ends window
      bindable limit
      Table.points (bounded limit ((rows server).filter fun row =>
        first ≤ row.bucket ∧ row.bucket ≤ last))
  count : ∀ server window,
    (db.answer (.count source server window)).1 = do
      let (first, last) ← ends window
      return ((rows server).filter fun row => first ≤ row.bucket ∧ row.bucket ≤ last).length
  latest : ∀ server,
    (db.answer (.latest source server)).1 = (rows server).getLast?.mapM Row.toPoint
  recent : ∀ server (limit : Int),
    (db.answer (.recent source server limit)).1 = do
      bindable limit
      let newestFirst ← Table.points (bounded limit (rows server).reverse)
      return newestFirst.reverse
  stats : ∃ servers : List String, servers.Nodup ∧ (∀ server, server ∈ servers ↔ rows server ≠ []) ∧
    (db.answer (.stats source)).1 =
      Table.figures servers (servers.flatMap fun server => (rows server).map Row.bucket)
  read_back : ∀ server, ∀ row ∈ rows server, row.ReadBack

/-- Nothing but what a read needs keeps it from the table. -/
theorem Sound.result_serve {α β : Type} (h : db.Sound) (hRefusal : db.refusal source = none)
    (needed : Except Failure β) (query : β → Table → Except Failure α) :
    (db.serve source needed query).1 =
      needed >>= fun terms => query terms (db.tables.get source) := by
  cases needed with
  | ok terms =>
      rw [h.serve_of_refusal_eq_none hRefusal rfl]
      rfl
  | error failure =>
      rw [h.serve_eq, known, if_pos (refusal_eq_none hRefusal).1]
      rfl

/-- The most recent row alone is the newest. -/
theorem head?_recent_one (table : Table) (server : String) :
    (do return (← recent table server 1).head?) = (table.rows server).head?.mapM Row.toPoint := by
  have hOne : bindable 1 = .ok () := rfl
  rw [recent, hOne]
  cases table.rows server with
  | nil => rfl
  | cons row rows =>
      rw [bounded, Table.points]
      cases hPoint : row.toPoint <;> simp [hPoint, bind, Except.bind, pure, Except.pure]

/-- A database that nothing keeps from a table is read by the rows of the table. -/
theorem Sound.observes (h : db.Sound) (hRefusal : db.refusal source = none) :
    db.Observes source fun server => ((db.tables.get source).rows server).reverse where
  range server window limit := by
    rw [answer, h.result_serve hRefusal]
    simp only [Table.between_eq]
  count server window := by
    rw [answer, h.result_serve hRefusal]
    simp only [Table.between_eq]
    rfl
  latest server := by
    rw [answer, h.result_serve hRefusal, List.getLast?_reverse, ← head?_recent_one]
    rfl
  recent server limit := by
    rw [answer, h.result_serve hRefusal, List.reverse_reverse]
    rfl
  stats := by
    refine ⟨(db.tables.get source).map Prod.fst, (h.tables source).nodup, ?_, ?_⟩
    · intro server
      rw [ne_eq, List.reverse_eq_nil_iff, ← ne_eq]
      exact (h.tables source).mem_keys_iff
    · have hBuckets : ((db.tables.get source).map Prod.fst).flatMap (fun server =>
          ((db.tables.get source).rows server).reverse.map Row.bucket) |>.Perm
            (db.tables.get source).buckets := by
        rw [(h.tables source).buckets_eq]
        refine List.Perm.flatMap_left _ fun server _ => ?_
        rw [List.map_reverse]
        exact List.reverse_perm _
      rw [answer, h.result_serve hRefusal, Table.figures_of_perm _ hBuckets,
        ← Table.stats_eq_figures]
      rfl
  read_back _ row _ := row.readBack

end Database

end Rollup
