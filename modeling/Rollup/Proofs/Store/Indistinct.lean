import Mathlib
import Rollup.Proofs.Store.Database

/-!
Databases that cannot be told apart. Two that show the same answer every question alike, and go on
to do so whatever is done with both of them.
-/
namespace Rollup.Database

/-- The databases show the same. -/
structure Alike (db db' : Database) : Prop where
  location : db.location = db'.location
  sources : db.sources = db'.sources
  shown : ∀ source, (db.tables.get source).shown = (db'.tables.get source).shown

/-- No question tells the databases apart, whatever is done with both of them before it. -/
def Indistinct (db db' : Database) : Prop :=
  ∀ uses question, ((db.after uses).answer question).1 = ((db'.after uses).answer question).1

variable {db db' : Database} {source server : String} {points : List Point}

namespace Alike

theorem obstacle_eq (h : Alike db db') : db.obstacle = db'.obstacle :=
  obstacle_congr h.location h.sources

theorem refusal_eq (h : Alike db db') (source : String) : db.refusal source = db'.refusal source :=
  refusal_congr h.location h.sources source

theorem of_tables_eq (hLocation : db.location = db'.location) (hSources : db.sources = db'.sources)
    (hTables : db.tables = db'.tables) : Alike db db' :=
  ⟨hLocation, hSources, fun _ => by rw [hTables]⟩

theorem refl (db : Database) : Alike db db := of_tables_eq rfl rfl rfl

theorem symm (h : Alike db db') : Alike db' db :=
  ⟨h.location.symm, h.sources.symm, fun source => (h.shown source).symm⟩

theorem trans {db'' : Database} (h : Alike db db') (h' : Alike db' db'') : Alike db db'' :=
  ⟨h.location.trans h'.location, h.sources.trans h'.sources,
    fun source => (h.shown source).trans (h'.shown source)⟩

theorem awake (h : db.Sound) : Alike db.awake db :=
  of_tables_eq (awake_location db) (awake_sources db) h.tables_awake

theorem answer (h : db.Sound) (question : Read) : Alike (db.answer question).2 db := by
  rcases h.answer_state question with hSame | ⟨-, hAwake⟩
  · rw [hSame]
    exact refl db
  · rw [hAwake]
    exact awake h

theorem serve_eq {α β : Type} (h : Alike db db') (hDb : db.Sound) (hDb' : db'.Sound)
    (source : String) (needed : Except Failure β) {query : β → Table → Except Failure α}
    (hQuery : ∀ terms {table table' : Table}, table.shown = table'.shown →
      query terms table = query terms table') :
    (db.serve source needed query).1 = (db'.serve source needed query).1 :=
  hDb.serve_congr hDb' h.location h.sources needed fun terms => hQuery terms (h.shown source)

/-- Databases that show the same give the same answers. -/
theorem answer_eq (h : Alike db db') (hDb : db.Sound) (hDb' : db'.Sound) (question : Read) :
    (db.answer question).1 = (db'.answer question).1 := by
  cases question with
  | range source server window limit =>
      apply h.serve_eq hDb hDb'
      rintro ⟨first, last⟩ table table' hShown
      have hBetween := Table.between_congr hShown server first last
      exact congrArg (bindable limit >>= fun _ => ·)
        (Table.points_congr (Table.bounded_congr hBetween limit))
  | count source server window =>
      apply h.serve_eq hDb hDb'
      rintro ⟨first, last⟩ table table' hShown
      have hLength := congrArg List.length (Table.between_congr hShown server first last)
      rw [List.length_map, List.length_map] at hLength
      simp only [hLength]
  | latest source server =>
      apply h.serve_eq hDb hDb'
      intro _ table table' hShown
      rw [Table.recent_congr hShown]
  | recent source server limit =>
      apply h.serve_eq hDb hDb'
      intro _ table table' hShown
      rw [Table.recent_congr hShown]
  | stats source =>
      apply h.serve_eq hDb hDb'
      intro _ table table' hShown
      rw [Table.stats_congr hShown]

theorem set (h : Alike db db') (source : String) {table table' : Table}
    (hTable : table.shown = table'.shown) (other : String) :
    ((db.tables.set source table).get other).shown =
      ((db'.tables.set source table').get other).shown := by
  by_cases hFold : Schema.fold other = Schema.fold source
  · rw [Tables.get_set_of_eq hFold, Tables.get_set_of_eq hFold]
    exact hTable
  · rw [Tables.get_set_of_ne hFold, Tables.get_set_of_ne hFold]
    exact h.shown other

theorem keep (h : Alike db db') (hFree : db.obstacle = none) {held held' : Tables}
    (hHeld : ∀ source, (held.get source).shown = (held'.get source).shown) :
    Alike (db.keep held) (db'.keep held') where
  location := by
    rw [keep_location, keep_location]
    exact h.location
  sources := by
    rw [keep_sources, keep_sources]
    exact h.sources
  shown := by
    rw [tables_keep (location_ne_unreachable hFree),
      tables_keep (location_ne_unreachable (h.obstacle_eq ▸ hFree))]
    exact hHeld

theorem write (h : Alike db db') (hDb : db.Sound) (hDb' : db'.Sound) (source server : String)
    (points : List Point) :
    Alike (db.write source server points).2 (db'.write source server points).2 := by
  rw [hDb.write_eq, hDb'.write_eq, ← h.refusal_eq source, ← h.location]
  cases hRefusal : db.refusal source with
  | some failure => exact h
  | none =>
      have hAwake : Alike db.awake db'.awake :=
        (Alike.awake hDb).trans (h.trans (Alike.awake hDb').symm)
      have hFree : db.awake.obstacle = none :=
        (Alike.awake hDb).obstacle_eq.trans (refusal_eq_none hRefusal).2
      cases points.mapM Row.ofPoint with
      | error failure => exact hAwake
      | ok rows =>
          have hLeft := hAwake.keep hFree
            (h.set source (Table.putAll_congr (h.shown source) server (rows.takeWhile Row.fits)))
          dsimp only
          split
          · exact hLeft
          split
          · exact hLeft
          · exact hAwake

/-- The same use of databases that show the same leaves such databases. -/
theorem leaves (h : Alike db db') (hDb : db.Sound) (hDb' : db'.Sound) (use : Use) :
    Alike (use.leaves db) (use.leaves db') := by
  cases use with
  | write batch => exact h.write hDb hDb' batch.source batch.server batch.points
  | read question =>
      exact (Alike.answer hDb question).trans (h.trans (Alike.answer hDb' question).symm)
  | close =>
      refine ⟨?_, ?_, fun source => ?_⟩
      · exact (close_location db).trans (h.location.trans (close_location db').symm)
      · exact (close_sources db).trans (h.sources.trans (close_sources db').symm)
      · rw [Use.leaves, Use.leaves, tables_close, tables_close, ← h.location]
        split
        · rfl
        · exact h.shown source
  | reopen =>
      refine ⟨h.location, h.sources, fun source => ?_⟩
      rw [Use.leaves, Use.leaves, tables_reopen, tables_reopen, ← h.location]
      split
      · rfl
      · exact h.shown source

theorem after (h : Alike db db') (hDb : db.Sound) (hDb' : db'.Sound) (uses : List Use) :
    Alike (db.after uses) (db'.after uses) := by
  induction uses generalizing db db' with
  | nil => exact h
  | cons use uses ih => exact ih (h.leaves hDb hDb' use) (hDb.leaves use) (hDb'.leaves use)

theorem indistinct (h : Alike db db') (hDb : db.Sound) (hDb' : db'.Sound) : Indistinct db db' := by
  intro uses question
  exact (h.after hDb hDb' uses).answer_eq (hDb.after uses) (hDb'.after uses) question

end Alike

end Rollup.Database
