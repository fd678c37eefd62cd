import Mathlib
import Rollup.Proofs.Store.Shown
import Rollup.Proofs.Store.History

/-!
Databases in use. Whatever was done with a database before, it is sound: what a call does depends
only on its place, its sources and the tables that it holds then. A call either is refused at once,
or it wakes the database, which changes none of the three.
-/
namespace Rollup.Database

/-- The tables that a database holds at present. -/
def tables (db : Database) : Tables :=
  match db.location with
  | .memory => db.connection.getD []
  | .file => db.file
  | .unreachable => []

/-- What keeps every call from its tables. -/
def obstacle (db : Database) : Option Failure :=
  match db.location, Schema.fault? db.sources with
  | .unreachable, _ => some (.store .cannotOpen)
  | _, some fault => some (.store fault)
  | _, none => none

/-- What keeps a call from the table of a source. -/
def refusal (db : Database) (source : String) : Option Failure :=
  if db.sources.contains source then db.obstacle else some (.store (.unknownSource source))

/-- A database after its tables were made. -/
def awake (db : Database) : Database :=
  if db.ready then db
  else if db.location = .memory then { db with ready := true, connection := some [] }
  else { db with ready := true }

/-- A database in use: it is ready only where nothing stands in the way, and if it is in memory, as
long as it is connected. -/
structure Sound (db : Database) : Prop where
  free : db.ready = true → db.obstacle = none
  connected : db.location = .memory → db.ready = db.connection.isSome
  tables : db.tables.Sound

/-- Something that is done with a database. -/
inductive Use
  | write (batch : Batch)
  | read (question : Read)
  | close
  | reopen

/-- What a use leaves. -/
def Use.leaves (db : Database) : Use → Database
  | write batch => (db.write batch.source batch.server batch.points).2
  | read question => (db.answer question).2
  | close => db.close
  | reopen => db.reopen

/-- The database after some uses, one after another. -/
def after (db : Database) (uses : List Use) : Database := uses.foldl Use.leaves db

/-- The database comes from a new one by some uses. -/
def Reachable (db : Database) : Prop :=
  ∃ location sources uses, db = (new location sources).after uses

@[simp] theorem after_nil (db : Database) : db.after [] = db := rfl

@[simp] theorem after_cons (db : Database) (use : Use) (uses : List Use) :
    db.after (use :: uses) = (use.leaves db).after uses := rfl

variable {db : Database} {source server : String} {points : List Point}

@[simp] theorem awake_location (db : Database) : db.awake.location = db.location := by
  unfold awake
  split
  · rfl
  split <;> rfl

@[simp] theorem awake_sources (db : Database) : db.awake.sources = db.sources := by
  unfold awake
  split
  · rfl
  split <;> rfl

@[simp] theorem keep_location (db : Database) (held : Tables) :
    (db.keep held).location = db.location := by
  unfold keep
  split <;> rfl

@[simp] theorem keep_sources (db : Database) (held : Tables) :
    (db.keep held).sources = db.sources := by
  unfold keep
  split <;> rfl

theorem obstacle_congr {db' : Database} (hLocation : db.location = db'.location)
    (hSources : db.sources = db'.sources) : db.obstacle = db'.obstacle := by
  rw [obstacle, hLocation, hSources, ← obstacle]

theorem refusal_congr {db' : Database} (hLocation : db.location = db'.location)
    (hSources : db.sources = db'.sources) (source : String) :
    db.refusal source = db'.refusal source := by
  rw [refusal, obstacle_congr hLocation hSources, hSources, ← refusal]

theorem refusal_eq_none (h : db.refusal source = none) :
    db.sources.contains source = true ∧ db.obstacle = none := by
  unfold refusal at h
  split at h
  · rename_i hKnown
    exact ⟨hKnown, h⟩
  · cases h

theorem location_ne_unreachable (h : db.obstacle = none) : db.location ≠ .unreachable := by
  intro hLocation
  rw [obstacle, hLocation] at h
  cases h

theorem awake_location_ne_unreachable (h : db.refusal source = none) :
    db.awake.location ≠ .unreachable := by
  rw [awake_location]
  exact location_ne_unreachable (refusal_eq_none h).2

theorem tables_keep (h : db.location ≠ .unreachable) (held : Tables) :
    (db.keep held).tables = held := by
  unfold keep
  split
  · rename_i hMemory
    simp [tables, hMemory]
  · rename_i hFile
    simp [tables, hFile]
  · rename_i hNowhere
    exact absurd hNowhere h

/-- Closing empties a database in memory, and no other. -/
theorem tables_close (db : Database) :
    db.close.tables = if db.location = .memory then [] else db.tables := by
  unfold close tables
  cases hLocation : db.location <;> cases hConnection : db.connection <;>
    simp [hLocation, hConnection]

theorem tables_reopen (db : Database) :
    db.reopen.tables = if db.location = .memory then [] else db.tables := by
  unfold reopen new tables
  cases db.location <;> simp

@[simp] theorem close_location (db : Database) : db.close.location = db.location := by
  unfold close
  split <;> rfl

@[simp] theorem close_sources (db : Database) : db.close.sources = db.sources := by
  unfold close
  split <;> rfl

namespace Sound

theorem tables_awake (h : db.Sound) : db.awake.tables = db.tables := by
  unfold awake
  split
  · rfl
  split
  · rename_i hReady hMemory
    have hConnection : db.connection = none := by
      have hConnected := h.connected hMemory
      rw [Bool.not_eq_true] at hReady
      rw [hReady] at hConnected
      exact Option.not_isSome_iff_eq_none.mp (by rw [← hConnected]; decide)
    simp [Database.tables, hMemory, hConnection]
  · rfl

/-- Every call meets the obstacle, or else sees the tables and wakes the database. -/
theorem opened_eq (h : db.Sound) :
    db.opened =
      match db.obstacle with
      | some failure => .error failure
      | none => .ok (db.tables, db.awake) := by
  by_cases hReady : db.ready = true
  · have hFree := h.free hReady
    have hVisible : db.visible = .ok db.tables := by
      unfold visible Database.tables
      cases hLocation : db.location with
      | memory =>
          have hConnected := h.connected hLocation
          rw [hReady] at hConnected
          obtain ⟨held, hHeld⟩ := Option.isSome_iff_exists.mp hConnected.symm
          simp [hHeld]
      | file => rfl
      | unreachable => exact absurd hLocation (location_ne_unreachable hFree)
    rw [opened, prepare, if_pos hReady, hFree, Database.awake, if_pos hReady]
    simp [hVisible, bind, Except.bind, pure, Except.pure]
  · rw [opened, prepare, if_neg hReady, obstacle, Database.awake, if_neg hReady]
    have hTables := h.tables_awake
    rw [Database.awake, if_neg hReady] at hTables
    cases hLocation : db.location <;> cases hFault : Schema.fault? db.sources <;>
      simp_all [bind, Except.bind, pure, Except.pure, visible, Database.tables]

theorem awake (h : db.Sound) (hFree : db.obstacle = none) : db.awake.Sound where
  free _ := by
    rw [obstacle, awake_location, awake_sources]
    exact hFree
  connected hMemory := by
    rw [awake_location] at hMemory
    unfold Database.awake
    split
    · exact h.connected hMemory
    · rfl
  tables := h.tables_awake ▸ h.tables

theorem keep (h : db.Sound) (hReady : db.ready = true) {held : Tables} (hHeld : held.Sound) :
    (db.keep held).Sound := by
  have hFree := h.free hReady
  constructor
  · intro _
    rw [obstacle, keep_location, keep_sources]
    exact hFree
  · intro hMemory
    rw [keep_location] at hMemory
    simp [Database.keep, hMemory, hReady]
  · rw [tables_keep (location_ne_unreachable hFree)]
    exact hHeld

/-- What a write does: it is refused, or a time cannot be stored, or all rows are written, or some
number of samples does not fit. -/
theorem write_eq (h : db.Sound) (source server : String) (points : List Point) :
    db.write source server points =
      match db.refusal source with
      | some failure => (.error failure, db)
      | none =>
        match points.mapM Row.ofPoint with
        | .error failure => (.error failure, db.awake)
        | .ok rows =>
          let left := db.awake.keep (db.tables.set source
            ((db.tables.get source).putAll server (rows.takeWhile Row.fits)))
          if rows.all Row.fits then (.ok (), left)
          else
            (.error (.arithmetic .notStorable),
              if db.location = .memory then left else db.awake) := by
  rw [write, refusal, known, h.opened_eq]
  by_cases hKnown : db.sources.contains source = true
  · rw [if_pos hKnown, if_pos hKnown]
    cases db.obstacle with
    | some failure => rfl
    | none =>
        simp only [bind, Except.bind, Table.insertRows_eq, awake_location]
        cases points.mapM Row.ofPoint with
        | error failure => rfl
        | ok rows => cases hAll : rows.all Row.fits <;> simp [hAll]
  · rw [if_neg hKnown, if_neg hKnown]
    rfl

/-- What a read does: it is refused, or it sees the table of its source. -/
theorem serve_eq {α β : Type} (h : db.Sound) (source : String) (needed : Except Failure β)
    (query : β → Table → Except Failure α) :
    db.serve source needed query =
      match db.known source >>= fun _ => needed with
      | .error failure => (.error failure, db)
      | .ok terms =>
        match db.obstacle with
        | some failure => (.error failure, db)
        | none => (query terms (db.tables.get source), db.awake) := by
  rw [serve, h.opened_eq]
  cases db.known source >>= fun _ => needed with
  | error failure => rfl
  | ok terms => cases db.obstacle <;> rfl

/-- A read does the same on databases with one place and the same sources if what it asks their tables
has the same answer. -/
theorem serve_congr {α β : Type} {db' : Database} (h : db.Sound) (h' : db'.Sound)
    (hLocation : db.location = db'.location) (hSources : db.sources = db'.sources)
    {source : String} (needed : Except Failure β) {query : β → Table → Except Failure α}
    (hQuery : ∀ terms, query terms (db.tables.get source) = query terms (db'.tables.get source)) :
    (db.serve source needed query).1 = (db'.serve source needed query).1 := by
  rw [h.serve_eq, h'.serve_eq, known, known, hSources, obstacle_congr hLocation hSources]
  split
  · rfl
  split
  · rfl
  · exact hQuery _

/-- A read that nothing stands in the way of. -/
theorem serve_of_refusal_eq_none {α β : Type} (h : db.Sound) (hRefusal : db.refusal source = none)
    {needed : Except Failure β} {terms : β} (hNeeded : needed = .ok terms)
    (query : β → Table → Except Failure α) :
    db.serve source needed query = (query terms (db.tables.get source), db.awake) := by
  obtain ⟨hKnown, hFree⟩ := refusal_eq_none hRefusal
  rw [h.serve_eq, known, if_pos hKnown, hNeeded, hFree]
  rfl

/-- A read leaves the database as it was, or wakes it. -/
theorem serve_state {α β : Type} (h : db.Sound) (source : String) (needed : Except Failure β)
    (query : β → Table → Except Failure α) :
    (db.serve source needed query).2 = db ∨
      db.obstacle = none ∧ (db.serve source needed query).2 = db.awake := by
  rw [h.serve_eq]
  split
  · exact .inl rfl
  · cases hFree : db.obstacle with
    | some failure => exact .inl rfl
    | none => exact .inr ⟨rfl, rfl⟩

theorem answer_state (h : db.Sound) (question : Read) :
    (db.answer question).2 = db ∨
      db.obstacle = none ∧ (db.answer question).2 = db.awake := by
  cases question <;> exact h.serve_state _ _ _

theorem new (location : Location) (sources : List String) : (new location sources).Sound where
  free hReady := by cases hReady
  connected _ := rfl
  tables := by
    cases location <;> exact Tables.Sound.nil

theorem write (h : db.Sound) (source server : String) (points : List Point) :
    (db.write source server points).2.Sound := by
  rw [h.write_eq]
  cases hRefusal : db.refusal source with
  | some failure => exact h
  | none =>
      have hFree := (refusal_eq_none hRefusal).2
      have hReady : db.awake.ready = true := by
        unfold Database.awake
        split
        · assumption
        split <;> rfl
      cases points.mapM Row.ofPoint with
      | error failure => exact h.awake hFree
      | ok rows =>
          have hLeft := (h.awake hFree).keep hReady
            (h.tables.set source ((h.tables source).putAll server (rows.takeWhile Row.fits)))
          dsimp only
          split
          · exact hLeft
          split
          · exact hLeft
          · exact h.awake hFree

theorem close (h : db.Sound) : db.close.Sound := by
  have hTables := tables_close db
  by_cases hOpen : db.connection.isSome = true
  · rw [Database.close, if_pos hOpen] at hTables ⊢
    refine ⟨nofun, fun _ => rfl, ?_⟩
    rw [hTables]
    split
    · exact Tables.Sound.nil
    · exact h.tables
  · rw [Database.close, if_neg hOpen]
    exact h

theorem reopen (h : db.Sound) : db.reopen.Sound := by
  refine ⟨nofun, fun _ => rfl, ?_⟩
  rw [tables_reopen]
  split
  · exact Tables.Sound.nil
  · exact h.tables

theorem leaves (h : db.Sound) (use : Use) : (use.leaves db).Sound := by
  cases use with
  | write batch => exact h.write batch.source batch.server batch.points
  | read question =>
      rcases h.answer_state question with hSame | ⟨hFree, hAwake⟩
      · rw [Use.leaves, hSame]
        exact h
      · rw [Use.leaves, hAwake]
        exact h.awake hFree
  | close => exact h.close
  | reopen => exact h.reopen

theorem after (h : db.Sound) (uses : List Use) : (db.after uses).Sound := by
  induction uses generalizing db with
  | nil => exact h
  | cons use uses ih => exact ih (h.leaves use)

end Sound

theorem Reachable.sound (h : db.Reachable) : db.Sound := by
  obtain ⟨location, sources, uses, rfl⟩ := h
  exact (Sound.new location sources).after uses

end Rollup.Database
