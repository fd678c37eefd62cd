import Mathlib
import Rollup.Proofs.Program.Contract
import Rollup.Proofs.Store.Held

/-!
Servers in one store. A write for a server leaves what the others have as it was, and questions
about a server are answered from what it has. So two histories that agree on a server leave stores
that answer alike about it, and every point in an answer comes from a batch for its server.
-/
namespace Rollup

namespace Memory

variable {m : Memory} {source server : String} {points : List Point} {p : Point}

theorem mem_of_mem_firstPoints {limit : Int} (h : p ∈ firstPoints limit points) : p ∈ points := by
  unfold firstPoints at h
  split at h <;> exact List.mem_of_mem_take h

theorem mem_of_mem_lastPoints {limit : Int} (h : p ∈ lastPoints limit points) : p ∈ points := by
  unfold lastPoints at h
  split at h <;> exact List.mem_of_mem_drop h

/-- A write adds to the points of its own server. -/
theorem written_write (m : Memory) (source server : String) (points : List Point)
    (other owner : String) :
    (m.write source server points).written other owner =
      m.written other owner ++ Batch.pointsFor other owner ⟨source, server, points⟩ := by
  rw [written, write, List.flatMap_append, List.flatMap_singleton, ← written]

/-- The points in an answer about a server were written for it. -/
theorem mem_written_of_read {question : Read} {answer : question.Answer}
    (hServer : question.server? = some server) (hOk : m.read question = .ok answer)
    (hMem : p ∈ question.points answer) : p ∈ m.written question.source server := by
  have hSorted : ∀ {sorted : List Point},
      byTime (m.written question.source server) = .ok sorted → p ∈ sorted →
        p ∈ m.written question.source server := by
    intro sorted hOk hMem
    rw [eq_of_byTime hOk] at hMem
    exact (chronicle_chronological _).mem_iff.mp hMem
  cases question with
  | range source asked window limit =>
      cases hServer
      obtain ⟨sorted, hTimes, hOk⟩ := exists_of_bind_eq_ok hOk
      obtain ⟨inside, hInside, hOk⟩ := exists_of_bind_eq_ok hOk
      cases hOk
      have hIn := mem_of_mem_firstPoints hMem
      rw [eq_of_inWindow hInside] at hIn
      exact hSorted hTimes (List.mem_of_mem_filter hIn)
  | count source asked window => cases hMem
  | latest source asked =>
      cases hServer
      obtain ⟨sorted, hTimes, hOk⟩ := exists_of_bind_eq_ok hOk
      cases hOk
      exact hSorted hTimes (List.mem_of_getLast? (Option.mem_toList.mp hMem))
  | recent source asked limit =>
      cases hServer
      obtain ⟨sorted, hTimes, hOk⟩ := exists_of_bind_eq_ok hOk
      cases hOk
      exact hSorted hTimes (mem_of_mem_lastPoints hMem)
  | stats source => cases hServer

end Memory

namespace Database

/-- The rows that a write leaves in the table of a source. A batch with a row that does not fit
leaves the rows in front of it, and those in memory only. -/
def accepted (db : Database) (source : String) (points : List Point) : List Row :=
  match db.refusal source, points.mapM Row.ofPoint with
  | none, .ok rows =>
    if rows.all Row.fits = true ∨ db.location = .memory then rows.takeWhile Row.fits else []
  | _, _ => []

/-- The databases have the same place and sources, and hold the same rows for a server. -/
structure AlikeFor (server : String) (db db' : Database) : Prop where
  location : db.location = db'.location
  sources : db.sources = db'.sources
  rows : ∀ source, (db.tables.get source).rows server = (db'.tables.get source).rows server

variable {db db' : Database} {source other server owner : String} {points : List Point}

theorem mem_of_mem_bounded {limit : Int} {rows : List Row} {row : Row}
    (h : row ∈ bounded limit rows) : row ∈ rows := by
  unfold bounded at h
  split at h
  · exact List.mem_of_mem_take h
  · exact h

theorem exists_of_mem_accepted {row : Row} (h : row ∈ db.accepted source points) :
    ∃ p ∈ points, Row.ofPoint p = .ok row := by
  unfold accepted at h
  split at h
  · rename_i rows _ hRows
    split at h
    · exact exists_of_mem_mapM hRows (List.takeWhile_subset _ h)
    · cases h
  · cases h

namespace Sound

theorem write_location (h : db.Sound) (source server : String) (points : List Point) :
    (db.write source server points).2.location = db.location := by
  rw [h.write_eq]
  split
  · rfl
  split
  · exact awake_location db
  dsimp only
  split <;> [skip; split] <;> simp

theorem write_sources (h : db.Sound) (source server : String) (points : List Point) :
    (db.write source server points).2.sources = db.sources := by
  rw [h.write_eq]
  split
  · rfl
  split
  · exact awake_sources db
  dsimp only
  split <;> [skip; split] <;> simp

/-- No use moves a database. -/
theorem leaves_location (h : db.Sound) (use : Use) : (use.leaves db).location = db.location := by
  cases use with
  | write batch => exact h.write_location batch.source batch.server batch.points
  | read question =>
      rcases h.answer_state question with hSame | ⟨-, hAwake⟩
      · exact congrArg location hSame
      · exact (congrArg location hAwake).trans (awake_location db)
  | close => exact close_location db
  | reopen => rfl

theorem leaves_sources (h : db.Sound) (use : Use) : (use.leaves db).sources = db.sources := by
  cases use with
  | write batch => exact h.write_sources batch.source batch.server batch.points
  | read question =>
      rcases h.answer_state question with hSame | ⟨-, hAwake⟩
      · exact congrArg sources hSame
      · exact (congrArg sources hAwake).trans (awake_sources db)
  | close => exact close_sources db
  | reopen => rfl

theorem after_location (h : db.Sound) (uses : List Use) :
    (db.after uses).location = db.location := by
  induction uses generalizing db with
  | nil => rfl
  | cons use uses ih => exact (ih (h.leaves use)).trans (h.leaves_location use)

theorem after_sources (h : db.Sound) (uses : List Use) : (db.after uses).sources = db.sources := by
  induction uses generalizing db with
  | nil => rfl
  | cons use uses ih => exact (ih (h.leaves use)).trans (h.leaves_sources use)

/-- What a write does to the rows of each server in each table. -/
theorem rows_write (h : db.Sound) (source server : String) (points : List Point)
    (other owner : String) :
    ((db.write source server points).2.tables.get other).rows owner =
      if Schema.fold other = Schema.fold source ∧ owner = server then
        Row.insertAll ((db.tables.get other).rows owner) (db.accepted source points)
      else (db.tables.get other).rows owner := by
  have hNone : ∀ {left : Database}, left.tables = db.tables → db.accepted source points = [] →
      (left.tables.get other).rows owner =
        if Schema.fold other = Schema.fold source ∧ owner = server then
          Row.insertAll ((db.tables.get other).rows owner) (db.accepted source points)
        else (db.tables.get other).rows owner := by
    intro left hTables hAccepted
    rw [hTables, hAccepted, Row.insertAll_nil, ite_self]
  rw [h.write_eq]
  cases hRefusal : db.refusal source with
  | some failure => exact hNone rfl (by rw [accepted, hRefusal])
  | none =>
      cases hRows : points.mapM Row.ofPoint with
      | error failure => exact hNone h.tables_awake (by rw [accepted, hRefusal, hRows])
      | ok rows =>
          have hPlace := awake_location_ne_unreachable hRefusal
          have hPut : ((db.tables.set source ((db.tables.get source).putAll server
                (rows.takeWhile Row.fits))).get other).rows owner =
              if Schema.fold other = Schema.fold source ∧ owner = server then
                Row.insertAll ((db.tables.get other).rows owner) (rows.takeWhile Row.fits)
              else (db.tables.get other).rows owner := by
            by_cases hFold : Schema.fold other = Schema.fold source
            · have hTable : db.tables.get other = db.tables.get source := by
                rw [Tables.get, Tables.get, hFold]
              rw [Tables.get_set_of_eq hFold, hTable]
              by_cases hOwner : owner = server
              · rw [if_pos ⟨hFold, hOwner⟩, hOwner, Table.rows_putAll_self]
              · rw [if_neg fun hBoth => hOwner hBoth.2, Table.rows_putAll_of_ne hOwner]
            · rw [if_neg fun hBoth => hFold hBoth.1, Tables.get_set_of_ne hFold]
          dsimp only
          by_cases hLeft : rows.all Row.fits = true ∨ db.location = .memory
          · have hAccepted : db.accepted source points = rows.takeWhile Row.fits := by
              rw [accepted, hRefusal, hRows]
              exact if_pos hLeft
            rw [hAccepted, ← hPut]
            split
            · rw [tables_keep hPlace]
            · rename_i hAll
              rw [if_pos (hLeft.resolve_left hAll), tables_keep hPlace]
          · have hAccepted : db.accepted source points = [] := by
              rw [accepted, hRefusal, hRows]
              exact if_neg hLeft
            rw [not_or] at hLeft
            rw [if_neg hLeft.1, if_neg hLeft.2]
            exact hNone h.tables_awake hAccepted

/-- A row after a write was there before, or it was made of a point written for its server. -/
theorem mem_rows_write (h : db.Sound) {row : Row}
    (hMem : row ∈ ((db.write source server points).2.tables.get other).rows owner) :
    row ∈ (db.tables.get other).rows owner ∨
      server = owner ∧ ∃ p ∈ points, Row.ofPoint p = .ok row := by
  rw [h.rows_write] at hMem
  split at hMem
  · rename_i hBoth
    rcases (Row.mem_insertAll ((h.tables other).rows_descending owner)).mp hMem with
      hFinal | ⟨hOld, -⟩
    · exact .inr ⟨hBoth.2.symm, exists_of_mem_accepted hFinal.mem⟩
    · exact .inl hOld
  · exact .inl hMem

/-- The points in an answer about a server are those of its rows. -/
theorem exists_row_of_answer (h : db.Sound) {question : Read} {answer : question.Answer}
    (hServer : question.server? = some server) (hOk : (db.answer question).1 = .ok answer)
    {p : Point} (hMem : p ∈ question.points answer) :
    ∃ row ∈ (db.tables.get question.source).rows server, row.toPoint = .ok p := by
  have hPoints : ∀ {rows : List Row} {points : List Point}, Table.points rows = .ok points →
      p ∈ points → ∃ row ∈ rows, row.toPoint = .ok p := exists_of_mem_mapM
  have hRecent : ∀ {table : Table} {limit : Int} {points : List Point},
      recent table server limit = .ok points → p ∈ points →
        ∃ row ∈ table.rows server, row.toPoint = .ok p := by
    intro table limit points hOk hMem
    obtain ⟨-, -, hOk⟩ := exists_of_bind_eq_ok hOk
    obtain ⟨newestFirst, hNewest, hOk⟩ := exists_of_bind_eq_ok hOk
    cases hOk
    obtain ⟨row, hRow, hPoint⟩ := hPoints hNewest (List.mem_reverse.mp hMem)
    exact ⟨row, mem_of_mem_bounded hRow, hPoint⟩
  cases question with
  | range source asked window limit =>
      cases hServer
      obtain ⟨⟨first, last⟩, -, hOk⟩ := h.exists_of_serve hOk
      obtain ⟨-, -, hOk⟩ := exists_of_bind_eq_ok hOk
      obtain ⟨row, hRow, hPoint⟩ := hPoints hOk hMem
      have hIn := mem_of_mem_bounded hRow
      rw [Table.between, List.mem_reverse] at hIn
      exact ⟨row, List.mem_of_mem_filter hIn, hPoint⟩
  | count source asked window => cases hMem
  | latest source asked =>
      cases hServer
      obtain ⟨-, -, hOk⟩ := h.exists_of_serve hOk
      obtain ⟨points, hPoints, hHead⟩ := exists_of_bind_eq_ok hOk
      cases hHead
      exact hRecent hPoints (List.mem_of_head? (Option.mem_toList.mp hMem))
  | recent source asked limit =>
      cases hServer
      obtain ⟨-, -, hOk⟩ := h.exists_of_serve hOk
      exact hRecent hOk hMem
  | stats source => cases hServer

end Sound

namespace AlikeFor

theorem symm (h : AlikeFor server db db') : AlikeFor server db' db :=
  ⟨h.location.symm, h.sources.symm, fun source => (h.rows source).symm⟩

theorem trans {db'' : Database} (h : AlikeFor server db db') (h' : AlikeFor server db' db'') :
    AlikeFor server db db'' :=
  ⟨h.location.trans h'.location, h.sources.trans h'.sources,
    fun source => (h.rows source).trans (h'.rows source)⟩

theorem of_tables_eq (hLocation : db.location = db'.location) (hSources : db.sources = db'.sources)
    (hTables : db.tables = db'.tables) : AlikeFor server db db' :=
  ⟨hLocation, hSources, fun _ => by rw [hTables]⟩

theorem accepted_eq (h : AlikeFor server db db') (source : String) (points : List Point) :
    db.accepted source points = db'.accepted source points := by
  rw [accepted, refusal_congr h.location h.sources, h.location, ← accepted]

theorem write (h : AlikeFor server db db') (hDb : db.Sound) (hDb' : db'.Sound)
    (source owner : String) (points : List Point) :
    AlikeFor server (db.write source owner points).2 (db'.write source owner points).2 where
  location := by
    rw [hDb.write_location, hDb'.write_location]
    exact h.location
  sources := by
    rw [hDb.write_sources, hDb'.write_sources]
    exact h.sources
  rows other := by
    rw [hDb.rows_write, hDb'.rows_write, h.rows, h.accepted_eq]

/-- A write for another server changes nothing for this one. -/
theorem write_of_ne (hDb : db.Sound) (hOwner : owner ≠ server) (source : String)
    (points : List Point) : AlikeFor server (db.write source owner points).2 db where
  location := hDb.write_location source owner points
  sources := hDb.write_sources source owner points
  rows other := by
    rw [hDb.rows_write, if_neg fun hBoth => hOwner hBoth.2.symm]

theorem answer_state (hDb : db.Sound) (question : Read) :
    AlikeFor server (db.answer question).2 db := by
  rcases hDb.answer_state question with hSame | ⟨-, hAwake⟩
  · rw [hSame]
    exact of_tables_eq rfl rfl rfl
  · rw [hAwake]
    exact of_tables_eq (awake_location db) (awake_sources db) hDb.tables_awake

theorem serve_eq {α β : Type} (h : AlikeFor server db db') (hDb : db.Sound) (hDb' : db'.Sound)
    (source : String) (needed : Except Failure β) {query : β → Table → Except Failure α}
    (hQuery : ∀ terms {table table' : Table}, table.rows server = table'.rows server →
      query terms table = query terms table') :
    (db.serve source needed query).1 = (db'.serve source needed query).1 :=
  hDb.serve_congr hDb' h.location h.sources needed fun terms => hQuery terms (h.rows source)

/-- Questions about a server are answered by its rows. -/
theorem answer_eq (h : AlikeFor server db db') (hDb : db.Sound) (hDb' : db'.Sound)
    {question : Read} (hServer : question.server? = some server) :
    (db.answer question).1 = (db'.answer question).1 := by
  cases question with
  | range source asked window limit =>
      cases hServer
      apply h.serve_eq hDb hDb'
      rintro ⟨first, last⟩ table table' hRows
      simp only [Table.between, hRows]
  | count source asked window =>
      cases hServer
      apply h.serve_eq hDb hDb'
      rintro ⟨first, last⟩ table table' hRows
      simp only [Table.between, hRows]
  | latest source asked =>
      cases hServer
      apply h.serve_eq hDb hDb'
      intro _ table table' hRows
      rw [recent, recent, hRows]
  | recent source asked limit =>
      cases hServer
      apply h.serve_eq hDb hDb'
      intro _ table table' hRows
      rw [recent, recent, hRows]
  | stats source => cases hServer

end AlikeFor

end Database

namespace Store

/-- The store was not used before. -/
inductive New : Store → Prop
  | memory : New (.memory .empty)
  | database (location : Location) (sources : List String) :
      New (.database (.new location sources))

/-- The stores are of one kind and hold the same for a server. -/
inductive AlikeFor (server : String) : Store → Store → Prop
  | memory {m m' : Memory} (h : ∀ source, m.written source server = m'.written source server) :
      AlikeFor server (.memory m) (.memory m')
  | database {db db' : Database} (hDb : db.Sound) (hDb' : db'.Sound)
      (h : Database.AlikeFor server db db') : AlikeFor server (.database db) (.database db')

/-- What a store gives back for a point that is written to it. -/
def givesBack (store : Store) (p : Point) : Except Failure Point :=
  match store with
  | memory _ => .ok p
  | database _ => Row.ofPoint p >>= Row.toPoint

/-- A point that is given back for one in a batch for the server. -/
def Wrote (store : Store) (history : History) (server : String) (shown : Point) : Prop :=
  ∃ batch ∈ history, batch.server = server ∧
    ∃ p ∈ batch.points, store.givesBack p = .ok shown

/-- A point that the store holds for a server, as it is read. -/
def Has (store : Store) (server : String) (shown : Point) : Prop :=
  match store with
  | memory m => ∃ source, shown ∈ m.written source server
  | database db => ∃ source, ∃ row ∈ (db.tables.get source).rows server, row.toPoint = .ok shown

variable {store store' : Store} {server : String}

theorem New.sound (h : store.New) : store.Sound := by
  cases h with
  | memory => trivial
  | database location sources => exact Database.Sound.new location sources

theorem givesBack_write (store : Store) (source owner : String) (points : List Point) :
    (store.write source owner points).2.givesBack = store.givesBack := by
  cases store <;> rfl

/-- A new store holds nothing. -/
theorem New.not_has (h : store.New) {shown : Point} : ¬store.Has server shown := by
  cases h with
  | memory =>
      rintro ⟨source, hMem⟩
      cases hMem
  | database location sources =>
      rintro ⟨source, row, hMem, -⟩
      have hTables : (Database.new location sources).tables = [] := by cases location <;> rfl
      rw [hTables] at hMem
      cases hMem

namespace AlikeFor

theorem refl (h : store.Sound) : AlikeFor server store store := by
  cases store with
  | memory m => exact .memory fun _ => rfl
  | database db => exact .database h h (.of_tables_eq rfl rfl rfl)

theorem symm (h : AlikeFor server store store') : AlikeFor server store' store := by
  cases h with
  | memory h => exact .memory fun source => (h source).symm
  | database hDb hDb' h => exact .database hDb' hDb h.symm

theorem trans {store'' : Store} (h : AlikeFor server store store')
    (h' : AlikeFor server store' store'') : AlikeFor server store store'' := by
  cases h with
  | memory h =>
      cases h' with
      | memory h' => exact .memory fun source => (h source).trans (h' source)
  | database hDb _ h =>
      cases h' with
      | database _ hDb' h' => exact .database hDb hDb' (h.trans h')

theorem sound (h : AlikeFor server store store') : store.Sound := by
  cases h with
  | memory => trivial
  | database hDb => exact hDb

/-- A question about the server is answered alike. -/
theorem answer_eq (h : AlikeFor server store store') {question : Read}
    (hServer : question.server? = some server) :
    (store.answer question).1 = (store'.answer question).1 := by
  cases h with
  | memory h => cases question <;> cases hServer <;> simp only [answer, Memory.answer, Memory.read, h]
  | database hDb hDb' h => exact h.answer_eq hDb hDb' hServer

theorem answer_state (h : store.Sound) (question : Read) :
    AlikeFor server (store.answer question).2 store := by
  cases store with
  | memory m => exact .memory fun _ => rfl
  | database db => exact .database (h.leaves (.read question)) h (.answer_state h question)

theorem answer (h : AlikeFor server store store') (question : Read) :
    AlikeFor server (store.answer question).2 (store'.answer question).2 :=
  (answer_state h.sound question).trans (h.trans (answer_state h.symm.sound question).symm)

theorem write (h : AlikeFor server store store') (source owner : String) (points : List Point) :
    AlikeFor server (store.write source owner points).2 (store'.write source owner points).2 := by
  cases h with
  | @memory m m' h =>
      refine .memory fun other => ?_
      rw [Memory.written_write, Memory.written_write, h]
  | database hDb hDb' h =>
      exact .database (hDb.write source owner points) (hDb'.write source owner points)
        (h.write hDb hDb' source owner points)

/-- A write for another server changes nothing for this one. -/
theorem write_of_ne (h : store.Sound) {owner : String} (hOwner : owner ≠ server) (source : String)
    (points : List Point) : AlikeFor server (store.write source owner points).2 store := by
  cases store with
  | memory m =>
      refine .memory fun other => ?_
      rw [Memory.written_write, Memory.Batch.pointsFor, if_neg fun hBoth => hOwner hBoth.2,
        List.append_nil]
  | database db =>
      exact .database (h.write source owner points) h (.write_of_ne h hOwner source points)

/-- For a server, only its own batches count. -/
theorem load_filter (h : AlikeFor server store store') (history : History) :
    AlikeFor server (store.load history)
      (store'.load (history.filter fun batch => batch.server = server)) := by
  induction history generalizing store store' with
  | nil => exact h
  | cons batch history ih =>
      rw [load_cons, List.filter_cons]
      by_cases hServer : batch.server = server
      · rw [if_pos (by simpa using hServer), load_cons]
        exact ih (h.write batch.source batch.server batch.points)
      · rw [if_neg (by simpa using hServer)]
        exact ih ((write_of_ne h.sound hServer batch.source batch.points).trans h)

/-- Histories that agree on a server leave stores that hold the same for it. -/
theorem load (h : store.Sound) {history history' : History}
    (hSame : (history.filter fun batch => batch.server = server) =
      history'.filter fun batch => batch.server = server) :
    AlikeFor server (store.load history) (store.load history') := by
  have hOwn : ∀ history : History, AlikeFor server (store.load history)
      (store.load (history.filter fun batch => batch.server = server)) := load_filter (refl h)
  have hHistory := hOwn history
  rw [hSame] at hHistory
  exact hHistory.trans (hOwn history').symm

end AlikeFor

/-- The points in an answer about a server are held for it. -/
theorem Sound.has_of_answer (h : store.Sound) {question : Read} {answer : question.Answer}
    (hServer : question.server? = some server) (hOk : (store.answer question).1 = .ok answer)
    {shown : Point} (hMem : shown ∈ question.points answer) : store.Has server shown := by
  cases store with
  | memory m => exact ⟨question.source, Memory.mem_written_of_read hServer hOk hMem⟩
  | database db =>
      exact ⟨question.source, Database.Sound.exists_row_of_answer h hServer hOk hMem⟩

/-- What a store holds after a write was there before, or it is given back for what was written. -/
theorem Has.of_write (h : store.Sound) {source owner : String} {points : List Point}
    {shown : Point} (hHas : (store.write source owner points).2.Has server shown) :
    store.Has server shown ∨
      owner = server ∧ ∃ p ∈ points, store.givesBack p = .ok shown := by
  cases store with
  | memory m =>
      obtain ⟨other, hMem⟩ := hHas
      change shown ∈ (m.write source owner points).written other server at hMem
      rw [Memory.written_write, List.mem_append] at hMem
      rcases hMem with hOld | hNew
      · exact .inl ⟨other, hOld⟩
      · unfold Memory.Batch.pointsFor at hNew
        split at hNew
        · rename_i hFor
          exact .inr ⟨hFor.2, shown, hNew, rfl⟩
        · cases hNew
  | database db =>
      obtain ⟨other, row, hMem, hShown⟩ := hHas
      rcases Database.Sound.mem_rows_write h hMem with hOld | ⟨hServer, p, hPoint, hRow⟩
      · exact .inl ⟨other, row, hOld, hShown⟩
      · refine .inr ⟨hServer, p, hPoint, ?_⟩
        rw [givesBack, hRow]
        exact hShown

/-- What a store holds after a history was there before, or it comes from a batch for its server. -/
theorem Has.of_load (h : store.Sound) {history : History} {shown : Point}
    (hHas : (store.load history).Has server shown) :
    store.Has server shown ∨ store.Wrote history server shown := by
  induction history generalizing store with
  | nil => exact .inl hHas
  | cons batch history ih =>
      rcases ih (h.write batch.source batch.server batch.points) hHas with hBefore | hLater
      · rcases hBefore.of_write h with hOld | ⟨hServer, p, hPoint, hShown⟩
        · exact .inl hOld
        · exact .inr ⟨batch, List.mem_cons_self, hServer, p, hPoint, hShown⟩
      · obtain ⟨later, hMem, hServer, p, hPoint, hShown⟩ := hLater
        rw [givesBack_write] at hShown
        exact .inr ⟨later, List.mem_cons_of_mem _ hMem, hServer, p, hPoint, hShown⟩

end Store

end Rollup
