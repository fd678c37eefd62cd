import Mathlib
import Rollup.Proofs.Store.Observed
import Rollup.Proofs.Store.Reading

/-!
Databases as maps in which the last writer wins. A table holds one row for each server and bucket,
and the row tells of the last point that was written there. So databases whose last points are the
same cannot be told apart: it does not matter how writes are put into batches, whether one is
repeated, or in which order two come that share no bucket of a server.
-/
namespace Rollup

/-- The point is the last one of its bucket among some. -/
abbrev Point.Last (points : List Point) (p : Point) : Prop :=
  LastBy (fun p => Bucket.ofTime p.time) points p

namespace History

/-- The points that a history holds for a server in the table of a source, in the order of writing.
Sources whose names differ in the case of their letters have one table. -/
def entered (history : History) (source server : String) : List Point :=
  history.flatMap fun batch =>
    if Schema.fold batch.source = Schema.fold source ∧ batch.server = server then batch.points
    else []

/-- The batches that write some points one by one. -/
def oneByOne (source server : String) (points : List Point) : History :=
  points.map fun p => ⟨source, server, [p]⟩

theorem entered_cons (batch : Batch) (history : History) (source server : String) :
    entered (batch :: history) source server =
      (if Schema.fold batch.source = Schema.fold source ∧ batch.server = server then batch.points
        else []) ++ history.entered source server := rfl

theorem entered_singleton (batch : Batch) (source server : String) :
    entered [batch] source server =
      if Schema.fold batch.source = Schema.fold source ∧ batch.server = server then batch.points
      else [] := by
  rw [entered_cons]
  exact List.append_nil _

theorem entered_oneByOne (source server : String) (points : List Point) (other owner : String) :
    (oneByOne source server points).entered other owner =
      if Schema.fold source = Schema.fold other ∧ server = owner then points else [] := by
  induction points with
  | nil => simp [oneByOne, entered]
  | cons p points ih =>
      rw [oneByOne, List.map_cons, entered_cons]
      change _ ++ (oneByOne source server points).entered other owner = _
      rw [ih]
      split <;> rfl

end History

namespace Row

variable {points : List Point} {p : Point} {row : Row} {rows : List Row}

theorem ofPoint_eq_ok_iff :
    ofPoint p = .ok row ↔ Bucket.ofTime p.time = .ok row.bucket ∧ settle p.readings = row.readings := by
  rw [ofPoint]
  cases Bucket.ofTime p.time with
  | error failure => simp [bind, Except.bind]
  | ok bucket => cases row; simp [bind, Except.bind, pure, Except.pure]

/-- Rows have one bucket exactly if their points do. -/
theorem bucket_eq_iff {q : Point} {other : Row} (h : ofPoint p = .ok row)
    (hOther : ofPoint q = .ok other) :
    other.bucket = row.bucket ↔ Bucket.ofTime q.time = Bucket.ofTime p.time := by
  rw [(ofPoint_eq_ok_iff.mp h).1, (ofPoint_eq_ok_iff.mp hOther).1, Except.ok.injEq]

/-- The last rows of some points are those of the last points. -/
theorem final_iff_last (hRows : points.mapM ofPoint = .ok rows) :
    Final rows row ↔ ∃ p, Point.Last points p ∧ ofPoint p = .ok row := by
  induction points generalizing rows with
  | nil =>
      cases hRows
      simp [final_nil, Point.Last, lastBy_nil]
  | cons first points ih =>
      rw [List.mapM_cons] at hRows
      obtain ⟨firstRow, hFirst, hRows⟩ := exists_of_bind_eq_ok hRows
      obtain ⟨rest, hRest, hRows⟩ := exists_of_bind_eq_ok hRows
      cases hRows
      rw [final_cons, ih hRest]
      constructor
      · rintro (⟨p, hLast, hRow⟩ | ⟨rfl, hNone⟩)
        · exact ⟨p, lastBy_cons.mpr (.inl hLast), hRow⟩
        · refine ⟨first, lastBy_cons.mpr (.inr ⟨rfl, ?_⟩), hFirst⟩
          intro later hMem hSame
          obtain ⟨laterRow, hIn, hLater⟩ := exists_mem_of_mapM hRest hMem
          exact hNone laterRow hIn ((bucket_eq_iff hFirst hLater).mpr hSame)
      · rintro ⟨p, hLast, hRow⟩
        rcases lastBy_cons.mp hLast with hLast | ⟨rfl, hNone⟩
        · exact .inl ⟨p, hLast, hRow⟩
        · cases hFirst.symm.trans hRow
          refine .inr ⟨rfl, ?_⟩
          intro laterRow hIn hSame
          obtain ⟨later, hMem, hLater⟩ := exists_of_mem_mapM hRest hIn
          exact hNone later hMem ((bucket_eq_iff hFirst hLater).mp hSame)

end Row

namespace Database

/-- All batches are written without failure, one after another. -/
def Accepts (db : Database) : History → Prop
  | [] => True
  | batch :: history =>
    (db.write batch.source batch.server batch.points).1 = .ok () ∧
      (db.write batch.source batch.server batch.points).2.Accepts history

/-- The database after some batches were written, one after another. -/
abbrev loaded (db : Database) (history : History) : Database := db.after (history.map .write)

/-- Nothing keeps the batch from its table, and all of its rows can be stored. -/
def Takes (db : Database) (batch : Batch) : Prop :=
  db.refusal batch.source = none ∧
    ∃ rows, batch.points.mapM Row.ofPoint = .ok rows ∧ rows.all Row.fits = true

variable {db : Database} {batch : Batch} {history history' : History} {source server : String}
  {points : List Point} {p : Point} {row : Row} {rows : List Row}

theorem Takes.accepted_eq (h : db.Takes batch) :
    batch.points.mapM Row.ofPoint = .ok (db.accepted batch.source batch.points) := by
  obtain ⟨hRefusal, rows, hRows, hFits⟩ := h
  have hAccepted : db.accepted batch.source batch.points = rows := by
    rw [accepted, hRefusal, hRows]
    exact (if_pos (.inl hFits)).trans (List.takeWhile_eq_self_iff.mpr (List.all_eq_true.mp hFits))
  rw [hAccepted, hRows]

/-- A database that takes a batch takes each of its points. -/
theorem Takes.single (h : db.Takes batch) (hMem : p ∈ batch.points) :
    db.Takes ⟨batch.source, batch.server, [p]⟩ := by
  obtain ⟨hRefusal, rows, hRows, hFits⟩ := h
  obtain ⟨row, hIn, hRow⟩ := exists_mem_of_mapM hRows hMem
  refine ⟨hRefusal, [row], ?_, ?_⟩
  · rw [List.mapM_cons, hRow]
    rfl
  · simpa using List.all_eq_true.mp hFits row hIn

namespace Sound

/-- A batch is written exactly if the database takes it, whatever it holds. -/
theorem write_ok_iff (h : db.Sound) :
    (db.write batch.source batch.server batch.points).1 = .ok () ↔ db.Takes batch := by
  rw [h.write_eq, Takes]
  cases hRefusal : db.refusal batch.source with
  | some failure => simp
  | none =>
      cases hRows : batch.points.mapM Row.ofPoint with
      | error failure => simp
      | ok rows =>
          dsimp only
          by_cases hFits : rows.all Row.fits = true
          · rw [if_pos hFits]
            exact iff_of_true rfl ⟨rfl, rows, rfl, hFits⟩
          · rw [if_neg hFits]
            refine iff_of_false nofun ?_
            rintro ⟨-, others, hOthers, hAll⟩
            cases hOthers
            exact hFits hAll

/-- What a database takes does not depend on its use. -/
theorem takes_leaves (h : db.Sound) (use : Use) : (use.leaves db).Takes batch ↔ db.Takes batch := by
  rw [Takes, refusal_congr (h.leaves_location use) (h.leaves_sources use), ← Takes]

theorem takes_write (h : db.Sound) (first : Batch) :
    (db.write first.source first.server first.points).2.Takes batch ↔ db.Takes batch :=
  h.takes_leaves (.write first)

/-- Batches are all written exactly if the database takes each of them. -/
theorem accepts_iff (h : db.Sound) : db.Accepts history ↔ ∀ batch ∈ history, db.Takes batch := by
  induction history generalizing db with
  | nil => simp [Accepts]
  | cons first history ih =>
      rw [Accepts, h.write_ok_iff, ih (h.write first.source first.server first.points),
        List.forall_mem_cons]
      simp only [h.takes_write]

/-- What is written to an accepting database for a server is added to its rows, point by point. -/
theorem rows_loaded (h : db.Sound) (hAccepts : db.Accepts history) (source server : String) :
    ∃ new, (history.entered source server).mapM Row.ofPoint = .ok new ∧
      ((db.loaded history).tables.get source).rows server =
        Row.insertAll ((db.tables.get source).rows server) new := by
  induction history generalizing db with
  | nil => exact ⟨[], rfl, rfl⟩
  | cons batch history ih =>
      obtain ⟨hWrite, hRest⟩ := hAccepts
      obtain ⟨new, hNew, hRows⟩ := ih (h.write batch.source batch.server batch.points) hRest
      have hTaken := (h.write_ok_iff.mp hWrite).accepted_eq
      rw [History.entered_cons, loaded, List.map_cons, after_cons]
      change ∃ all, _ ∧ ((loaded _ history).tables.get source).rows server = _
      rw [Use.leaves, hRows, h.rows_write]
      by_cases hFor : Schema.fold batch.source = Schema.fold source ∧ batch.server = server
      · refine ⟨db.accepted batch.source batch.points ++ new, ?_, ?_⟩
        · rw [if_pos hFor, List.mapM_append, hTaken, hNew]
          rfl
        · rw [if_pos ⟨hFor.1.symm, hFor.2.symm⟩, Row.insertAll_append]
      · refine ⟨new, ?_, ?_⟩
        · rw [if_neg hFor]
          exact hNew
        · rw [if_neg fun hBoth => hFor ⟨hBoth.1.symm, hBoth.2.symm⟩]

theorem loaded_location (h : db.Sound) (history : History) :
    (db.loaded history).location = db.location :=
  h.after_location _

theorem loaded_sources (h : db.Sound) (history : History) :
    (db.loaded history).sources = db.sources :=
  h.after_sources _

/-- A row after a history was there before, or it was made of a point of one of the batches. -/
theorem mem_rows_loaded (h : db.Sound)
    (hMem : row ∈ ((db.loaded history).tables.get source).rows server) :
    row ∈ (db.tables.get source).rows server ∨
      ∃ batch ∈ history, ∃ p ∈ batch.points, Row.ofPoint p = .ok row := by
  induction history generalizing db with
  | nil => exact .inl hMem
  | cons batch history ih =>
      rcases ih (h.write batch.source batch.server batch.points) hMem with hBefore | hLater
      · rcases h.mem_rows_write hBefore with hOld | ⟨-, hMade⟩
        · exact .inl hOld
        · exact .inr ⟨batch, List.mem_cons_self, hMade⟩
      · obtain ⟨later, hLater, hMade⟩ := hLater
        exact .inr ⟨later, List.mem_cons_of_mem _ hLater, hMade⟩

/-- Accepted histories with the same last points leave databases that cannot be told apart. -/
theorem indistinct_of_last (h : db.Sound) (hAccepts : db.Accepts history)
    (hAccepts' : db.Accepts history')
    (hLast : ∀ source server p, Point.Last (history.entered source server) p ↔
      Point.Last (history'.entered source server) p) :
    Indistinct (db.loaded history) (db.loaded history') := by
  refine SameRows.indistinct ⟨h.after _, h.after _, fun server => ⟨?_, ?_, ?_⟩⟩
  · rw [h.loaded_location, h.loaded_location]
  · rw [h.loaded_sources, h.loaded_sources]
  · intro source
    obtain ⟨new, hNew, hRows⟩ := h.rows_loaded hAccepts source server
    obtain ⟨other, hOther, hRows'⟩ := h.rows_loaded hAccepts' source server
    rw [hRows, hRows']
    apply Row.insertAll_eq_of_final ((h.tables source).rows_descending server)
    intro row
    rw [Row.final_iff_last hNew, Row.final_iff_last hOther]
    simp only [hLast]

end Sound

/-- Rows that tell of the last points of some, the oldest first. The bucket of a row is that of its
point, and its time is that of the point if this knows its offset and lies in the era. -/
structure Ledger (points : List Point) (rows : List Row) : Prop where
  ascending : rows.Pairwise fun a b => a.bucket < b.bucket
  covered : ∀ p ∈ points, ∃ row ∈ rows, Bucket.ofTime p.time = .ok row.bucket
  told : ∀ row ∈ rows, ∃ p, Point.Last points p ∧ Bucket.ofTime p.time = .ok row.bucket ∧
    p.readings.Returned row.readings ∧
      (p.time.isAware = true → InEra p.time.sinceEpoch → row.bucket.toMicros = p.time.sinceEpoch)

/-- The rows of some points, written one after another, tell of the last of them. -/
theorem ledger_insertAll (hRows : points.mapM Row.ofPoint = .ok rows) :
    Ledger points (Row.insertAll [] rows).reverse := by
  have hNil : Row.Descending [] := List.Pairwise.nil
  have hMem : ∀ row, row ∈ (Row.insertAll [] rows).reverse ↔
      ∃ p, Point.Last points p ∧ Row.ofPoint p = .ok row := by
    intro row
    rw [List.mem_reverse, Row.mem_insertAll hNil, Row.final_iff_last hRows]
    simp
  constructor
  · rw [List.pairwise_reverse]
    exact hNil.insertAll rows
  · intro p hPoint
    obtain ⟨last, hLast, hTime⟩ : ∃ last, Point.Last points last ∧
        Bucket.ofTime last.time = Bucket.ofTime p.time := exists_lastBy hPoint
    obtain ⟨row, -, hRow⟩ := exists_mem_of_mapM hRows hLast.mem
    exact ⟨row, (hMem row).mpr ⟨last, hLast, hRow⟩, hTime ▸ (Row.ofPoint_eq_ok_iff.mp hRow).1⟩
  · intro row hIn
    obtain ⟨p, hLast, hRow⟩ := (hMem row).mp hIn
    obtain ⟨hTime, hReadings⟩ := Row.ofPoint_eq_ok_iff.mp hRow
    refine ⟨p, hLast, hTime, hReadings ▸ Row.returned_settle p.readings, ?_⟩
    intro hAware hEra
    rw [Bucket.ofTime_eq hAware, Except.ok.injEq] at hTime
    rw [← hTime, Bucket.toMicros_ofMicros hEra]

/-- A new database that accepted a history holds the ledger of it for each server of each source. -/
theorem ledger_loaded {location : Location} {sources : List String}
    (hAccepts : (new location sources).Accepts history) (source server : String) :
    Ledger (history.entered source server)
      ((((new location sources).loaded history).tables.get source).rows server).reverse := by
  obtain ⟨rows, hNew, hRows⟩ := (Sound.new location sources).rows_loaded hAccepts source server
  have hNone : ((new location sources).tables.get source).rows server = [] := by
    cases location <;> rfl
  rw [hRows, hNone]
  exact ledger_insertAll hNew

/-- The batches share no bucket of a server in a table. -/
def Apart (a b : Batch) : Prop :=
  ∀ p ∈ a.points, ∀ q ∈ b.points,
    ¬(Schema.fold a.source = Schema.fold b.source ∧ a.server = b.server ∧
      Bucket.ofTime p.time = Bucket.ofTime q.time)

/-- What writes to a database have in common with those to a map. -/
structure Overwrites (db : Database) : Prop where
  one_by_one : ∀ source server points, (db.write source server points).1 = .ok () →
    db.Accepts (.oneByOne source server points) ∧
      Indistinct (db.write source server points).2 (db.loaded (.oneByOne source server points))
  repeated : ∀ source server points, (db.write source server points).1 = .ok () →
    let written := (db.write source server points).2
    (written.write source server points).1 = .ok () ∧
      Indistinct (written.write source server points).2 written
  commuting : ∀ a b, Apart a b → db.Accepts [a, b] →
    db.Accepts [b, a] ∧ Indistinct (db.loaded [a, b]) (db.loaded [b, a])

theorem Sound.overwrites (h : db.Sound) : db.Overwrites where
  one_by_one source server points hWrite := by
    have hTakes : db.Takes ⟨source, server, points⟩ := h.write_ok_iff.mp hWrite
    have hSingles : db.Accepts (.oneByOne source server points) := by
      rw [h.accepts_iff]
      intro batch hBatch
      obtain ⟨p, hMem, rfl⟩ := List.mem_map.mp hBatch
      exact hTakes.single hMem
    have hWhole : db.Accepts [⟨source, server, points⟩] := ⟨hWrite, trivial⟩
    refine ⟨hSingles, h.indistinct_of_last hWhole hSingles fun other owner p => ?_⟩
    rw [History.entered_oneByOne, History.entered_singleton]
  repeated source server points hWrite := by
    have hTakes : db.Takes ⟨source, server, points⟩ := h.write_ok_iff.mp hWrite
    have hWhole : db.Accepts [⟨source, server, points⟩] := ⟨hWrite, trivial⟩
    have hTwice : db.Accepts [⟨source, server, points⟩, ⟨source, server, points⟩] :=
      h.accepts_iff.mpr (by simp [hTakes])
    refine ⟨hTwice.2.1, h.indistinct_of_last hTwice hWhole fun other owner p => ?_⟩
    rw [History.entered_cons, History.entered_singleton]
    exact lastBy_append_self
  commuting a b hApart hAccepts := by
    have hTakes := h.accepts_iff.mp hAccepts
    have hSwapped : db.Accepts [b, a] := by
      rw [h.accepts_iff]
      intro batch hMem
      exact hTakes batch (by simpa [or_comm] using hMem)
    refine ⟨hSwapped, h.indistinct_of_last hAccepts hSwapped fun other owner p => ?_⟩
    rw [History.entered_cons a [b], History.entered_cons b [a], History.entered_singleton,
      History.entered_singleton]
    apply lastBy_append_comm
    intro x hX y hY hSame
    obtain ⟨⟨hFold, hServer⟩, hA⟩ := List.mem_ite_nil_right.mp hX
    obtain ⟨⟨hFold', hServer'⟩, hB⟩ := List.mem_ite_nil_right.mp hY
    exact hApart x hA y hB ⟨hFold.trans hFold'.symm, hServer.trans hServer'.symm, hSame⟩

/-- A new database whose writes all succeeded is read, about each source that nothing keeps from its
table, by rows that tell of the last point of each bucket of each server: what is read of a row are
the readings of that point, at the time of the bucket. Writes to a database, however it was used
before, overwrite each other as those to a map. -/
theorem last_writer_wins (location : Location) (sources : List String) :
    (∀ history : History, (new location sources).Accepts history →
      ∀ source, (new location sources).refusal source = none →
        ∃ rows : String → List Row, ((new location sources).loaded history).Observes source rows ∧
          ∀ server, Ledger (history.entered source server) (rows server)) ∧
      ∀ uses, ((new location sources).after uses).Overwrites := by
  have h : (new location sources).Sound := .new location sources
  refine ⟨?_, fun uses => (h.after uses).overwrites⟩
  intro history hAccepts source hRefusal
  have hLoaded : ((new location sources).loaded history).refusal source = none := by
    rw [refusal_congr (h.loaded_location history) (h.loaded_sources history), hRefusal]
  exact ⟨_, (h.after _).observes hLoaded, ledger_loaded hAccepts source⟩

/-- Two points of one instant, told with different offsets. -/
def oneInstant : Batch :=
  ⟨"metrics_1m_avg", "web-1",
    [⟨Window.oneDay.stop, .zero⟩,
      ⟨⟨738000 * day + hour, some ⟨hour, by decide, by decide⟩, by decide⟩, { Readings.zero with samples := 2 }⟩]⟩

/-- A point of another instant. -/
def otherInstant : Batch := ⟨"metrics_1m_avg", "web-1", [⟨Window.oneDay.start, .zero⟩]⟩

theorem last_writer_wins_oneInstant :
    let db := new .memory ["metrics_1m_avg"]
    db.Accepts [oneInstant, otherInstant] ∧ Apart oneInstant otherInstant ∧
      db.refusal "metrics_1m_avg" = none ∧
      (∃ rows : String → List Row,
        (db.loaded [oneInstant, otherInstant]).Observes "metrics_1m_avg" rows ∧
          ∀ server, Ledger (History.entered [oneInstant, otherInstant] "metrics_1m_avg" server)
            (rows server)) ∧
      Indistinct (db.write "metrics_1m_avg" "web-1" oneInstant.points).2
        (db.loaded (.oneByOne "metrics_1m_avg" "web-1" oneInstant.points)) ∧
      Indistinct (db.loaded [oneInstant, otherInstant]) (db.loaded [otherInstant, oneInstant]) := by
  intro db
  have hAccepts : db.Accepts [oneInstant, otherInstant] := ⟨rfl, rfl, trivial⟩
  have hApart : Apart oneInstant otherInstant := by
    have hFirst : ∀ p ∈ oneInstant.points,
        Bucket.ofTime p.time = .ok (Bucket.ofMicros Window.oneDay.stop.sinceEpoch) := by
      intro p hMem
      fin_cases hMem <;> rfl
    have hOther : ∀ q ∈ otherInstant.points,
        Bucket.ofTime q.time = .ok (Bucket.ofMicros Window.oneDay.start.sinceEpoch) := by
      intro q hMem
      fin_cases hMem
      rfl
    rintro p hP q hQ ⟨-, -, hSame⟩
    rw [hFirst p hP, hOther q hQ] at hSame
    exact absurd (Except.ok.inj hSame) (by decide)
  obtain ⟨hLoaded, hUsed⟩ := last_writer_wins .memory ["metrics_1m_avg"]
  exact ⟨hAccepts, hApart, rfl, hLoaded _ hAccepts _ rfl, ((hUsed []).one_by_one _ _ _ rfl).2,
    ((hUsed []).commuting _ _ hApart hAccepts).2⟩

end Database

end Rollup
