import Mathlib
import Rollup.Proofs.Store.Bucket
import Rollup.Proofs.Store.Chronicle
import Rollup.Proofs.Store.Database

/-!
Databases that keep up with a history. Where every point that is written can be stored and no two of
one server share a time, the rows of a server are those of its points, one for each.
-/
namespace Rollup

/-- The six values. -/
def PerMetric.toList {α : Type} (t : PerMetric α) : List α :=
  [t.cpu, t.memory, t.disk, t.network, t.temperature, t.load]

namespace Readings

/-- All numbers of some readings. -/
def numbers (r : Readings) : List Float :=
  r.mean.toList ++ r.peak.toList ++ [r.low.cpu, r.low.memory] ++ r.low.disk.toList ++
    r.low.network.toList

/-- No number is undefined or a negative zero. -/
def Plain (r : Readings) : Prop :=
  ∀ x ∈ r.numbers, x.isNaN = false ∧ Number.Binary64.isNegativeZero x = false

instance (r : Readings) : Decidable r.Plain := inferInstanceAs (Decidable (∀ _ ∈ _, _))

end Readings

/-- A point that a database gives back as it is. -/
structure Point.Storable (p : Point) : Prop where
  aware : p.time.isAware = true
  inEra : InEra p.time.sinceEpoch
  plain : p.readings.Plain
  fits : Database.fits p.readings.samples = true

/-- The row of a point that can be stored. -/
def Point.row (p : Point) : Row := ⟨Bucket.ofMicros p.time.sinceEpoch, p.readings⟩

/-- A history that a database over some sources keeps up with. -/
structure History.Storable (history : History) (sources : List String) : Prop where
  known : ∀ batch ∈ history, batch.source ∈ sources
  storable : ∀ batch ∈ history, ∀ p ∈ batch.points, p.Storable
  apart : ∀ source server, (history.written source server).Pairwise fun a b =>
    a.time.position ≠ b.time.position

/-- Sources whose tables can be made, one for each. -/
structure Schema.Sound (sources : List String) : Prop where
  made : fault? sources = none
  apart : ∀ a ∈ sources, ∀ b ∈ sources, fold a = fold b → a = b

/-- The rows of every server are those of its points. -/
structure Database.Mirrors (db : Database) (history : History) : Prop where
  sound : db.Sound
  free : db.obstacle = none
  mem_rows : ∀ source ∈ db.sources, ∀ server row,
    row ∈ (db.tables.get source).rows server ↔ ∃ p ∈ history.written source server, p.row = row

namespace Row

theorem stored_eq {x : Float} (h : x.isNaN = false ∧ Number.Binary64.isNegativeZero x = false) :
    stored x = some x := by
  rw [stored, h.1, h.2]
  rfl

theorem settle_eq {r : Readings} (h : r.Plain) : settle r = r := by
  have hStored : ∀ x ∈ r.numbers, stored x = some x := fun x hMem => stored_eq (h x hMem)
  have hSettled : ∀ x ∈ r.numbers, settled x = x := by
    intro x hMem
    rw [settled, hStored x hMem]
    rfl
  obtain ⟨mean, peak, ⟨cpu, memory, disk, network⟩, samples⟩ := r
  cases disk <;> cases network <;>
    simp_all [settle, Readings.numbers, PerMetric.toList, PerMetric.map]

theorem ofPoint_eq {p : Point} (h : p.Storable) : ofPoint p = .ok p.row := by
  rw [ofPoint, Bucket.ofTime_eq h.aware, settle_eq h.plain]
  rfl

theorem mapM_ofPoint {points : List Point} (h : ∀ p ∈ points, p.Storable) :
    points.mapM ofPoint = .ok (points.map Point.row) := by
  induction points with
  | nil => rfl
  | cons p points ih =>
      obtain ⟨hFirst, hRest⟩ := List.forall_mem_cons.mp h
      rw [List.mapM_cons, ofPoint_eq hFirst, ih hRest]
      rfl

/-- Rows of some points, after the rows of others with buckets of their own were written. -/
theorem mem_insertAll_map {rows : List Row} {old new : List Point} {row : Row}
    (h : Descending rows) (hRows : row ∈ rows ↔ ∃ p ∈ old, p.row = row)
    (hApart : (old ++ new).Pairwise fun a b => b.row.bucket ≠ a.row.bucket) :
    row ∈ insertAll rows (new.map Point.row) ↔ ∃ p ∈ old ++ new, p.row = row := by
  obtain ⟨-, hNew, hOld⟩ := List.pairwise_append.mp hApart
  have hFinal : Final (new.map Point.row) row ↔ row ∈ new.map Point.row :=
    final_iff_mem (List.pairwise_map.mpr hNew)
  rw [mem_insertAll h, hFinal, hRows]
  constructor
  · rintro (hMem | ⟨⟨p, hPoint, hRow⟩, -⟩)
    · obtain ⟨p, hPoint, hRow⟩ := List.mem_map.mp hMem
      exact ⟨p, List.mem_append_right _ hPoint, hRow⟩
    · exact ⟨p, List.mem_append_left _ hPoint, hRow⟩
  · rintro ⟨p, hMem, rfl⟩
    rcases List.mem_append.mp hMem with hPoint | hPoint
    · refine .inr ⟨⟨p, hPoint, rfl⟩, ?_⟩
      intro written hWritten
      obtain ⟨q, hLater, rfl⟩ := List.mem_map.mp hWritten
      exact hOld p hPoint q hLater
    · exact .inl (List.mem_map_of_mem hPoint)

end Row

namespace History

variable {history : History} {source server : String}

theorem written_append (done history : History) (source server : String) :
    History.written (done ++ history) source server =
      done.written source server ++ history.written source server := by
  rw [written, List.flatMap_append]
  rfl

theorem written_singleton_self (batch : Batch) :
    History.written [batch] batch.source batch.server = batch.points := by
  simp [written, Memory.Batch.pointsFor]

theorem written_singleton_of_ne {batch : Batch}
    (h : ¬(batch.source = source ∧ batch.server = server)) :
    History.written [batch] source server = [] := by
  simp [written, Memory.Batch.pointsFor, h]

namespace Storable

variable {sources : List String} (h : history.Storable sources)
include h

theorem storable_of_mem_written {p : Point} (hMem : p ∈ history.written source server) :
    p.Storable := by
  obtain ⟨batch, hBatch, -, -, hPoint⟩ := exists_batch_of_mem_written hMem
  exact h.storable batch hBatch p hPoint

theorem of_append {done : History} {rest : History} (hHistory : history = done ++ rest) :
    History.Storable done sources := by
  subst hHistory
  refine ⟨fun batch hMem => h.known batch (List.mem_append_left _ hMem),
    fun batch hMem => h.storable batch (List.mem_append_left _ hMem), fun source server => ?_⟩
  have hApart := h.apart source server
  rw [written_append] at hApart
  exact (List.pairwise_append.mp hApart).1

/-- Points of one server have buckets of their own. -/
theorem buckets_apart (source server : String) :
    (history.written source server).Pairwise fun a b => b.row.bucket ≠ a.row.bucket := by
  refine List.Pairwise.imp_of_mem ?_ (h.apart source server)
  intro a b hA hB hApart hBucket
  have hSame := Bucket.ofMicros_inj (h.storable_of_mem_written hB).inEra hBucket
  rw [Timestamp.sinceEpoch, Timestamp.sinceEpoch] at hSame
  omega

end Storable

end History

namespace Database.Mirrors

variable {db : Database} {done history : History} {source server : String}

theorem new {location : Location} {sources : List String} (hSources : Schema.Sound sources)
    (hLocation : location ≠ .unreachable) : (Database.new location sources).Mirrors [] where
  sound := .new location sources
  free := by
    rw [obstacle, Database.new, hSources.made]
    cases location with
    | memory => rfl
    | file => rfl
    | unreachable => exact absurd rfl hLocation
  mem_rows source _ server row := by
    have hTables : (Database.new location sources).tables = [] := by cases location <;> rfl
    rw [hTables]
    simp [Tables.get, Table.rows, Entries.find?, History.written]

theorem refusal_eq (h : db.Mirrors done) (hSource : source ∈ db.sources) :
    db.refusal source = none := by
  rw [refusal, if_pos (List.contains_iff_mem.mpr hSource), h.free]

/-- A write goes through, and the database goes on to keep up. -/
theorem write (h : db.Mirrors done) (hSources : Schema.Sound db.sources) {batch : Batch}
    (hHistory : History.Storable (done ++ [batch]) db.sources) :
    (db.write batch.source batch.server batch.points).1 = .ok () ∧
      (db.write batch.source batch.server batch.points).2.sources = db.sources ∧
        (db.write batch.source batch.server batch.points).2.Mirrors (done ++ [batch]) := by
  have hLast : batch ∈ done ++ [batch] := by simp
  have hKnown := hHistory.known batch hLast
  have hStorable := hHistory.storable batch hLast
  have hFits : (batch.points.map Point.row).all Row.fits = true := by
    rw [List.all_eq_true]
    intro row hRow
    obtain ⟨p, hPoint, rfl⟩ := List.mem_map.mp hRow
    exact (hStorable p hPoint).fits
  have hAll : (batch.points.map Point.row).takeWhile Row.fits = batch.points.map Point.row :=
    List.takeWhile_eq_self_iff.mpr (List.all_eq_true.mp hFits)
  have hWrite := h.sound.write_eq batch.source batch.server batch.points
  rw [h.refusal_eq hKnown, Row.mapM_ofPoint hStorable] at hWrite
  dsimp only at hWrite
  rw [if_pos hFits, hAll] at hWrite
  have hSound := h.sound.write batch.source batch.server batch.points
  rw [hWrite] at hSound ⊢
  have hPlace : db.awake.location ≠ .unreachable := by
    rw [awake_location]
    exact location_ne_unreachable h.free
  refine ⟨rfl, ?_, hSound, ?_, ?_⟩
  · rw [keep_sources, awake_sources]
  · rw [obstacle, keep_location, keep_sources, awake_location, awake_sources]
    exact h.free
  · rw [keep_sources, awake_sources, tables_keep hPlace]
    intro source hSource server row
    rw [History.written_append]
    by_cases hFor : batch.source = source ∧ batch.server = server
    · obtain ⟨rfl, rfl⟩ := hFor
      have hApart := hHistory.buckets_apart batch.source batch.server
      rw [History.written_append, History.written_singleton_self] at hApart
      rw [History.written_singleton_self, Tables.get_set_of_eq rfl, Table.rows_putAll_self]
      exact Row.mem_insertAll_map ((h.sound.tables batch.source).rows_descending batch.server)
        (h.mem_rows batch.source hSource batch.server row) hApart
    · rw [History.written_singleton_of_ne hFor, List.append_nil, ← h.mem_rows source hSource]
      by_cases hSame : source = batch.source
      · subst hSame
        have hServer : server ≠ batch.server := fun hServer => hFor ⟨rfl, hServer.symm⟩
        rw [Tables.get_set_of_eq rfl, Table.rows_putAll_of_ne hServer]
      · have hFold : Schema.fold source ≠ Schema.fold batch.source :=
          fun hFold => hSame (hSources.apart source hSource batch.source hKnown hFold)
        rw [Tables.get_set_of_ne hFold]

/-- After every history that it can keep up with, a database holds the rows of its points. -/
theorem load (h : db.Mirrors done) (hSources : Schema.Sound db.sources)
    (hHistory : History.Storable (done ++ history) db.sources) :
    ∃ db' : Database, (Store.database db).load history = .database db' ∧
      db'.sources = db.sources ∧ db'.Mirrors (done ++ history) := by
  induction history generalizing done db with
  | nil =>
      rw [List.append_nil]
      exact ⟨db, rfl, rfl, h⟩
  | cons batch history ih =>
      have hSplit : done ++ batch :: history = (done ++ [batch]) ++ history := by simp
      rw [hSplit] at hHistory ⊢
      obtain ⟨-, hSame, hNext⟩ := h.write hSources (hHistory.of_append rfl)
      rw [← hSame] at hSources hHistory
      obtain ⟨db', hLoad, hKept, hMirrors⟩ := ih hNext hSources hHistory
      exact ⟨db', hLoad, hKept.trans hSame, hMirrors⟩

/-- The rows of a server are those of its points, from the newest to the oldest. -/
theorem rows_eq (h : db.Mirrors history) (hHistory : history.Storable db.sources)
    (hSource : source ∈ db.sources) (server : String) :
    (db.tables.get source).rows server =
      ((chronological (history.written source server)).map Point.row).reverse := by
  have hChronicle := chronicle_chronological (history.written source server)
  refine Row.eq_of_mem_iff_of_pairwise ((h.sound.tables source).rows_descending server) ?_ ?_
  · rw [List.pairwise_reverse, List.pairwise_map]
    have hApart : (chronological (history.written source server)).Pairwise
        fun a b => b.row.bucket ≠ a.row.bucket :=
      (hHistory.buckets_apart source server).perm hChronicle.perm.symm fun hNe => hNe.symm
    refine List.Pairwise.imp_of_mem ?_ (hChronicle.sorted.and hApart)
    intro a b hA hB hOrder
    have hInEra := (hHistory.storable_of_mem_written (hChronicle.mem_iff.mp hA)).inEra
    refine lt_of_le_of_ne ((Bucket.ofMicros_le_ofMicros_iff hInEra).mpr ?_) hOrder.2.symm
    rw [Timestamp.sinceEpoch, Timestamp.sinceEpoch]
    omega
  · intro row
    rw [h.mem_rows source hSource, List.mem_reverse, List.mem_map]
    constructor
    · rintro ⟨p, hMem, rfl⟩
      exact ⟨p, hChronicle.mem_iff.mpr hMem, rfl⟩
    · rintro ⟨p, hMem, rfl⟩
      exact ⟨p, hChronicle.mem_iff.mp hMem, rfl⟩

end Database.Mirrors

end Rollup
