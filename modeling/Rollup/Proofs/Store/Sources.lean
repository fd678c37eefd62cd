import Mathlib
import Rollup.Policy
import Rollup.Proofs.Store.LastWriter
import Rollup.Proofs.Time.Timestamp

/-!
Sources in one database. The names of its sources are told apart letter by letter, but the tables are
found by folded name. So a write to one source is never seen by a read of another exactly if their
names differ in more than the case of their letters.
-/
namespace Rollup.Database

variable {db db' : Database} {source other server : String} {points : List Point}

namespace Sound

/-- A write leaves the tables of other folded names as they are. -/
theorem get_write_of_ne (h : db.Sound) (hFold : Schema.fold other ≠ Schema.fold source)
    (server : String) (points : List Point) :
    (db.write source server points).2.tables.get other = db.tables.get other := by
  rw [h.write_eq]
  cases hRefusal : db.refusal source with
  | some failure => rfl
  | none =>
      have hPlace := awake_location_ne_unreachable hRefusal
      cases points.mapM Row.ofPoint with
      | error failure => exact congrArg (Tables.get · other) h.tables_awake
      | ok rows =>
          have hKeep : ∀ table, (db.awake.keep (db.tables.set source table)).tables.get other =
              db.tables.get other := by
            intro table
            rw [tables_keep hPlace, Tables.get_set_of_ne hFold]
          dsimp only
          split
          · exact hKeep _
          split
          · exact hKeep _
          · exact congrArg (Tables.get · other) h.tables_awake

/-- Databases with one place, the same sources and the same table for a question answer it alike. -/
theorem answer_eq_of_get (h : db.Sound) (h' : db'.Sound) (hLocation : db.location = db'.location)
    (hSources : db.sources = db'.sources) {question : Read}
    (hTable : db.tables.get question.source = db'.tables.get question.source) :
    (db.answer question).1 = (db'.answer question).1 := by
  have hServe : ∀ {α β : Type} (needed : Except Failure β) (query : β → Table → Except Failure α),
      (db.serve question.source needed query).1 = (db'.serve question.source needed query).1 :=
    fun needed query => h.serve_congr h' hLocation hSources needed fun terms => by rw [hTable]
  cases question <;> exact hServe _ _

end Sound

/-- There is a server for which a table has no rows. -/
theorem exists_fresh {table : Table} (h : table.Sound) : ∃ server, table.rows server = [] := by
  obtain ⟨server, hFresh⟩ := Infinite.exists_notMem_finset (table.map Prod.fst).toFinset
  rw [List.mem_toFinset, h.mem_keys_iff, ne_eq, not_not] at hFresh
  exact ⟨server, hFresh⟩

/-- A point by which to find out what a write reaches. -/
def probe : Point := ⟨Window.oneDay.stop, .zero⟩

def probeRow : Row := ⟨Bucket.ofMicros probe.time.sinceEpoch, Row.settle .zero⟩

/-- The question that counts the probe. -/
def probeQuestion (source server : String) : Read := .count source server ⟨probe.time, probe.time⟩

/-- Where a server has no rows, a probe is counted once it is written. -/
theorem count_probe (h : db.Sound) (hRefusal : db.refusal source = none) {rows : List Row}
    (hRows : (db.tables.get source).rows server = rows) :
    (db.answer (probeQuestion source server)).1 = .ok ((rows.reverse.filter fun row =>
      probeRow.bucket ≤ row.bucket ∧ row.bucket ≤ probeRow.bucket).length : Int) := by
  subst hRows
  exact (h.observes hRefusal).count server _

/-- No write to a source is seen by any read of another exactly if their folded names differ. -/
theorem write_unseen_iff {a b : String} (hReach : db.Reachable) (hFree : db.obstacle = none)
    (hA : a ∈ db.sources) (hB : b ∈ db.sources) :
    (∀ server points, (db.write a server points).1 = .ok () →
      ∀ question : Read, question.source = b →
        ((db.write a server points).2.answer question).1 = (db.answer question).1) ↔
      Schema.fold a ≠ Schema.fold b := by
  have h := hReach.sound
  constructor
  · intro hUnseen hFold
    have hRefusalA : db.refusal a = none := by
      rw [refusal, if_pos (List.contains_iff_mem.mpr hA), hFree]
    have hRefusalB : db.refusal b = none := by
      rw [refusal, if_pos (List.contains_iff_mem.mpr hB), hFree]
    obtain ⟨server, hFresh⟩ := exists_fresh (h.tables b)
    have hTakes : db.Takes ⟨a, server, [probe]⟩ := ⟨hRefusalA, [probeRow], rfl, rfl⟩
    have hAccepted : db.accepted a [probe] = [probeRow] :=
      (Except.ok.inj hTakes.accepted_eq).symm
    have hAfter : ((db.write a server [probe]).2.tables.get b).rows server = [probeRow] := by
      rw [h.rows_write, if_pos ⟨hFold.symm, rfl⟩, hFresh, hAccepted]
      rfl
    have hRefusal : (db.write a server [probe]).2.refusal b = none := by
      rw [refusal_congr (h.write_location _ _ _) (h.write_sources _ _ _), hRefusalB]
    have hSame := hUnseen server [probe] (h.write_ok_iff.mpr hTakes) (probeQuestion b server) rfl
    rw [count_probe (h.write a server [probe]) hRefusal hAfter,
      count_probe h hRefusalB hFresh] at hSame
    have hCounts : (1 : Int) = 0 := Except.ok.inj hSame
    exact absurd hCounts (by decide)
  · intro hFold server points _ question hSource
    apply (h.write a server points).answer_eq_of_get h (h.write_location a server points)
      (h.write_sources a server points)
    rw [hSource]
    exact h.get_write_of_ne (Ne.symm hFold) server points

/-- Of three sources, the second and the first have one table, and the third has its own. -/
theorem write_unseen_iff_apart :
    let db := new .memory ["metrics_a", "METRICS_A", "metrics_b"]
    db.Reachable ∧ db.obstacle = none ∧ "metrics_a" ∈ db.sources ∧ "metrics_b" ∈ db.sources ∧
      ((∀ server points, (db.write "metrics_a" server points).1 = .ok () →
        ∀ question : Read, question.source = "metrics_b" →
          ((db.write "metrics_a" server points).2.answer question).1 = (db.answer question).1) ↔
        Schema.fold "metrics_a" ≠ Schema.fold "metrics_b") := by
  intro db
  have hReach : db.Reachable := ⟨.memory, ["metrics_a", "METRICS_A", "metrics_b"], [], rfl⟩
  have hA : "metrics_a" ∈ db.sources := by decide
  have hB : "metrics_b" ∈ db.sources := by decide
  exact ⟨hReach, rfl, hA, hB, write_unseen_iff hReach rfl hA hB⟩

/-- Two sources with names of letters in different case: what is written to the first is counted for
the second. -/
theorem not_write_unseen_cased :
    let db := new .memory ["metrics_a", "METRICS_A"]
    let written := (db.write "metrics_a" "web-1" [probe]).2
    db.Reachable ∧ db.obstacle = none ∧ "metrics_a" ≠ "METRICS_A" ∧
      isSourceName "metrics_a" = true ∧ isSourceName "METRICS_A" = true ∧
      (db.write "metrics_a" "web-1" [probe]).1 = .ok () ∧
      (db.answer (probeQuestion "METRICS_A" "web-1")).1 = .ok (0 : Int) ∧
      (written.answer (probeQuestion "METRICS_A" "web-1")).1 = .ok (1 : Int) :=
  ⟨⟨.memory, ["metrics_a", "METRICS_A"], [], rfl⟩, rfl, by decide, by decide, by decide, rfl, rfl,
    rfl⟩

end Rollup.Database
