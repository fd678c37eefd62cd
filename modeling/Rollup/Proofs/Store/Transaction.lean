import Mathlib
import Rollup.Proofs.Failure
import Rollup.Proofs.Store.Indistinct
import Rollup.Proofs.Time.Timestamp

/-!
Batches that fail. A batch that fails on a database in a file is never seen again, whatever is done
later. In a database in memory the rows in front of the one that does not fit stay, so such a batch
goes unseen only where these rows show nothing new.
-/
namespace Rollup.Database

/-- The rows that are written for points before one is met that does not fit. -/
def leading (points : List Point) : List Row :=
  match points.mapM Row.ofPoint with
  | .ok rows => rows.takeWhile Row.fits
  | .error _ => []

variable {db : Database} {source server : String} {points : List Point} {failure : Failure}

theorem exists_time_of_mem_leading {row : Row} (h : row ∈ leading points) :
    ∃ time, Bucket.ofTime time = .ok row.bucket := by
  unfold leading at h
  split at h
  · rename_i rows hRows
    obtain ⟨p, -, hRow⟩ := exists_of_mem_mapM hRows (List.takeWhile_subset _ h)
    obtain ⟨bucket, hTime, hRow⟩ := exists_of_bind_eq_ok hRow
    cases hRow
    exact ⟨p.time, hTime⟩
  · cases h

/-- No time fails as a number of samples does. -/
theorem mapM_ofPoint_ne (points : List Point) :
    points.mapM Row.ofPoint ≠ .error (.arithmetic .notStorable) := by
  induction points with
  | nil => exact nofun
  | cons p points ih =>
      have hFirst : Row.ofPoint p ≠ .error (.arithmetic .notStorable) := by
        rw [Row.ofPoint, Bucket.ofTime]
        split
        · exact nofun
        split <;> exact nofun
      rw [List.mapM_cons]
      cases hPoint : Row.ofPoint p with
      | error failure =>
          intro hError
          cases hError
          exact hFirst hPoint
      | ok row =>
          cases hRest : points.mapM Row.ofPoint with
          | error failure =>
              intro hError
              cases hError
              exact ih hRest
          | ok rows => exact nofun

theorem refusal_ne (db : Database) (source : String) :
    db.refusal source ≠ some (.arithmetic .notStorable) := by
  unfold refusal obstacle
  split
  · split <;> exact nofun
  · exact nofun

namespace Sound

/-- In memory, a batch that fails for a number of samples was written up to it. -/
theorem write_of_notStorable (h : db.Sound) (hMemory : db.location = .memory)
    (hError : (db.write source server points).1 = .error (.arithmetic .notStorable)) :
    db.refusal source = none ∧ (db.write source server points).2 =
      db.awake.keep (db.tables.set source
        ((db.tables.get source).putAll server (leading points))) := by
  rw [h.write_eq] at hError ⊢
  unfold leading
  cases hRefusal : db.refusal source with
  | some failure =>
      rw [hRefusal] at hError
      cases hError
      exact absurd hRefusal (refusal_ne db source)
  | none =>
      rw [hRefusal] at hError
      cases hRows : points.mapM Row.ofPoint with
      | error failure =>
          rw [hRows] at hError
          cases hError
          exact absurd hRows (mapM_ofPoint_ne points)
      | ok rows =>
          rw [hRows] at hError
          dsimp only at hError ⊢
          split at hError
          · cases hError
          · rename_i hAll
            rw [if_neg hAll, if_pos hMemory]
            exact ⟨rfl, rfl⟩

/-- Every other failure leaves nothing behind. -/
theorem alike_write_of_error (h : db.Sound)
    (hError : (db.write source server points).1 = .error failure)
    (hOther : db.location = .memory → failure ≠ .arithmetic .notStorable) :
    Alike (db.write source server points).2 db := by
  rw [h.write_eq] at hError ⊢
  split at hError
  · exact Alike.refl db
  split at hError
  · exact Alike.awake h
  · dsimp only at hError ⊢
    split at hError
    · cases hError
    · rename_i hAll
      cases hError
      have hFile : db.location ≠ .memory := fun hMemory => hOther hMemory rfl
      rw [if_neg hAll, if_neg hFile]
      exact Alike.awake h

end Sound

theorem toPoint_eq_of_points_eq {row other : Row} (h : Table.points [row] = Table.points [other]) :
    row.toPoint = other.toPoint := by
  have hOne : ∀ row : Row, Table.points [row] = row.toPoint.map fun p => [p] := by
    intro row
    rw [Table.points, List.mapM_cons, List.mapM_nil]
    cases row.toPoint <;> rfl
  rw [hOne, hOne] at h
  cases hRow : row.toPoint <;> cases hOther : other.toPoint <;> rw [hRow, hOther] at h <;>
    simp_all [Except.map]

/-- What a question about one bucket tells: the row that stands there. -/
theorem answer_at (h : db.Sound) (hRefusal : db.refusal source = none) {time : Timestamp}
    {bucket : Bucket} (hTime : Bucket.ofTime time = .ok bucket) (server : String) :
    (db.answer (.count source server ⟨time, time⟩)).1 =
        .ok (((db.tables.get source).between server bucket bucket).length : Int) ∧
      (db.answer (.range source server ⟨time, time⟩ 1)).1 =
        Table.points (((db.tables.get source).between server bucket bucket).take 1) := by
  have hEnds : ends ⟨time, time⟩ = .ok (bucket, bucket) := by
    rw [ends, hTime]
    rfl
  constructor
  · rw [answer, h.serve_of_refusal_eq_none hRefusal hEnds]
  · rw [answer, h.serve_of_refusal_eq_none hRefusal hEnds]
    rfl

/-- A row that a batch left is held before, if the batch goes unseen. -/
theorem held_of_indistinct {left : Database} (h : db.Sound) (hLeft : left.Sound)
    (hUnseen : Indistinct left db) (hRefusal : db.refusal source = none)
    (hLeftRefusal : left.refusal source = none) {time : Timestamp} {row : Row}
    (hTime : Bucket.ofTime time = .ok row.bucket)
    (hRow : row ∈ (left.tables.get source).rows server) :
    Row.Held ((db.tables.get source).rows server) row := by
  obtain ⟨hCount, hRange⟩ := answer_at h hRefusal hTime server
  obtain ⟨hLeftCount, hLeftRange⟩ := answer_at hLeft hLeftRefusal hTime server
  rw [(hLeft.tables source).between_of_mem hRow] at hLeftCount hLeftRange
  have hOne := hUnseen [] (.count source server ⟨time, time⟩)
  have hSame := hUnseen [] (.range source server ⟨time, time⟩ 1)
  rw [after_nil, after_nil] at hOne hSame
  rw [hCount, hLeftCount] at hOne
  have hSome : (db.tables.get source).between server row.bucket row.bucket ≠ [] := by
    intro hNil
    rw [hNil] at hOne
    cases hOne
  obtain ⟨held, hHeld, hBucket⟩ := Table.exists_mem_of_between_ne_nil hSome
  rw [← hBucket, (h.tables source).between_of_mem hHeld] at hRange
  rw [hRange, hLeftRange] at hSame
  refine ⟨held, hHeld, ?_⟩
  rw [Row.shown, Row.shown, hBucket, toPoint_eq_of_points_eq hSame]

/-- Rows that are put in place of such as show the same go unseen. -/
theorem alike_keep (h : db.Sound) (hRefusal : db.refusal source = none) {new : List Row}
    (hHeld : ∀ row, Row.Final new row → Row.Held ((db.tables.get source).rows server) row) :
    Alike (db.awake.keep (db.tables.set source ((db.tables.get source).putAll server new))) db := by
  have hFree : db.awake.obstacle = none :=
    (Alike.awake h).obstacle_eq.trans (refusal_eq_none hRefusal).2
  refine ⟨?_, ?_, ?_⟩
  · rw [keep_location, awake_location]
  · rw [keep_sources, awake_sources]
  · intro other
    rw [tables_keep (location_ne_unreachable hFree)]
    by_cases hFold : Schema.fold other = Schema.fold source
    · rw [Tables.get_set_of_eq hFold, Table.shown_putAll_of_held (h.tables source) hHeld,
        Tables.get, Tables.get, hFold]
    · rw [Tables.get_set_of_ne hFold]

/-- A batch that fails goes unseen, whatever is done later, in every database but one in memory
where a number of samples did not fit and some row in front of it shows what was not there. -/
theorem indistinct_write_of_error_iff (hReach : db.Reachable)
    (hError : (db.write source server points).1 = .error failure) :
    Indistinct (db.write source server points).2 db ↔
      (db.location = .memory → failure = .arithmetic .notStorable →
        ∀ row, Row.Final (leading points) row →
          Row.Held ((db.tables.get source).rows server) row) := by
  have h := hReach.sound
  have hLeft := h.write source server points
  by_cases hBroken : db.location = .memory ∧ failure = .arithmetic .notStorable
  · obtain ⟨hMemory, rfl⟩ := hBroken
    obtain ⟨hRefusal, hState⟩ := h.write_of_notStorable hMemory hError
    rw [hState] at hLeft ⊢
    constructor
    · intro hUnseen _ _ row hFinal
      obtain ⟨time, hTime⟩ := exists_time_of_mem_leading hFinal.mem
      have hFree : db.awake.location ≠ .unreachable := by
        rw [awake_location, hMemory]
        exact nofun
      refine held_of_indistinct h hLeft hUnseen hRefusal ?_ hTime ?_
      · rw [refusal_congr (keep_location _ _) (keep_sources _ _),
          refusal_congr (awake_location db) (awake_sources db)]
        exact hRefusal
      · rw [tables_keep hFree, Tables.get_set_of_eq rfl, Table.rows_putAll_self]
        exact (Row.mem_insertAll ((h.tables source).rows_descending server)).mpr (.inl hFinal)
    · intro hHeld
      exact (alike_keep h hRefusal (hHeld hMemory rfl)).indistinct hLeft h
  · have hOther : db.location = .memory → failure ≠ .arithmetic .notStorable :=
      fun hMemory hFailure => hBroken ⟨hMemory, hFailure⟩
    constructor
    · intro _ hMemory hFailure
      exact absurd hFailure (hOther hMemory)
    · intro _
      exact (h.alike_write_of_error hError hOther).indistinct hLeft h

/-- Two points at the ends of half an hour, the second with one sample more than fits. -/
def overfull : List Point := [
  ⟨Window.halfHour.start, .zero⟩,
  ⟨Window.halfHour.stop, { Readings.zero with samples := integerLimit }⟩]

/-- Where the first point was written before, the batch changes nothing that can be seen. -/
theorem indistinct_write_of_error_iff_overfull :
    let db := (new .memory ["metrics_1m_avg"]).after
      [.write ⟨"metrics_1m_avg", "web-1", overfull.take 1⟩]
    db.Reachable ∧
      (db.write "metrics_1m_avg" "web-1" overfull).1 = .error (.arithmetic .notStorable) ∧
        (Indistinct (db.write "metrics_1m_avg" "web-1" overfull).2 db ↔
          (db.location = .memory →
            Failure.arithmetic .notStorable = .arithmetic .notStorable →
              ∀ row, Row.Final (leading overfull) row →
                Row.Held ((db.tables.get "metrics_1m_avg").rows "web-1") row)) := by
  intro db
  have hReach : db.Reachable := ⟨_, _, _, rfl⟩
  have hError : (db.write "metrics_1m_avg" "web-1" overfull).1 =
      .error (.arithmetic .notStorable) := rfl
  exact ⟨hReach, hError, indistinct_write_of_error_iff hReach hError⟩

/-- In a new database in memory the first point is counted after the batch failed. -/
theorem not_indistinct_write_overfull :
    let db := new .memory ["metrics_1m_avg"]
    db.Reachable ∧
      (db.write "metrics_1m_avg" "web-1" overfull).1 = .error (.arithmetic .notStorable) ∧
        ¬Indistinct (db.write "metrics_1m_avg" "web-1" overfull).2 db := by
  intro db
  refine ⟨⟨.memory, ["metrics_1m_avg"], [], rfl⟩, rfl, ?_⟩
  intro hUnseen
  have hCount : (Except.ok 1 : Except Failure Int) = .ok 0 :=
    hUnseen [] (.count "metrics_1m_avg" "web-1" .halfHour)
  cases hCount

end Rollup.Database
