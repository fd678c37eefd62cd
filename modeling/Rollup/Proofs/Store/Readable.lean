import Mathlib
import Rollup.Proofs.Number.Nearest
import Rollup.Proofs.Store.Agreement
import Rollup.Proofs.Store.LastWriter

/-!
Which stored times can be read. Every time with an offset can be stored, but only values in the
calendar can be read back, and rounding or an offset may lead out of it at both ends. Storing and
reading keep the order of times, so the times that can be read lie between two bounds, and the figures
of a table can be read only if all of its rows can.
-/
namespace Rollup

namespace Bucket

open Number

theorem nearest_mono {a b : Int} {den : Nat} (hDen : 0 < den) (h : a ≤ b) :
    nearest a den ≤ nearest b den := by
  have hNat : ∀ {m n : Nat}, m ≤ n → (round53 m den : Int) ≤ round53 n den :=
    fun hLe => by exact_mod_cast round53_mono hDen hLe
  obtain ⟨m, rfl | rfl⟩ := Int.eq_nat_or_neg a <;> obtain ⟨n, rfl | rfl⟩ := Int.eq_nat_or_neg b
  · rw [nearest_natCast, nearest_natCast]
    exact hNat (by omega)
  · have hZero : m = 0 ∧ n = 0 := by omega
    rw [hZero.1, hZero.2]
    exact le_refl _
  · rw [nearest_neg, nearest_natCast, nearest_natCast]
    omega
  · rw [nearest_neg, nearest_neg, nearest_natCast, nearest_natCast]
    exact Int.neg_le_neg (hNat (by omega))

/-- Stored times keep the order of the instants, inside the era and outside. -/
theorem ofMicros_mono {a b : Int} (h : a ≤ b) : ofMicros a ≤ ofMicros b :=
  nearest_mono (by decide) (Int.mul_le_mul_of_nonneg_right h (Int.natCast_nonneg perSecond))

/-- The microseconds that are read from a fraction of a second. -/
def ofFraction (fraction : Int) : Int := divNearest (nearest (fraction * second) 1) perSecond

theorem ofFraction_mono {a b : Int} (h : a ≤ b) : ofFraction a ≤ ofFraction b :=
  divNearest_mono (by decide) (nearest_mono (by decide)
    (Int.mul_le_mul_of_nonneg_right h (Int.natCast_nonneg second)))

/-- A fraction is read as at most a second, on its side of zero. -/
theorem ofFraction_bounds (b : Int) :
    (0 ≤ b → 0 ≤ ofFraction (b.tmod perSecond) ∧ ofFraction (b.tmod perSecond) ≤ second) ∧
      (b ≤ 0 → -(second : Int) ≤ ofFraction (b.tmod perSecond) ∧
        ofFraction (b.tmod perSecond) ≤ 0) := by
  have hSize := natAbs_fraction_lt b
  have hZero : ofFraction 0 = 0 := by decide
  have hSecond : ofFraction (2 ^ 72) = second := by decide
  have hBack : ofFraction (-2 ^ 72) = -second := by decide
  rw [← hSecond, ← hZero]
  constructor
  · intro hPos
    have hFraction := (fraction_sign b).1 hPos
    exact ⟨ofFraction_mono hFraction, ofFraction_mono (by omega)⟩
  · intro hNeg
    have hFraction := (fraction_sign b).2 hNeg
    rw [hSecond, ← hBack]
    exact ⟨ofFraction_mono (by omega), ofFraction_mono hFraction⟩

/-- Of two stored times the later has more whole seconds, or as many and no less of a fraction. -/
theorem whole_lt_or_fraction_le {a b : Int} (h : a ≤ b) :
    a.tdiv perSecond < b.tdiv perSecond ∨
      a.tdiv perSecond = b.tdiv perSecond ∧ a.tmod perSecond ≤ b.tmod perSecond := by
  have hPerSecond : (perSecond : Int) = 2 ^ 72 := by norm_num [perSecond]
  have hSplitA := Int.mul_tdiv_add_tmod a perSecond
  have hSplitB := Int.mul_tdiv_add_tmod b perSecond
  have hSizeA := natAbs_fraction_lt a
  have hSizeB := natAbs_fraction_lt b
  obtain ⟨hPosA, hNegA⟩ := fraction_sign a
  obtain ⟨hPosB, hNegB⟩ := fraction_sign b
  generalize a.tdiv perSecond = wholeA at *
  generalize b.tdiv perSecond = wholeB at *
  generalize a.tmod perSecond = fractionA at *
  generalize b.tmod perSecond = fractionB at *
  rw [hPerSecond] at hSplitA hSplitB
  omega

/-- Times are read in the order in which they are stored: no fraction reaches into another second. -/
theorem toMicros_mono {a b : Int} (h : a ≤ b) : toMicros a ≤ toMicros b := by
  have hSecond : (second : Int) = 1000000 := rfl
  obtain ⟨hPosA, hNegA⟩ := ofFraction_bounds a
  obtain ⟨hPosB, hNegB⟩ := ofFraction_bounds b
  change a.tdiv perSecond * second + ofFraction (a.tmod perSecond) ≤
    b.tdiv perSecond * second + ofFraction (b.tmod perSecond)
  rw [hSecond] at hPosA hNegA hPosB hNegB ⊢
  rcases whole_lt_or_fraction_le h with hLater | ⟨hSame, hFraction⟩
  · generalize ofFraction (a.tmod perSecond) = readA at *
    generalize ofFraction (b.tmod perSecond) = readB at *
    generalize a.tdiv perSecond = wholeA at *
    generalize b.tdiv perSecond = wholeB at *
    omega
  · rw [hSame]
    exact Int.add_le_add_left (ofFraction_mono hFraction) _

/-- The bucket has a time in the calendar. -/
def Readable (b : Bucket) : Prop := ∃ time, b.toTime = .ok time

/-- A bucket can be read exactly if its microseconds lie in the calendar. -/
theorem readable_iff {b : Bucket} :
    b.Readable ↔ 0 ≤ b.toMicros + Timestamp.epoch ∧
      b.toMicros + Timestamp.epoch < (Calendar.dayCount * day : Nat) := by
  rw [← Timestamp.isSome_ofWall?_iff, Readable, toTime]
  cases Timestamp.ofWall? (b.toMicros + Timestamp.epoch) (some .zero) with
  | none => simp
  | some time => simp

/-- What lies between buckets that can be read can be read. -/
theorem Readable.between {first b last : Int} (hFirst : Readable first) (hLast : Readable last)
    (hLow : first ≤ b) (hHigh : b ≤ last) : Readable b := by
  rw [readable_iff] at hFirst hLast ⊢
  have hAfter := toMicros_mono hLow
  have hBefore := toMicros_mono hHigh
  omega

end Bucket

namespace Timestamp

/-- What is stored for the timestamp can be read. -/
def Readable (t : Timestamp) : Prop := ∃ bucket, Bucket.ofTime t = .ok bucket ∧ bucket.Readable

/-- A timestamp with an offset can be read from three microseconds before the calendar until sixteen
microseconds before its end, by universal time. -/
theorem readable_iff {t : Timestamp} (hAware : t.isAware = true) :
    t.Readable ↔ -4 < t.position ∧ t.position < (Calendar.dayCount * day : Nat) - 15 := by
  have hStored : t.Readable ↔ (Bucket.ofMicros t.sinceEpoch).Readable := by
    rw [Readable, Bucket.ofTime_eq hAware]
    simp
  have hOrder : ∀ {a b : Int}, a ≤ b →
      (Bucket.ofMicros (a - epoch)).toMicros ≤ (Bucket.ofMicros (b - epoch)).toMicros :=
    fun h => Bucket.toMicros_mono (Bucket.ofMicros_mono (Int.sub_le_sub_right h _))
  rw [hStored, Bucket.readable_iff, sinceEpoch]
  -- By the order, each bound needs only the two neighbouring times, which are computed.
  constructor
  · rintro ⟨hLow, hHigh⟩
    constructor
    · by_contra hBefore
      have hEarly : (Bucket.ofMicros (-4 - epoch)).toMicros + epoch < 0 := by decide
      have := hOrder (not_lt.mp hBefore)
      omega
    · by_contra hAfter
      have hLate : ((Calendar.dayCount * day : Nat) : Int) ≤
          (Bucket.ofMicros (((Calendar.dayCount * day : Nat) - 15) - epoch)).toMicros + epoch := by
        decide
      have := hOrder (not_lt.mp hAfter)
      omega
  · rintro ⟨hLow, hHigh⟩
    constructor
    · have hFirst : 0 ≤ (Bucket.ofMicros (-3 - epoch)).toMicros + epoch := by decide
      have := hOrder (show -3 ≤ t.position by omega)
      omega
    · have hLast : (Bucket.ofMicros (((Calendar.dayCount * day : Nat) - 16) - epoch)).toMicros +
          epoch < (Calendar.dayCount * day : Nat) := by
        decide
      have := hOrder (show t.position ≤ (Calendar.dayCount * day : Nat) - 16 by omega)
      omega

end Timestamp

theorem Row.exists_toPoint_iff {row : Row} :
    (∃ p, row.toPoint = .ok p) ↔ row.bucket.Readable := by
  rw [toPoint, exists_bind_eq_ok_iff]
  constructor
  · rintro ⟨time, hTime, -⟩
    exact ⟨time, hTime⟩
  · rintro ⟨time, hTime⟩
    exact ⟨time, hTime, _, rfl⟩

namespace Table

/-- Rows are told exactly if each of them can be read. -/
theorem exists_points_iff {rows : List Row} :
    (∃ told, points rows = .ok told) ↔ ∀ row ∈ rows, row.bucket.Readable := by
  rw [points, exists_mapM_eq_ok_iff]
  simp only [Row.exists_toPoint_iff]

theorem exists_mapM_toTime_iff {bucket : Option Bucket} :
    (∃ time, bucket.mapM Bucket.toTime = .ok time) ↔ ∀ b ∈ bucket, b.Readable := by
  cases bucket with
  | none => exact iff_of_true ⟨none, rfl⟩ nofun
  | some b =>
      rw [Option.mapM_some]
      cases hRead : b.toTime with
      | ok time =>
          refine iff_of_true ⟨some time, rfl⟩ ?_
          rintro _ ⟨⟩
          exact ⟨time, hRead⟩
      | error failure =>
          refine iff_of_false ?_ fun h => ?_
          · rintro ⟨time, hTime⟩
            cases hTime
          · obtain ⟨time, hTime⟩ := h b rfl
            cases hRead.symm.trans hTime

/-- The ends of a table are told exactly if each of its rows can be read, since these lie between
them. -/
theorem exists_figures_iff {servers : List String} {buckets : List Bucket} :
    (∃ held, figures servers buckets = .ok held) ↔ ∀ b ∈ buckets, b.Readable := by
  have hEnds : (∃ held, figures servers buckets = .ok held) ↔
      (∀ b ∈ buckets.min?, b.Readable) ∧ ∀ b ∈ buckets.max?, b.Readable := by
    rw [figures, exists_bind_eq_ok_iff, ← exists_mapM_toTime_iff, ← exists_mapM_toTime_iff]
    constructor
    · rintro ⟨earliest, hEarliest, hRest⟩
      obtain ⟨latest, hLatest, -⟩ := exists_bind_eq_ok_iff.mp hRest
      exact ⟨⟨earliest, hEarliest⟩, latest, hLatest⟩
    · rintro ⟨⟨earliest, hEarliest⟩, latest, hLatest⟩
      exact ⟨earliest, hEarliest, exists_bind_eq_ok_iff.mpr ⟨latest, hLatest, _, rfl⟩⟩
  rw [hEnds]
  constructor
  · rintro ⟨hMin, hMax⟩ b hMem
    have hSome : buckets ≠ [] := List.ne_nil_of_mem hMem
    obtain ⟨first, hFirst⟩ :=
      Option.ne_none_iff_exists'.mp (List.min?_eq_none_iff.not.mpr hSome)
    obtain ⟨last, hLast⟩ :=
      Option.ne_none_iff_exists'.mp (List.max?_eq_none_iff.not.mpr hSome)
    exact (hMin first hFirst).between (hMax last hLast)
      ((List.min?_eq_some_iff.mp hFirst).2 b hMem) ((List.max?_eq_some_iff.mp hLast).2 b hMem)
  · intro h
    exact ⟨fun b hMin => h b (List.min?_mem hMin), fun b hMax => h b (List.max?_mem hMax)⟩

end Table

namespace Database

/-- The reads about a server of a source return, for windows with offsets and limits that can be
stored, and so do the figures of the source. -/
structure Returns (db : Database) (source server : String) : Prop where
  latest : ∃ shown, (db.answer (.latest source server)).1 = .ok shown
  recent : ∀ limit : Nat, limit < integerLimit →
    ∃ shown, (db.answer (.recent source server limit)).1 = .ok shown
  range : ∀ window : Window, window.Aware → ∀ limit : Nat, limit < integerLimit →
    ∃ shown, (db.answer (.range source server window limit)).1 = .ok shown
  stats : ∃ held, (db.answer (.stats source)).1 = .ok held

variable {db : Database} {source server : String} {rows : String → List Row}

/-- All reads return exactly if every row that they may meet can be read. -/
theorem Observes.returns_iff (h : db.Observes source rows) (server : String) :
    db.Returns source server ↔ ∀ owner, ∀ row ∈ rows owner, row.bucket.Readable := by
  obtain ⟨servers, -, hServers, hStats⟩ := h.stats
  constructor
  · intro hReturns owner row hMem
    have hFigures := hReturns.stats
    rw [hStats, Table.exists_figures_iff] at hFigures
    refine hFigures row.bucket (List.mem_flatMap.mpr ⟨owner, ?_, List.mem_map_of_mem hMem⟩)
    exact (hServers owner).mpr (List.ne_nil_of_mem hMem)
  · intro hReadable
    constructor
    · rw [h.latest]
      cases hLast : (rows server).getLast? with
      | none => exact ⟨none, rfl⟩
      | some row =>
          obtain ⟨p, hPoint⟩ :=
            Row.exists_toPoint_iff.mpr (hReadable server row (List.mem_of_getLast? hLast))
          refine ⟨some p, ?_⟩
          rw [Option.mapM_some, hPoint]
          rfl
    · intro limit hLimit
      rw [h.recent, bindable_of_lt hLimit, ok_bind, exists_bind_eq_ok_iff]
      obtain ⟨told, hTold⟩ := Table.exists_points_iff.mpr fun row hMem =>
        hReadable server row (List.mem_reverse.mp (mem_of_mem_bounded hMem))
      exact ⟨told, hTold, _, rfl⟩
    · intro window hWindow limit hLimit
      rw [h.range, ends_eq hWindow, ok_bind]
      dsimp only
      rw [bindable_of_lt hLimit, ok_bind]
      exact Table.exists_points_iff.mpr fun row hMem =>
        hReadable server row (List.mem_of_mem_filter (mem_of_mem_bounded hMem))
    · rw [hStats, Table.exists_figures_iff]
      intro b hMem
      obtain ⟨owner, -, hBucket⟩ := List.mem_flatMap.mp hMem
      obtain ⟨row, hRow, rfl⟩ := List.mem_map.mp hBucket
      exact hReadable owner row hRow

/-- The rows of a ledger can be read exactly if its points can. -/
theorem Ledger.readable_iff {points : List Point} {rows : List Row} (h : Ledger points rows) :
    (∀ row ∈ rows, row.bucket.Readable) ↔ ∀ p ∈ points, p.time.Readable := by
  constructor
  · intro hRows p hMem
    obtain ⟨row, hRow, hTime⟩ := h.covered p hMem
    exact ⟨row.bucket, hTime, hRows row hRow⟩
  · intro hPoints row hMem
    obtain ⟨p, hLast, hTime, -⟩ := h.told row hMem
    obtain ⟨bucket, hBucket, hReadable⟩ := hPoints p hLast.mem
    rw [hTime] at hBucket
    cases hBucket
    exact hReadable

/-- After a history of writes that all succeeded, the reads about a server that was written to return
exactly if every point that was written to the source, for whatever server, can be read. A point with
an offset can be read as long as it is not at the very end of the calendar and hardly before its
start, by universal time. -/
theorem reads_return_iff {location : Location} {sources : List String} {history : History}
    {batch : Batch} (hAccepts : (new location sources).Accepts history)
    (hMem : batch ∈ history) :
    (((new location sources).loaded history).Returns batch.source batch.server ↔
        ∀ owner, ∀ p ∈ history.entered batch.source owner, p.time.Readable) ∧
      ∀ t : Timestamp, t.isAware = true →
        (t.Readable ↔ -4 < t.position ∧ t.position < (Calendar.dayCount * day : Nat) - 15) := by
  have h : (new location sources).Sound := .new location sources
  have hRefusal : ((new location sources).loaded history).refusal batch.source = none := by
    rw [refusal_congr (h.loaded_location history) (h.loaded_sources history)]
    exact (h.accepts_iff.mp hAccepts batch hMem).1
  refine ⟨?_, fun t hAware => Timestamp.readable_iff hAware⟩
  rw [((h.after _).observes hRefusal).returns_iff]
  exact forall_congr' fun owner => (ledger_loaded hAccepts batch.source owner).readable_iff

/-- Points of two instants are all read. -/
theorem reads_return_iff_otherInstant :
    let db := new .memory ["metrics_1m_avg"]
    db.Accepts [oneInstant, otherInstant] ∧ otherInstant ∈ [oneInstant, otherInstant] ∧
      (db.loaded [oneInstant, otherInstant]).Returns "metrics_1m_avg" "web-1" := by
  intro db
  have hAccepts : db.Accepts [oneInstant, otherInstant] := ⟨rfl, rfl, trivial⟩
  have hMem : otherInstant ∈ [oneInstant, otherInstant] := by simp
  obtain ⟨hReturns, hReadable⟩ := reads_return_iff hAccepts hMem
  have hPoints : ∀ batch ∈ [oneInstant, otherInstant], ∀ p ∈ batch.points,
      p.time.isAware = true ∧ -4 < p.time.position ∧
        p.time.position < (Calendar.dayCount * day : Nat) - 15 := by
    decide
  refine ⟨hAccepts, hMem, hReturns.mpr fun owner p hEntered => ?_⟩
  obtain ⟨batch, hBatch, hPoint⟩ := List.mem_flatMap.mp hEntered
  obtain ⟨hAware, hBounds⟩ := hPoints batch hBatch p (List.mem_ite_nil_right.mp hPoint).2
  exact (hReadable p.time hAware).mpr hBounds

/-- The last microsecond of the calendar. -/
def lastInstant : Batch :=
  ⟨"metrics_1m_avg", "web-1", [⟨.universal (Calendar.dayCount * day - 1), .zero⟩]⟩

/-- The last microsecond of the calendar is written, and then the latest point cannot be read. -/
theorem not_reads_return_lastInstant :
    let db := new .memory ["metrics_1m_avg"]
    db.Accepts [lastInstant] ∧ (∀ p ∈ lastInstant.points, p.time.isAware = true) ∧
      ((db.loaded [lastInstant]).answer (.latest "metrics_1m_avg" "web-1")).1 =
        .error (.arithmetic (.yearOutOfRange 10000)) ∧
      ¬(db.loaded [lastInstant]).Returns "metrics_1m_avg" "web-1" := by
  intro db
  have hLatest : ((db.loaded [lastInstant]).answer (.latest "metrics_1m_avg" "web-1")).1 =
      .error (.arithmetic (.yearOutOfRange 10000)) := rfl
  refine ⟨⟨rfl, trivial⟩, by decide, hLatest, ?_⟩
  intro hReturns
  obtain ⟨shown, hShown⟩ := hReturns.latest
  rw [hLatest] at hShown
  cases hShown

end Database
end Rollup
