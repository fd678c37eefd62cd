import Mathlib
import Rollup.Proofs.Store.Retold

/-!
What a source holds. Both stores count the same points and servers and find the same two ends; a
store in memory goes through the times it was given, a database through its buckets.
-/
namespace Rollup

/-- Nothing occurs twice after duplicates were erased. -/
theorem nodup_eraseDups (names : List String) : names.eraseDups.Nodup := by
  induction hLength : names.length using Nat.strong_induction_on generalizing names with
  | _ length ih =>
      cases names with
      | nil => simp
      | cons name names =>
          rw [List.eraseDups_cons, List.nodup_cons]
          constructor
          · rw [List.mem_eraseDups]
            simp
          · refine ih _ ?_ _ rfl
            rw [← hLength, List.length_cons]
            exact Nat.lt_succ_of_le (List.length_filter_le _ _)

namespace Memory

/-- The servers for which a source has points. -/
def filled (m : Memory) (source : String) : List String :=
  (m.servers source).filter fun server => !(m.written source server).isEmpty

/-- The times of all points of a source. -/
def instants (m : Memory) (source : String) : List Timestamp :=
  (m.filled source).flatMap fun server => (m.written source server).map fun p => p.time

/-- A time among some others by whose key none comes before it. -/
def First (key : Timestamp → Int) (times : List Timestamp) : Option Timestamp → Prop
  | none => times = []
  | some first => first ∈ times ∧ ∀ time ∈ times, key first ≤ key time

variable {m : Memory} {source server : String} {times : List Timestamp}

theorem nodup_filled (m : Memory) (source : String) : (m.filled source).Nodup :=
  (nodup_eraseDups _).filter _

theorem mem_filled : server ∈ m.filled source ↔ m.written source server ≠ [] := by
  rw [filled, List.mem_filter, Bool.not_eq_true', List.isEmpty_eq_false_iff]
  refine ⟨And.right, fun hFilled => ⟨?_, hFilled⟩⟩
  obtain ⟨p, hMem⟩ := List.exists_mem_of_ne_nil _ hFilled
  obtain ⟨batch, hBatch, hSource, hServer, -⟩ := History.exists_batch_of_mem_written hMem
  rw [servers, List.mem_eraseDups, List.mem_map]
  refine ⟨batch, List.mem_filter.mpr ⟨hBatch, ?_⟩, hServer⟩
  rw [hSource, beq_self_eq_true]

/-- If all rows of a source know their offsets, so do their times. -/
theorem isAware_of_mem_instants (hAware : ∀ server, m.Aware source server) :
    ∀ time ∈ m.instants source, time.isAware = true := by
  intro time hMem
  obtain ⟨server, -, hIn⟩ := List.mem_flatMap.mp hMem
  obtain ⟨p, hPoint, rfl⟩ := List.mem_map.mp hIn
  exact hAware server p hPoint

/-- Going through the times keeps the first by a key, if no comparison fails. -/
theorem foldlM_first (precedes : Timestamp → Timestamp → Except Failure Bool)
    (key : Timestamp → Int) (hKey : ∀ a b, a.isAware = true → b.isAware = true →
      precedes a b = .ok (decide (key a < key b)))
    (hTimes : ∀ time ∈ times, time.isAware = true) {best : Timestamp}
    (hBest : best.isAware = true) :
    ∃ first, times.foldlM (fun best time => do
      return if ← precedes time best then time else best) best = .ok first ∧
        First key (best :: times) (some first) := by
  induction times generalizing best with
  | nil => exact ⟨best, rfl, by simp [First]⟩
  | cons time times ih =>
      obtain ⟨hTime, hRest⟩ := List.forall_mem_cons.mp hTimes
      rw [List.foldlM_cons, hKey time best hTime hBest]
      by_cases hLess : key time < key best
      · obtain ⟨first, hFold, hMem, hFirst⟩ := ih hRest hTime
        refine ⟨first, ?_, List.mem_cons_of_mem _ hMem, ?_⟩
        · simpa [hLess, bind, Except.bind, pure, Except.pure] using hFold
        · have hHere := hFirst time List.mem_cons_self
          exact List.forall_mem_cons.mpr ⟨by omega, hFirst⟩
      · obtain ⟨first, hFold, hMem, hFirst⟩ := ih hRest hBest
        obtain ⟨hHere, hThere⟩ := List.forall_mem_cons.mp hFirst
        refine ⟨first, ?_, ?_, ?_⟩
        · simpa [hLess, bind, Except.bind, pure, Except.pure] using hFold
        · rcases List.mem_cons.mp hMem with rfl | hMem
          · exact List.mem_cons_self
          · exact List.mem_cons_of_mem _ (List.mem_cons_of_mem _ hMem)
        · refine List.forall_mem_cons.mpr ⟨hHere, List.forall_mem_cons.mpr ⟨by omega, hThere⟩⟩

theorem foremost_first (precedes : Timestamp → Timestamp → Except Failure Bool)
    (key : Timestamp → Int) (hKey : ∀ a b, a.isAware = true → b.isAware = true →
      precedes a b = .ok (decide (key a < key b)))
    (hTimes : ∀ time ∈ times, time.isAware = true) :
    ∃ first, foremost precedes times = .ok first ∧ First key times first := by
  cases times with
  | nil => exact ⟨none, rfl, rfl⟩
  | cons time times =>
      obtain ⟨hTime, hRest⟩ := List.forall_mem_cons.mp hTimes
      obtain ⟨first, hFold, hFirst⟩ := foldlM_first precedes key hKey hRest hTime
      refine ⟨some first, ?_, hFirst⟩
      rw [foremost, hFold]
      rfl

/-- What a source holds in memory, if all its times know their offset. -/
theorem stats_eq (hTimes : ∀ time ∈ m.instants source, time.isAware = true) :
    ∃ earliest latest, m.stats source =
        .ok ⟨(m.instants source).length, (m.filled source).length, earliest, latest, none⟩ ∧
      First Timestamp.position (m.instants source) earliest ∧
      First (fun time => -time.position) (m.instants source) latest := by
  have hGroups : ((m.servers source).map (m.written source)).filter
      (fun points => !points.isEmpty) = (m.filled source).map (m.written source) :=
    List.filter_map
  have hInstants : (((m.filled source).map (m.written source)).flatten.map fun p => p.time) =
      m.instants source := by
    rw [instants, ← List.flatMap_def, List.map_flatMap]
  obtain ⟨earliest, hEarliest, hFirst⟩ := foremost_first
    (fun time best => time.before best) Timestamp.position
    (fun a b hA hB => Timestamp.before_eq (hA.trans hB.symm)) hTimes
  obtain ⟨latest, hLatest, hLast⟩ := foremost_first
    (fun time best => best.before time) (fun time => -time.position)
    (fun a b hA hB => by simp [Timestamp.before_eq (hB.trans hA.symm)]) hTimes
  refine ⟨earliest, latest, ?_, hFirst, hLast⟩
  simp only [stats, hGroups, hInstants, hEarliest, hLatest, List.length_map]
  rfl

end Memory

namespace Table

variable {times : List Timestamp} {buckets : List Bucket}

/-- If the buckets are those of some times, the first time by a key has the first bucket by every
order that goes along with the key. -/
theorem first_bucket {key : Timestamp → Int} {first : Timestamp} (order : Bucket → Bucket → Prop)
    (hPerm : buckets.Perm (times.map fun time => Bucket.ofMicros time.sinceEpoch))
    (hFirst : Memory.First key times (some first))
    (hOrder : ∀ time ∈ times, key first ≤ key time →
      order (Bucket.ofMicros first.sinceEpoch) (Bucket.ofMicros time.sinceEpoch)) :
    Bucket.ofMicros first.sinceEpoch ∈ buckets ∧
      ∀ bucket ∈ buckets, order (Bucket.ofMicros first.sinceEpoch) bucket := by
  obtain ⟨hMem, hLeast⟩ := hFirst
  refine ⟨hPerm.mem_iff.mpr (List.mem_map_of_mem hMem), ?_⟩
  intro bucket hBucket
  obtain ⟨time, hTime, rfl⟩ := List.mem_map.mp (hPerm.mem_iff.mp hBucket)
  exact hOrder time hTime (hLeast time hTime)

theorem eq_nil_of_first {key : Timestamp → Int}
    (hPerm : buckets.Perm (times.map fun time => Bucket.ofMicros time.sinceEpoch))
    (hFirst : Memory.First key times none) : buckets = [] := by
  rw [Memory.First] at hFirst
  rw [hFirst, List.map_nil, List.perm_nil] at hPerm
  exact hPerm

theorem min?_eq_of_first {earliest : Option Timestamp}
    (hPerm : buckets.Perm (times.map fun time => Bucket.ofMicros time.sinceEpoch))
    (hEra : ∀ time ∈ times, InEra time.sinceEpoch)
    (hFirst : Memory.First Timestamp.position times earliest) :
    buckets.min? = earliest.map fun time => Bucket.ofMicros time.sinceEpoch := by
  cases earliest with
  | none =>
      rw [eq_nil_of_first hPerm hFirst]
      rfl
  | some first =>
      rw [Option.map_some, List.min?_eq_some_iff]
      refine first_bucket (· ≤ ·) hPerm hFirst ?_
      intro time _ hLe
      exact (Bucket.ofMicros_le_ofMicros_iff (hEra first hFirst.1)).mpr (Int.sub_le_sub_right hLe _)

theorem max?_eq_of_first {latest : Option Timestamp}
    (hPerm : buckets.Perm (times.map fun time => Bucket.ofMicros time.sinceEpoch))
    (hEra : ∀ time ∈ times, InEra time.sinceEpoch)
    (hFirst : Memory.First (fun time => -time.position) times latest) :
    buckets.max? = latest.map fun time => Bucket.ofMicros time.sinceEpoch := by
  cases latest with
  | none =>
      rw [eq_nil_of_first hPerm hFirst]
      rfl
  | some last =>
      rw [Option.map_some, List.max?_eq_some_iff]
      refine first_bucket (· ≥ ·) hPerm hFirst ?_
      intro time hTime hLe
      have hLe := Int.neg_le_neg_iff.mp hLe
      exact (Bucket.ofMicros_le_ofMicros_iff (hEra time hTime)).mpr (Int.sub_le_sub_right hLe _)

theorem retold_time? (time : Option Timestamp)
    (h : ∀ t ∈ time, t.isAware = true ∧ InEra t.sinceEpoch) :
    ∃ retold, time? (time.map fun t => Bucket.ofMicros t.sinceEpoch) = .ok retold ∧
      Option.Rel Timestamp.Retold time retold := by
  cases time with
  | none => exact ⟨none, rfl, .none⟩
  | some time =>
      obtain ⟨hAware, hEra⟩ := h time rfl
      obtain ⟨retold, hTime, hRetold⟩ := Timestamp.retold_toTime hAware hEra
      refine ⟨some retold, ?_, .some hRetold⟩
      rw [Option.map_some, time?, hTime]
      rfl

end Table

namespace Database.Mirrors

variable {db : Database} {history : History} {source : String}

/-- The servers of a table are those that have points. -/
theorem keys_perm (h : db.Mirrors history) (hHistory : history.Storable db.sources)
    (hSource : source ∈ db.sources) :
    ((db.tables.get source).map Prod.fst).Perm (Memory.filled ⟨history, []⟩ source) := by
  have hTable := h.sound.tables source
  rw [List.perm_ext_iff_of_nodup hTable.nodup (Memory.nodup_filled _ _)]
  intro server
  rw [Memory.mem_filled]
  change _ ↔ history.written source server ≠ []
  have hRows : (db.tables.get source).rows server ≠ [] ↔ history.written source server ≠ [] := by
    rw [h.rows_eq hHistory hSource, Ne, List.reverse_eq_nil_iff, List.map_eq_nil_iff,
      (chronicle_chronological _).eq_nil_iff]
  rw [← hRows, hTable.mem_keys_iff]

/-- The buckets of a table are those of the times of its points. -/
theorem buckets_perm (h : db.Mirrors history) (hHistory : history.Storable db.sources)
    (hSource : source ∈ db.sources) :
    (db.tables.get source).buckets.Perm ((Memory.instants ⟨history, []⟩ source).map fun time =>
      Bucket.ofMicros time.sinceEpoch) := by
  have hTable := h.sound.tables source
  rw [hTable.buckets_eq, Memory.instants, List.map_flatMap]
  refine (h.keys_perm hHistory hSource).flatMap fun server _ => ?_
  rw [h.rows_eq hHistory hSource, List.map_map, List.map_reverse, List.map_map]
  exact (List.reverse_perm _).trans ((chronicle_chronological _).perm.map _)

/-- What a source holds is told alike. -/
theorem stats_retold (h : db.Mirrors history) (hHistory : history.Storable db.sources)
    (hSource : source ∈ db.sources) :
    ∃ held retold, Memory.stats ⟨history, []⟩ source = .ok held ∧
      (db.tables.get source).stats = .ok retold ∧ held.Retold retold := by
  have hTimes : ∀ time ∈ Memory.instants ⟨history, []⟩ source,
      time.isAware = true ∧ InEra time.sinceEpoch := by
    intro time hMem
    obtain ⟨server, -, hIn⟩ := List.mem_flatMap.mp hMem
    obtain ⟨p, hPoint, rfl⟩ := List.mem_map.mp hIn
    have hStorable := hHistory.storable_of_mem_written hPoint
    exact ⟨hStorable.aware, hStorable.inEra⟩
  have hPerm := h.buckets_perm hHistory hSource
  obtain ⟨earliest, latest, hStats, hFirst, hLast⟩ :=
    Memory.stats_eq fun time hMem => (hTimes time hMem).1
  have hMin := Table.min?_eq_of_first hPerm (fun time hMem => (hTimes time hMem).2) hFirst
  have hMax := Table.max?_eq_of_first hPerm (fun time hMem => (hTimes time hMem).2) hLast
  obtain ⟨first, hFirstTime, hFirstRetold⟩ := Table.retold_time? earliest <| by
    rintro time rfl
    exact hTimes time hFirst.1
  obtain ⟨last, hLastTime, hLastRetold⟩ := Table.retold_time? latest <| by
    rintro time rfl
    exact hTimes time hLast.1
  refine ⟨_, ⟨(db.tables.get source).buckets.length, (db.tables.get source).length, first, last,
    none⟩, hStats, ?_, ?_, ?_, hFirstRetold, hLastRetold, rfl⟩
  · rw [Table.stats, hMin, hMax, hFirstTime, hLastTime]
    rfl
  · rw [hPerm.length_eq, List.length_map]
  · rw [← (h.keys_perm hHistory hSource).length_eq, List.length_map]

end Database.Mirrors

end Rollup
