import Mathlib
import Rollup.Proofs.Store.Agreement
import Rollup.Proofs.Store.LastWriter
import Rollup.Proofs.Store.Tally

/-!
Reads that tell of one set of rows. A store answers five reads about a source, each in its own way:
a bounded page, a count, the latest row, the most recent rows and the figures of the source. Whatever
was written, all of them are about the same rows in the same order.
-/
namespace Rollup

/-- What the five reads about a source give. -/
structure Answers where
  range : String → Window → Nat → List Point
  count : String → Window → Nat
  latest : String → Option Point
  recent : String → Nat → List Point
  stats : TierStats

/-- The time of a row, by whose key no row comes before it. -/
def Extreme (key : Timestamp → Int) (rows : String → List Point) (time : Timestamp) : Prop :=
  (∃ server, ∃ p ∈ rows server, p.time = time) ∧
    ∀ server, ∀ p ∈ rows server, key time ≤ key p.time

theorem Extreme.aware {key : Timestamp → Int} {rows : String → List Point} {time : Timestamp}
    (h : Extreme key rows time) (hAware : ∀ server, AllAware (rows server)) :
    time.isAware = true := by
  obtain ⟨⟨server, p, hMem, rfl⟩, -⟩ := h
  exact hAware server p hMem

namespace Answers

/-- The answers go together, and with the rows of each server. -/
structure Consistent (answers : Answers) (rows : String → List Point) : Prop where
  aware : ∀ server, AllAware (rows server)
  count_length : ∀ server window limit, answers.count server window ≤ limit →
    answers.count server window = (answers.range server window limit).length
  range_take : ∀ server window limit larger, limit ≤ larger →
    answers.range server window limit = (answers.range server window larger).take limit
  recent_suffix : ∀ server limit, answers.recent server limit <:+ answers.recent server (limit + 1)
  recent_all : ∀ server window, window.Aware → (∀ p ∈ rows server, window.holds p = true) →
    ∀ limit larger, (rows server).length ≤ limit → (rows server).length ≤ larger →
      answers.recent server limit = answers.range server window larger
  latest_last : ∀ server limit, 1 ≤ limit →
    answers.latest server = (answers.recent server limit).getLast?
  latest_none : ∀ server, answers.latest server = none ↔ rows server = []
  records_sum : ∀ first last, answers.stats.earliest = some first →
    answers.stats.latest = some last → ∀ names : Finset String,
      (∀ server, answers.latest server ≠ none → server ∈ names) →
        answers.stats.records = ∑ server ∈ names, answers.count server ⟨first, last⟩
  servers_card : ∃ names : Finset String,
    (∀ server, server ∈ names ↔ answers.latest server ≠ none) ∧
      answers.stats.servers = names.card
  earliest_none : answers.stats.earliest = none ↔ answers.stats.records = 0
  newest_none : answers.stats.latest = none ↔ answers.stats.records = 0
  earliest_first : ∀ first, answers.stats.earliest = some first →
    Extreme Timestamp.position rows first
  newest_last : ∀ last, answers.stats.latest = some last →
    Extreme (fun time => -time.position) rows last

/-- The answers from the rows of each server in order of time, those that a window holds, and the
figures of the source. -/
def ofRows (all : String → List Point) (holds : Window → Point → Bool) (stats : TierStats) :
    Answers where
  range server window limit := ((all server).filter (holds window)).take limit
  count server window := ((all server).filter (holds window)).length
  latest server := (all server).getLast?
  recent server limit := (all server).drop ((all server).length - limit)
  stats := stats

end Answers

/-- The figures count some servers and some times, and give the ends of the times. -/
structure TierStats.Tells (stats : TierStats) (servers : List String) (times : List Timestamp) :
    Prop where
  records : stats.records = times.length
  servers : stats.servers = servers.length
  earliest : Memory.First Timestamp.position times stats.earliest
  latest : Memory.First (fun time => -time.position) times stats.latest

theorem Memory.First.eq_none_iff {key : Timestamp → Int} {times : List Timestamp}
    {first : Option Timestamp} (h : Memory.First key times first) :
    first = none ↔ times.length = 0 := by
  cases first with
  | none => exact iff_of_true rfl (List.length_eq_zero_iff.mpr h)
  | some first => exact iff_of_false nofun (List.length_pos_of_mem h.1).ne'

/-- The times of the rows of some servers. -/
def timesOf (servers : List String) (rows : String → List Point) : List Timestamp :=
  servers.flatMap fun server => (rows server).map Point.time

namespace Answers

variable {all rows : String → List Point} {holds : Window → Point → Bool} {stats : TierStats}
  {servers : List String}

section Times

variable (hServers : ∀ server, server ∈ servers ↔ rows server ≠ [])
include hServers

theorem mem_timesOf {time : Timestamp} :
    time ∈ timesOf servers rows ↔ ∃ server, ∃ p ∈ rows server, p.time = time := by
  rw [timesOf, List.mem_flatMap]
  constructor
  · rintro ⟨server, -, hMem⟩
    exact ⟨server, List.mem_map.mp hMem⟩
  · rintro ⟨server, p, hMem, hTime⟩
    exact ⟨server, (hServers server).mpr (List.ne_nil_of_mem hMem),
      List.mem_map.mpr ⟨p, hMem, hTime⟩⟩

theorem extreme_of_first {key : Timestamp → Int} {first : Timestamp}
    (h : Memory.First key (timesOf servers rows) (some first)) : Extreme key rows first := by
  refine ⟨(mem_timesOf hServers).mp h.1, ?_⟩
  intro server p hMem
  exact h.2 p.time ((mem_timesOf hServers).mpr ⟨server, p, hMem, rfl⟩)

/-- The times are as many as the rows of any servers that leave out none with a row. -/
theorem length_timesOf (hNodup : servers.Nodup) {names : Finset String}
    (hNames : ∀ server, rows server ≠ [] → server ∈ names) :
    (timesOf servers rows).length = ∑ server ∈ names, (rows server).length := by
  have hSubset : servers.toFinset ⊆ names := by
    intro server hMem
    exact hNames server ((hServers server).mp (List.mem_toFinset.mp hMem))
  have hOutside : ∀ server ∈ names, server ∉ servers.toFinset → (rows server).length = 0 := by
    intro server _ hOut
    rw [List.mem_toFinset, hServers, not_not] at hOut
    rw [hOut, List.length_nil]
  rw [← Finset.sum_subset hSubset hOutside, List.sum_toFinset _ hNodup, timesOf,
    List.length_flatMap]
  simp only [List.length_map]

end Times

section OfRows

variable (hPerm : ∀ server, (all server).Perm (rows server))
include hPerm

theorem latest_ofRows_eq_none_iff (server : String) :
    (ofRows all holds stats).latest server = none ↔ rows server = [] := by
  change (all server).getLast? = none ↔ _
  rw [List.getLast?_eq_none_iff, ← List.length_eq_zero_iff, (hPerm server).length_eq,
    List.length_eq_zero_iff]

variable (hHolds : ∀ window : Window, window.Aware → ∀ server, ∀ p ∈ rows server,
  holds window p = window.holds p)
include hHolds

/-- A window that holds all rows leaves none out. -/
theorem filter_holds {window : Window} (hWindow : window.Aware) {server : String}
    (hInside : ∀ p ∈ rows server, window.holds p = true) :
    (all server).filter (holds window) = all server := by
  rw [List.filter_eq_self]
  intro p hMem
  have hRow := (hPerm server).mem_iff.mp hMem
  rw [hHolds window hWindow server p hRow]
  exact hInside p hRow

variable (hAware : ∀ server, AllAware (rows server))
include hAware

/-- Between the two ends of all rows, a server has all of its rows. -/
theorem count_between {first last : Timestamp} (hFirst : Extreme Timestamp.position rows first)
    (hLast : Extreme (fun time => -time.position) rows last) (server : String) :
    (ofRows all holds stats).count server ⟨first, last⟩ = (rows server).length := by
  have hWindow : Window.Aware ⟨first, last⟩ := ⟨hFirst.aware hAware, hLast.aware hAware⟩
  rw [← (hPerm server).length_eq]
  refine congrArg List.length (filter_holds hPerm hHolds hWindow fun p hMem => ?_)
  exact Window.mem_holds.mpr
    ⟨hFirst.2 server p hMem, Int.neg_le_neg_iff.mp (hLast.2 server p hMem)⟩

/-- Answers from the rows in order of time are consistent if the figures tell of them. -/
theorem consistent_ofRows (hNodup : servers.Nodup)
    (hServers : ∀ server, server ∈ servers ↔ rows server ≠ [])
    (hStats : stats.Tells servers (timesOf servers rows)) :
    (ofRows all holds stats).Consistent rows := by
  have hLatest : ∀ server,
      (ofRows all holds stats).latest server = none ↔ rows server = [] :=
    latest_ofRows_eq_none_iff hPerm
  have hRecords : stats.records = 0 ↔ (timesOf servers rows).length = 0 := by
    rw [hStats.records]
    exact Int.natCast_eq_zero
  have hEarliest : ∀ first, stats.earliest = some first → Extreme Timestamp.position rows first :=
    fun first hFirst => extreme_of_first hServers (hFirst ▸ hStats.earliest)
  have hNewest : ∀ last, stats.latest = some last → Extreme (fun time => -time.position) rows last :=
    fun last hLast => extreme_of_first hServers (hLast ▸ hStats.latest)
  constructor
  · exact hAware
  · intro server window limit hLimit
    exact (List.length_take.trans (Nat.min_eq_right hLimit)).symm
  · intro server window limit larger hLimit
    simp only [ofRows]
    rw [List.take_take, Nat.min_eq_left hLimit]
  · intro server limit
    have hLess : (all server).length - (limit + 1) ≤ (all server).length - limit := by omega
    exact List.drop_suffix_drop_left _ hLess
  · intro server window hWindow hInside limit larger hLimit hLarger
    rw [← (hPerm server).length_eq] at hLimit hLarger
    simp only [ofRows]
    rw [filter_holds hPerm hHolds hWindow hInside, Nat.sub_eq_zero_of_le hLimit, List.drop_zero,
      List.take_of_length_le hLarger]
  · intro server limit hLimit
    simp only [ofRows]
    rw [List.getLast?_drop]
    split
    · have hNone : (all server).length = 0 := by omega
      rw [List.length_eq_zero_iff.mp hNone, List.getLast?_nil]
    · rfl
  · exact hLatest
  · intro first last hFirst hLast names hNames
    simp only [count_between hPerm hHolds hAware (hEarliest first hFirst) (hNewest last hLast)]
    rw [← length_timesOf hServers hNodup]
    · exact hStats.records
    · intro server hRows
      exact hNames server fun hNone => hRows ((hLatest server).mp hNone)
  · refine ⟨servers.toFinset, ?_, ?_⟩
    · intro server
      rw [List.mem_toFinset, hServers, ne_eq, ne_eq, not_iff_not]
      exact (hLatest server).symm
    · rw [List.toFinset_card_of_nodup hNodup]
      exact hStats.servers
  · exact hStats.earliest.eq_none_iff.trans hRecords.symm
  · exact hStats.latest.eq_none_iff.trans hRecords.symm
  · exact hEarliest
  · exact hNewest

end OfRows

end Answers

namespace Store

/-- The windows that a store can be asked about: one in memory compares their ends with the times of
its rows, a database stores them. -/
def Asks (store : Store) (window : Window) : Prop :=
  match store with
  | memory _ => window.Aware
  | database _ => ∃ ends, Database.ends window = .ok ends

/-- The limits that a store takes. -/
def Bounds (store : Store) (limit : Nat) : Prop :=
  match store with
  | memory _ => 1 ≤ limit
  | database _ => 1 ≤ limit ∧ limit < Database.integerLimit

/-- The rows that a store holds for a server of a source, as they are read. -/
def Shows (store : Store) (source server : String) (rows : List Point) : Prop :=
  match store with
  | memory m => (m.written source server).Perm rows
  | database db => (((db.tables.get source).rows server).map Row.toPoint).Perm (rows.map .ok)

/-- The store gives these answers about a source. -/
structure Gives (store : Store) (source : String) (answers : Answers) : Prop where
  range : ∀ server window limit, store.Asks window → store.Bounds limit →
    (store.answer (.range source server window limit)).1 =
      .ok (answers.range server window limit)
  count : ∀ server window, store.Asks window →
    (store.answer (.count source server window)).1 = .ok (answers.count server window : Int)
  latest : ∀ server, (store.answer (.latest source server)).1 = .ok (answers.latest server)
  recent : ∀ server limit, store.Bounds limit →
    (store.answer (.recent source server limit)).1 = .ok (answers.recent server limit)
  stats : (store.answer (.stats source)).1 = .ok answers.stats

/-- All reads about a source succeed, and tell of the rows that the store holds. -/
def ReadsConsistently (store : Store) (source : String) : Prop :=
  ∃ (rows : String → List Point) (answers : Answers),
    (∀ server, store.Shows source server (rows server)) ∧ store.Gives source answers ∧
      answers.Consistent rows

end Store

namespace Memory

variable {m : Memory} {source : String}

theorem readsConsistently (hAware : ∀ server, m.Aware source server) :
    (Store.memory m).ReadsConsistently source := by
  obtain ⟨earliest, latest, hStats, hFirst, hLast⟩ := stats_eq (isAware_of_mem_instants hAware)
  refine ⟨m.written source, .ofRows (m.chronicle source) Window.holds
    ⟨(m.instants source).length, (m.filled source).length, earliest, latest, none⟩,
    fun server => List.Perm.refl _, ?_, ?_⟩
  · constructor
    · intro server window limit hWindow _
      exact (read_range (hAware server) hWindow limit).trans
        (congrArg _ (firstPoints_natCast limit _))
    · intro server window hWindow
      exact read_count (hAware server) hWindow
    · intro server
      exact read_latest (hAware server)
    · intro server limit hLimit
      exact (read_recent (hAware server) limit).trans (congrArg _ (lastPoints_natCast hLimit _))
    · exact hStats
  · exact Answers.consistent_ofRows (fun server => (chronicle_chronological _).perm)
      (fun _ _ _ _ _ => rfl) hAware (nodup_filled m source) (fun server => mem_filled)
      ⟨rfl, rfl, hFirst, hLast⟩

end Memory

/-- A row that is read as a point of the era. -/
structure Row.Tells (row : Row) (p : Point) : Prop where
  told : row.toPoint = .ok p
  aware : p.time.isAware = true
  inEra : InEra p.time.sinceEpoch
  bucket : row.bucket = Bucket.ofMicros p.time.sinceEpoch

/-- A row at the stored time of an instant of the era tells of the instant. -/
theorem Row.exists_tells {row : Row} {time : Timestamp} (hAware : time.isAware = true)
    (hEra : InEra time.sinceEpoch) (hBucket : Bucket.ofTime time = .ok row.bucket) :
    ∃ p, row.Tells p := by
  rw [Bucket.ofTime_eq hAware, Except.ok.injEq] at hBucket
  obtain ⟨retold, hTime, hRetold⟩ := Timestamp.retold_toTime hAware hEra
  obtain ⟨hLine, hPosition⟩ := Timestamp.isSame_iff.mp hRetold.1
  have hSince : retold.sinceEpoch = time.sinceEpoch := by
    rw [Timestamp.sinceEpoch, Timestamp.sinceEpoch, hPosition]
  refine ⟨⟨retold, row.readings⟩, ?_, hLine.trans hAware, hSince ▸ hEra, ?_⟩
  · rw [toPoint, ← hBucket, hTime]
    rfl
  · rw [hSince]
    exact hBucket.symm

theorem Row.Tells.toTime {row : Row} {p : Point} (h : row.Tells p) :
    (Bucket.ofMicros p.time.sinceEpoch).toTime = .ok p.time := by
  obtain ⟨time, hTime, hPoint⟩ := exists_of_bind_eq_ok h.told
  cases hPoint
  rw [← h.bucket, hTime]

/-- Some time comes first by a key, unless there are none. -/
theorem Memory.exists_first (key : Timestamp → Int) (times : List Timestamp) :
    ∃ first, Memory.First key times first := by
  refine ⟨times.argmin key, ?_⟩
  cases hFirst : times.argmin key with
  | none => exact List.argmin_eq_none.mp hFirst
  | some first => exact ⟨List.argmin_mem hFirst, fun time hMem => List.le_of_mem_argmin hMem hFirst⟩

namespace Table

variable {told : Row → Point} {list : List Row}

theorem points_eq (hTold : ∀ row ∈ list, row.Tells (told row)) :
    points list = .ok (list.map told) := by
  induction list with
  | nil => rfl
  | cons row list ih =>
      obtain ⟨hRow, hList⟩ := List.forall_mem_cons.mp hTold
      have hRest := ih hList
      rw [points] at hRest
      rw [points, List.mapM_cons, hRow.told, hRest]
      rfl

theorem mapM_toTime_eq (time : Option Timestamp)
    (h : ∀ t ∈ time, (Bucket.ofMicros t.sinceEpoch).toTime = .ok t) :
    (time.map fun t => Bucket.ofMicros t.sinceEpoch).mapM Bucket.toTime = .ok time := by
  cases time with
  | none => rfl
  | some time =>
      rw [Option.map_some, Option.mapM_some, h time rfl]
      rfl

end Table

namespace Database

variable {db : Database} {source : String} {window : Window} {p : Point} {first last : Bucket}
  {rows : String → List Row} {told : Row → Point} {list : List Row}

/-- Whether a point lies between the stored ends of a window. -/
def spans (window : Window) (p : Point) : Bool :=
  match ends window with
  | .ok (first, last) =>
    decide (first ≤ Bucket.ofMicros p.time.sinceEpoch ∧ Bucket.ofMicros p.time.sinceEpoch ≤ last)
  | .error _ => false

theorem spans_eq (hWindow : window.Aware) (hEra : InEra p.time.sinceEpoch) :
    spans window p = window.holds p := by
  rw [spans, ends_eq hWindow]
  change decide (_ ∧ _) = _
  rw [Bool.eq_iff_iff, decide_eq_true_eq, Window.mem_holds,
    Bucket.ofMicros_le_ofMicros_iff' hEra, Bucket.ofMicros_le_ofMicros_iff hEra,
    Timestamp.sinceEpoch_le_iff, Timestamp.sinceEpoch_le_iff]

theorem filter_eq (hEnds : ends window = .ok (first, last))
    (hTold : ∀ row ∈ list, row.Tells (told row)) :
    (list.filter fun row => first ≤ row.bucket ∧ row.bucket ≤ last).map told =
      (list.map told).filter (spans window) := by
  rw [List.filter_map]
  congr 1
  refine List.filter_congr fun row hMem => ?_
  rw [Function.comp_apply, spans, hEnds, (hTold row hMem).bucket]

theorem exists_tells_of_mem (hTold : ∀ row ∈ list, row.Tells (told row)) (hMem : p ∈ list.map told) :
    ∃ row : Row, row.Tells p := by
  obtain ⟨row, hRow, rfl⟩ := List.mem_map.mp hMem
  exact ⟨row, hTold row hRow⟩

/-- A database shows what its rows tell. -/
theorem shows_told {server : String} (hTold : ∀ row ∈ list, row.Tells (told row))
    (hRows : ((db.tables.get source).rows server).Perm list) :
    (Store.database db).Shows source server (list.map told) := by
  have hMap : list.map Row.toPoint = (list.map told).map .ok := by
    rw [List.map_map]
    exact List.map_congr_left fun row hMem => (hTold row hMem).told
  rw [Store.Shows, ← hMap]
  exact hRows.map Row.toPoint

/-- The figures of buckets are those of the times that they store. -/
theorem exists_figures (servers : List String) {buckets : List Bucket} {times : List Timestamp}
    (hBuckets : buckets = times.map fun time => Bucket.ofMicros time.sinceEpoch)
    (hEra : ∀ time ∈ times, InEra time.sinceEpoch)
    (hBack : ∀ time ∈ times, (Bucket.ofMicros time.sinceEpoch).toTime = .ok time) :
    ∃ stats, Table.figures servers buckets = .ok stats ∧ stats.Tells servers times := by
  obtain ⟨earliest, hFirst⟩ := Memory.exists_first Timestamp.position times
  obtain ⟨latest, hLast⟩ := Memory.exists_first (fun time => -time.position) times
  have hPerm : buckets.Perm (times.map fun time => Bucket.ofMicros time.sinceEpoch) :=
    hBuckets ▸ List.Perm.refl _
  have hEarliest := Table.mapM_toTime_eq earliest <| by
    rintro time rfl
    exact hBack time hFirst.1
  have hLatest := Table.mapM_toTime_eq latest <| by
    rintro time rfl
    exact hBack time hLast.1
  rw [← Table.min?_eq_of_first hPerm hEra hFirst] at hEarliest
  rw [← Table.max?_eq_of_first hPerm hEra hLast] at hLatest
  refine ⟨⟨buckets.length, servers.length, earliest, latest, none⟩, ?_, ?_, rfl, hFirst, hLast⟩
  · rw [Table.figures, hEarliest, hLatest]
    rfl
  · rw [hBuckets, List.length_map]

namespace Observes

variable (h : db.Observes source rows) (hTold : ∀ server, ∀ row ∈ rows server, row.Tells (told row))
include h hTold

theorem range_told (server : String) (hEnds : ends window = .ok (first, last)) {limit : Nat}
    (hLimit : limit < integerLimit) :
    (db.answer (.range source server window limit)).1 =
      .ok ((((rows server).map told).filter (spans window)).take limit) := by
  rw [h.range, hEnds, ok_bind]
  dsimp only
  rw [bindable_of_lt hLimit, ok_bind, bounded_natCast, Table.points_eq fun row hMem =>
    hTold server row (List.mem_of_mem_filter (List.mem_of_mem_take hMem)), List.map_take,
    filter_eq hEnds (hTold server)]

theorem count_told (server : String) (hEnds : ends window = .ok (first, last)) :
    (db.answer (.count source server window)).1 =
      .ok ((((rows server).map told).filter (spans window)).length : Int) := by
  rw [h.count, hEnds]
  change Except.ok ((List.filter _ (rows server)).length : Int) = _
  rw [← List.length_map told, filter_eq hEnds (hTold server)]

theorem latest_told (server : String) :
    (db.answer (.latest source server)).1 = .ok ((rows server).map told).getLast? := by
  rw [h.latest, List.getLast?_map]
  cases hLast : (rows server).getLast? with
  | none => rfl
  | some row =>
      have hRow := hTold server row (List.mem_of_getLast? hLast)
      rw [Option.mapM_some, hRow.told]
      rfl

theorem recent_told (server : String) {limit : Nat} (hLimit : limit < integerLimit) :
    (db.answer (.recent source server limit)).1 =
      .ok (((rows server).map told).drop (((rows server).map told).length - limit)) := by
  rw [h.recent, bindable_of_lt hLimit, ok_bind, bounded_natCast, List.take_reverse,
    Table.points_eq fun row hMem =>
      hTold server row (List.mem_of_mem_drop (List.mem_reverse.mp hMem)), ok_bind]
  change Except.ok (List.reverse _) = _
  rw [← List.map_reverse, List.reverse_reverse, List.map_drop, List.length_map]

/-- The figures of a source are those of the points that its rows are told as. -/
theorem stats_told :
    ∃ (servers : List String) (stats : TierStats), servers.Nodup ∧
      (∀ server, server ∈ servers ↔ (rows server).map told ≠ []) ∧
        (db.answer (.stats source)).1 = .ok stats ∧
          stats.Tells servers (timesOf servers fun server => (rows server).map told) := by
  obtain ⟨servers, hNodup, hServers, hStats⟩ := h.stats
  have hFilled : ∀ server, server ∈ servers ↔ (rows server).map told ≠ [] := by
    intro server
    rw [hServers, ne_eq, ne_eq, List.map_eq_nil_iff]
  have hTimes : ∀ time ∈ timesOf servers (fun server => (rows server).map told),
      InEra time.sinceEpoch ∧ (Bucket.ofMicros time.sinceEpoch).toTime = .ok time := by
    intro time hMem
    obtain ⟨server, p, hPoint, rfl⟩ := (Answers.mem_timesOf hFilled).mp hMem
    obtain ⟨row, hRow⟩ := exists_tells_of_mem (hTold server) hPoint
    exact ⟨hRow.inEra, hRow.toTime⟩
  have hBuckets : (servers.flatMap fun server => (rows server).map Row.bucket) =
      (timesOf servers fun server => (rows server).map told).map fun time =>
        Bucket.ofMicros time.sinceEpoch := by
    rw [timesOf, List.map_flatMap]
    refine List.flatMap_congr fun server _ => ?_
    rw [List.map_map, List.map_map]
    exact List.map_congr_left fun row hMem => (hTold server row hMem).bucket
  obtain ⟨stats, hFigures, hTells⟩ := exists_figures servers hBuckets
    (fun time hMem => (hTimes time hMem).1) fun time hMem => (hTimes time hMem).2
  exact ⟨servers, stats, hNodup, hFilled, hStats.trans hFigures, hTells⟩

/-- A database that is read by rows of the era is read consistently. -/
theorem readsConsistently
    (hRows : ∀ server, ((db.tables.get source).rows server).Perm (rows server)) :
    (Store.database db).ReadsConsistently source := by
  obtain ⟨servers, stats, hNodup, hServers, hStats, hTells⟩ := h.stats_told hTold
  set shown : String → List Point := fun server => (rows server).map told
  refine ⟨shown, .ofRows shown spans stats, ?_, ?_, ?_⟩
  · exact fun server => shows_told (hTold server) (hRows server)
  · constructor
    · rintro server window limit ⟨⟨first, last⟩, hEnds⟩ ⟨-, hLimit⟩
      exact h.range_told hTold server hEnds hLimit
    · rintro server window ⟨⟨first, last⟩, hEnds⟩
      exact h.count_told hTold server hEnds
    · exact h.latest_told hTold
    · rintro server limit ⟨-, hLimit⟩
      exact h.recent_told hTold server hLimit
    · exact hStats
  · refine Answers.consistent_ofRows (fun server => List.Perm.refl _) ?_ ?_ hNodup hServers hTells
    · intro window hWindow server p hMem
      obtain ⟨row, hRow⟩ := exists_tells_of_mem (hTold server) hMem
      exact spans_eq hWindow hRow.inEra
    · intro server p hMem
      obtain ⟨row, hRow⟩ := exists_tells_of_mem (hTold server) hMem
      exact hRow.aware

end Observes

end Database

/-- The rows that a new database holds after some writes tell of the points that were written. -/
theorem Database.exists_told_loaded {location : Location} {sources : List String}
    {history : History} (hAware : history.Aware)
    (hEra : ∀ batch ∈ history, ∀ p ∈ batch.points, InEra p.time.sinceEpoch) (source : String) :
    ∃ told : Row → Point, ∀ server,
      ∀ row ∈ (((new location sources).loaded history).tables.get source).rows server,
        row.Tells (told row) := by
  have hNone : ∀ server, ((new location sources).tables.get source).rows server = [] := by
    intro server
    cases location <;> rfl
  have hTold : ∀ row : Row, ∃ p : Point, ∀ server,
      row ∈ (((new location sources).loaded history).tables.get source).rows server →
        row.Tells p := by
    intro row
    by_cases hMade : ∃ batch ∈ history, ∃ p ∈ batch.points, Row.ofPoint p = .ok row
    · obtain ⟨batch, hBatch, p, hPoint, hRow⟩ := hMade
      obtain ⟨q, hTells⟩ := Row.exists_tells (hAware batch hBatch p hPoint)
        (hEra batch hBatch p hPoint) (Row.ofPoint_eq_ok_iff.mp hRow).1
      exact ⟨q, fun _ _ => hTells⟩
    · refine ⟨⟨.universal 0, .zero⟩, fun server hRow => absurd ?_ hMade⟩
      refine ((Sound.new location sources).mem_rows_loaded hRow).resolve_left ?_
      rw [hNone]
      exact List.not_mem_nil
  choose told hTells using hTold
  exact ⟨told, fun server row hRow => hTells row server hRow⟩

namespace Store

theorem load_database (db : Database) (history : History) :
    (database db).load history = database (db.loaded history) := by
  induction history generalizing db with
  | nil => rfl
  | cons batch history ih =>
      rw [load_cons]
      exact ih _

variable {location : Location} {sources : List String} {history : History} {source : String}

theorem readsConsistently_memory (hAware : history.Aware) (source : String) :
    ((memory .empty).load history).ReadsConsistently source := by
  rw [load_memory]
  exact Memory.readsConsistently fun server => hAware.written source server

/-- Nothing keeps a call from the table of a source after writes if nothing does before. -/
theorem refusal_loaded (history : History)
    (hSource : (Database.new location sources).refusal source = none) :
    ((Database.new location sources).loaded history).refusal source = none := by
  have h := Database.Sound.new location sources
  rw [Database.refusal_congr (h.loaded_location history) (h.loaded_sources history), hSource]

theorem readsConsistently_database (hAware : history.Aware)
    (hSource : (Database.new location sources).refusal source = none)
    (hEra : ∀ batch ∈ history, ∀ p ∈ batch.points, InEra p.time.sinceEpoch) :
    ((database (.new location sources)).load history).ReadsConsistently source := by
  obtain ⟨told, hTells⟩ := Database.exists_told_loaded hAware hEra source
  rw [load_database]
  exact (((Database.Sound.new location sources).after _).observes
      (refusal_loaded history hSource)).readsConsistently
    (fun server row hMem => hTells server row (List.mem_reverse.mp hMem))
    fun server => (List.reverse_perm _).symm

/-- Whatever was written to a store without failure, its reads about a source are consistent. The
times have offsets, and for a database they lie in the era. -/
theorem reads_consistent (source : String) (history : History) (hAware : history.Aware) :
    ((memory .empty).load history).ReadsConsistently source ∧
      ∀ location sources, (Database.new location sources).Accepts history →
        (Database.new location sources).refusal source = none →
          (∀ batch ∈ history, ∀ p ∈ batch.points, InEra p.time.sinceEpoch) →
            ((database (.new location sources)).load history).ReadsConsistently source :=
  ⟨readsConsistently_memory hAware source, fun _ _ _ hSource hEra =>
    readsConsistently_database hAware hSource hEra⟩

/-- Two points of one instant, of which a database keeps one, and a point of another. -/
theorem reads_consistent_oneInstant :
    let history : History := [Database.oneInstant, Database.otherInstant]
    let sources := ["metrics_1m_avg"]
    history.Aware ∧ (Database.new .memory sources).Accepts history ∧
      (Database.new .memory sources).refusal "metrics_1m_avg" = none ∧
        (∀ batch ∈ history, ∀ p ∈ batch.points, InEra p.time.sinceEpoch) ∧
          ((memory .empty).load history).ReadsConsistently "metrics_1m_avg" ∧
            ((database (.new .memory sources)).load history).ReadsConsistently
              "metrics_1m_avg" := by
  intro history sources
  have hAware : history.Aware := by
    rw [History.Aware]
    decide
  have hAccepts : (Database.new .memory sources).Accepts history := ⟨rfl, rfl, trivial⟩
  have hEra : ∀ batch ∈ history, ∀ p ∈ batch.points, InEra p.time.sinceEpoch := by decide
  obtain ⟨hMemory, hDatabase⟩ := reads_consistent "metrics_1m_avg" history hAware
  exact ⟨hAware, hAccepts, rfl, hEra, hMemory, hDatabase _ _ hAccepts rfl hEra⟩

end Store

end Rollup
