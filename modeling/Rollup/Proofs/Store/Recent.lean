import Mathlib
import Rollup.Proofs.Store.Consistency

/-!
The most recent rows of a server. A database gives as many as it is asked for, as long as there are
so many. A store in memory leaves out what lies before that many rows at the end; asked for none, it
leaves out none.
-/
namespace Rollup

/-- The rows shown are the most recent ones of some, in order of time, up to a limit. -/
structure MostRecent (rows : List Point) (limit : Nat) (shown : List Point) : Prop where
  length : shown.length = min limit rows.length
  newest : ∃ older, (older ++ shown).Perm rows ∧
    (older ++ shown).Pairwise fun a b => a.time.position ≤ b.time.position

/-- The end of all rows in order of time has the most recent ones. -/
theorem mostRecent_drop {rows all : List Point} (hPerm : all.Perm rows)
    (hSorted : all.Pairwise fun a b => a.time.position ≤ b.time.position) (limit : Nat) :
    MostRecent rows limit (all.drop (all.length - limit)) := by
  constructor
  · rw [List.length_drop, ← hPerm.length_eq]
    omega
  · refine ⟨all.take (all.length - limit), ?_, ?_⟩
    · rw [List.take_append_drop]
      exact hPerm
    · rw [List.take_append_drop]
      exact hSorted

namespace Store

/-- The store answers with the most recent of the rows that it holds, up to the limit. -/
def HonoursRecent (store : Store) (source server : String) (limit : Nat) : Prop :=
  ∃ rows shown, store.Shows source server rows ∧
    (store.answer (.recent source server limit)).1 = .ok shown ∧ MostRecent rows limit shown

end Store

namespace Memory

variable {m : Memory} {source server : String}

/-- A limit that is not zero is honoured, and zero only where there is nothing to show. -/
theorem honoursRecent_iff (hAware : m.Aware source server) (limit : Nat) :
    (Store.memory m).HonoursRecent source server limit ↔
      0 < limit ∨ m.written source server = [] := by
  have hChronicle := chronicle_chronological (m.written source server)
  have hAnswer := read_recent hAware limit
  constructor
  · rintro ⟨rows, shown, hShows, hShown, hRecent⟩
    rcases Nat.eq_zero_or_pos limit with rfl | hLimit
    · right
      have hAll : shown = m.chronicle source server := Except.ok.inj (hShown.symm.trans hAnswer)
      have hLength := hRecent.length
      rw [Nat.zero_min, List.length_eq_zero_iff, hAll] at hLength
      exact hChronicle.eq_nil_iff.mp hLength
    · exact .inl hLimit
  · intro h
    refine ⟨m.written source server, _, List.Perm.refl _, hAnswer, ?_⟩
    have hLast : lastPoints limit (m.chronicle source server) =
        (m.chronicle source server).drop ((m.chronicle source server).length - limit) := by
      rcases h with hLimit | hNone
      · exact lastPoints_natCast hLimit _
      · rw [chronicle, hChronicle.eq_nil_iff.mpr hNone, List.drop_nil]
        unfold lastPoints
        split <;> exact List.drop_nil
    rw [hLast]
    exact mostRecent_drop hChronicle.perm hChronicle.sorted limit

/-- A limit of zero is answered with all rows. -/
theorem mostRecent_zero (hAware : m.Aware source server) :
    ∃ shown, m.read (.recent source server 0) = .ok shown ∧
      MostRecent (m.written source server) (m.written source server).length shown := by
  have hChronicle := chronicle_chronological (m.written source server)
  refine ⟨m.chronicle source server, read_recent hAware 0, ?_⟩
  have hRecent := mostRecent_drop hChronicle.perm hChronicle.sorted (m.written source server).length
  rwa [hChronicle.length_eq, Nat.sub_self, List.drop_zero] at hRecent

end Memory

namespace Row

variable {rows : List Row} {told : Row → Point}

/-- Rows of falling buckets tell of points that come ever later, from the last row on. -/
theorem Descending.sorted_told (h : Descending rows) (hTold : ∀ row ∈ rows, row.Tells (told row)) :
    (rows.reverse.map told).Pairwise fun a b => a.time.position ≤ b.time.position := by
  rw [List.pairwise_map, List.pairwise_reverse]
  refine h.imp_of_mem ?_
  intro newer older hNewer hOlder hLt
  have hTellsNewer := hTold newer hNewer
  have hTellsOlder := hTold older hOlder
  rw [hTellsNewer.bucket, hTellsOlder.bucket] at hLt
  exact Timestamp.sinceEpoch_le_iff.mp
    ((Bucket.ofMicros_le_ofMicros_iff hTellsOlder.inEra).mp hLt.le)

end Row

namespace Database

variable {db : Database} {source : String} {told : Row → Point}

/-- A database whose rows tell of points of the era honours every limit that it can store. -/
theorem Sound.honoursRecent (h : db.Sound) (hRefusal : db.refusal source = none)
    (hTold : ∀ server, ∀ row ∈ (db.tables.get source).rows server, row.Tells (told row))
    (server : String) {limit : Nat} (hLimit : limit < integerLimit) :
    (Store.database db).HonoursRecent source server limit := by
  have hReversed : ∀ server, ∀ row ∈ ((db.tables.get source).rows server).reverse,
      row.Tells (told row) :=
    fun server row hMem => hTold server row (List.mem_reverse.mp hMem)
  have hShows := shows_told (hReversed server) (List.reverse_perm _).symm
  have hAnswer := (h.observes hRefusal).recent_told hReversed server hLimit
  have hSorted := ((h.tables source).rows_descending server).sorted_told (hTold server)
  exact ⟨_, _, hShows, hAnswer, mostRecent_drop (List.Perm.refl _) hSorted limit⟩

end Database

namespace Store

/-- Whatever was written, every limit is honoured that is not zero, and by a database also zero; a
store in memory gives all rows for a limit of zero. The times have offsets, and for a database they
lie in the era. -/
theorem recent_honoured_iff (history : History) (source server : String) (limit : Nat)
    (hAware : history.Aware) :
    (((memory .empty).load history).HonoursRecent source server limit ↔
        0 < limit ∨ history.written source server = []) ∧
      (∃ shown, (((memory .empty).load history).answer (.recent source server 0)).1 = .ok shown ∧
        MostRecent (history.written source server) (history.written source server).length shown) ∧
      ∀ location sources, (Database.new location sources).refusal source = none →
        (∀ batch ∈ history, ∀ p ∈ batch.points, InEra p.time.sinceEpoch) →
          limit < Database.integerLimit →
            ((database (.new location sources)).load history).HonoursRecent source server limit := by
  have hWritten : Memory.Aware { Memory.empty with batches := Memory.empty.batches ++ history }
      source server := hAware.written source server
  refine ⟨?_, ?_, ?_⟩
  · rw [load_memory]
    exact Memory.honoursRecent_iff hWritten limit
  · rw [load_memory]
    exact Memory.mostRecent_zero hWritten
  · intro location sources hSource hEra hLimit
    obtain ⟨told, hTold⟩ := Database.exists_told_loaded hAware hEra source
    rw [load_database]
    exact ((Database.Sound.new location sources).after _).honoursRecent
      (refusal_loaded history hSource) hTold server hLimit

/-- Of three points, two of one instant, a limit of one shows one. -/
theorem recent_honoured_iff_one :
    let history : History := [Database.oneInstant, Database.otherInstant]
    let sources := ["metrics_1m_avg"]
    history.Aware ∧ (Database.new .memory sources).refusal "metrics_1m_avg" = none ∧
      (∀ batch ∈ history, ∀ p ∈ batch.points, InEra p.time.sinceEpoch) ∧
        1 < Database.integerLimit ∧
          ((memory .empty).load history).HonoursRecent "metrics_1m_avg" "web-1" 1 ∧
            ((database (.new .memory sources)).load history).HonoursRecent
              "metrics_1m_avg" "web-1" 1 := by
  intro history sources
  have hAware : history.Aware := by
    rw [History.Aware]
    decide
  have hEra : ∀ batch ∈ history, ∀ p ∈ batch.points, InEra p.time.sinceEpoch := by decide
  have hLimit : 1 < Database.integerLimit := by decide
  obtain ⟨hMemory, -, hDatabase⟩ :=
    recent_honoured_iff history "metrics_1m_avg" "web-1" 1 hAware
  exact ⟨hAware, rfl, hEra, hLimit, hMemory.mpr (.inl Nat.one_pos),
    hDatabase _ _ rfl hEra hLimit⟩

/-- A limit of zero is answered with the one point that was written. -/
theorem not_recent_honoured_zero :
    let history : History := [⟨"metrics_1m_avg", "web-1", [⟨Window.halfHour.start, .zero⟩]⟩]
    ¬((memory .empty).load history).HonoursRecent "metrics_1m_avg" "web-1" 0 := by
  intro history hHonours
  rw [load_memory, Memory.honoursRecent_iff] at hHonours
  · rcases hHonours with hLimit | hNone
    · exact absurd hLimit (lt_irrefl 0)
    · cases hNone
  · rw [Memory.Aware, AllAware]
    decide

end Store
end Rollup
