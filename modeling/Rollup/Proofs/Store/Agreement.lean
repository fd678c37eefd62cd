import Mathlib
import Rollup.Proofs.Store.Census

/-!
Both stores say the same. After every history that a database keeps up with, it answers every fair
question about its sources as a store in memory does.
-/
namespace Rollup

/-- A database answers a question as a store in memory does. -/
def Database.Retells (db : Database) (m : Memory) (question : Read) : Prop :=
  ∃ answer retold, m.read question = .ok answer ∧ (db.answer question).1 = .ok retold ∧
    question.Retold answer retold

theorem Database.bindable_of_lt {limit : Nat} (h : limit < integerLimit) :
    bindable limit = .ok () := by
  have hFits : fits limit = true := by
    rw [fits, decide_eq_true_eq]
    omega
  rw [bindable, if_pos hFits]

theorem Database.ends_eq {window : Window} (h : window.Aware) :
    ends window =
      .ok (Bucket.ofMicros window.start.sinceEpoch, Bucket.ofMicros window.stop.sinceEpoch) := by
  rw [ends, Bucket.ofTime_eq h.start, Bucket.ofTime_eq h.stop]
  rfl

theorem History.Storable.aware_memory {history : History} {sources : List String}
    (h : history.Storable sources) {source server : String} :
    Memory.Aware ⟨history, []⟩ source server :=
  fun _ hMem => (h.storable_of_mem_written hMem).aware

namespace Database.Mirrors

variable {db : Database} {history : History} {source : String}
  (h : db.Mirrors history) (hHistory : history.Storable db.sources) (hSource : source ∈ db.sources)
include h hHistory hSource

theorem between_eq (server : String) (window : Window) :
    (db.tables.get source).between server (Bucket.ofMicros window.start.sinceEpoch)
        (Bucket.ofMicros window.stop.sinceEpoch) =
      ((chronological (history.written source server)).filter window.holds).map Point.row := by
  rw [Table.between, h.rows_eq hHistory hSource, List.filter_reverse, List.reverse_reverse,
    List.filter_map]
  congr 1
  refine List.filter_congr fun p hMem => ?_
  have hStorable := hHistory.storable_of_mem_written ((chronicle_chronological _).mem_iff.mp hMem)
  rw [Function.comp_apply, Bool.eq_iff_iff, decide_eq_true_eq, Point.holds_iff hStorable]

/-- The last points of a server are read alike. -/
theorem recent_retold (server : String) {limit : Nat} (hLimit : limit < integerLimit) :
    ∃ retold, recent (db.tables.get source) server limit = .ok retold ∧
      List.Forall₂ Point.Retold ((chronological (history.written source server)).drop
        ((chronological (history.written source server)).length - limit)) retold := by
  set all := chronological (history.written source server)
  have hNewest : ∀ p ∈ (all.drop (all.length - limit)).reverse, p.Storable := by
    intro p hMem
    have hAll := List.mem_of_mem_drop (List.mem_reverse.mp hMem)
    exact hHistory.storable_of_mem_written ((chronicle_chronological _).mem_iff.mp hAll)
  obtain ⟨newestFirst, hPoints, hRetold⟩ := Point.retold_points hNewest
  refine ⟨newestFirst.reverse, ?_, ?_⟩
  · rw [recent, bindable_of_lt hLimit, bounded_natCast, h.rows_eq hHistory hSource,
      List.take_reverse, List.length_map, ← List.map_drop, ← List.map_reverse, hPoints]
    rfl
  · rw [← List.forall₂_reverse_iff, List.reverse_reverse]
    exact hRetold

theorem retells_range (server : String) {window : Window} (hWindow : window.Aware) {limit : Nat}
    (hLimit : limit < integerLimit) :
    db.Retells ⟨history, []⟩ (.range source server window limit) := by
  have hStorable : ∀ p ∈ ((chronological (history.written source server)).filter
      window.holds).take limit, p.Storable := by
    intro p hMem
    have hAll := List.mem_of_mem_filter (List.mem_of_mem_take hMem)
    exact hHistory.storable_of_mem_written ((chronicle_chronological _).mem_iff.mp hAll)
  obtain ⟨retold, hPoints, hRetold⟩ := Point.retold_points hStorable
  refine ⟨_, retold, Memory.read_range hHistory.aware_memory hWindow limit, ?_, ?_⟩
  · rw [answer, h.sound.serve_of_refusal_eq_none (h.refusal_eq hSource) (ends_eq hWindow)]
    dsimp only
    rw [bindable_of_lt hLimit, h.between_eq hHistory hSource, bounded_natCast, ← List.map_take]
    exact hPoints
  · rw [Memory.firstPoints_natCast]
    exact hRetold

theorem retells_count (server : String) {window : Window} (hWindow : window.Aware) :
    db.Retells ⟨history, []⟩ (.count source server window) := by
  refine ⟨_, _, Memory.read_count hHistory.aware_memory hWindow, ?_, rfl⟩
  rw [answer, h.sound.serve_of_refusal_eq_none (h.refusal_eq hSource) (ends_eq hWindow)]
  dsimp only
  rw [h.between_eq hHistory hSource, List.length_map]
  rfl

theorem retells_recent (server : String) {limit : Nat} (hPositive : 0 < limit)
    (hLimit : limit < integerLimit) :
    db.Retells ⟨history, []⟩ (.recent source server limit) := by
  obtain ⟨retold, hRecent, hRetold⟩ := h.recent_retold hHistory hSource server hLimit
  refine ⟨_, retold, Memory.read_recent hHistory.aware_memory limit, ?_, ?_⟩
  · rw [answer, h.sound.serve_of_refusal_eq_none (h.refusal_eq hSource) rfl]
    exact hRecent
  · rw [Memory.lastPoints_natCast hPositive]
    exact hRetold

theorem retells_latest (server : String) : db.Retells ⟨history, []⟩ (.latest source server) := by
  obtain ⟨retold, hRecent, hRetold⟩ := h.recent_retold hHistory hSource server
    (show 1 < integerLimit by decide)
  refine ⟨_, retold.head?, Memory.read_latest hHistory.aware_memory, ?_, ?_⟩
  · rw [answer, h.sound.serve_of_refusal_eq_none (h.refusal_eq hSource) rfl]
    dsimp only
    rw [Nat.cast_one] at hRecent
    rw [hRecent]
    rfl
  · change Option.Rel Point.Retold
      (chronological (history.written source server)).getLast? retold.head?
    generalize chronological (history.written source server) = all at hRetold
    rcases List.eq_nil_or_concat all with rfl | ⟨first, last, rfl⟩
    · cases hRetold
      exact .none
    · have hDrop : (first ++ [last]).drop ((first ++ [last]).length - 1) = [last] := by simp
      rw [List.concat_eq_append] at hRetold ⊢
      rw [hDrop] at hRetold
      cases hRetold with
      | cons hLast hNone =>
          rw [List.getLast?_concat]
          exact .some hLast

theorem retells_stats : db.Retells ⟨history, []⟩ (.stats source) := by
  obtain ⟨held, retold, hHeld, hStats, hRetold⟩ := h.stats_retold hHistory hSource
  refine ⟨held, retold, hHeld, ?_, hRetold⟩
  rw [answer, h.sound.serve_of_refusal_eq_none (h.refusal_eq hSource) rfl]
  exact hStats

theorem retells {question : Read} (hQuestion : question.source = source) (hFair : question.Fair) :
    db.Retells ⟨history, []⟩ question := by
  subst hQuestion
  cases question with
  | range source server window limit =>
      obtain ⟨hWindow, hPositive, hLimit⟩ := hFair
      obtain ⟨limit, rfl⟩ := Int.eq_ofNat_of_zero_le (Int.le_of_lt hPositive)
      exact h.retells_range hHistory hSource server hWindow (Int.ofNat_lt.mp hLimit)
  | count source server window => exact h.retells_count hHistory hSource server hFair
  | latest source server => exact h.retells_latest hHistory hSource server
  | recent source server limit =>
      obtain ⟨hPositive, hLimit⟩ := hFair
      obtain ⟨limit, rfl⟩ := Int.eq_ofNat_of_zero_le (Int.le_of_lt hPositive)
      exact h.retells_recent hHistory hSource server (Int.ofNat_lt.mp hPositive)
        (Int.ofNat_lt.mp hLimit)
  | stats source => exact h.retells_stats hHistory hSource

end Database.Mirrors

namespace Store

variable {history : History} {sources : List String} {location : Location} {question : Read}

/-- Whatever was written to both stores, they answer a fair question alike, where each point can be
stored and no two points of one server share a time. -/
theorem answers_agree (hSources : Schema.Sound sources) (hLocation : location ≠ .unreachable)
    (hHistory : history.Storable sources) (hSource : question.source ∈ sources)
    (hFair : question.Fair) :
    ∃ answer retold,
      (((memory .empty).load history).answer question).1 = .ok answer ∧
        (((database (.new location sources)).load history).answer question).1 = .ok retold ∧
          question.Retold answer retold := by
  have hNew := Database.Mirrors.new hSources hLocation
  have hWhole : History.Storable ([] ++ history) sources := hHistory
  obtain ⟨db, hLoad, hSame, hMirrors⟩ := hNew.load hSources hWhole
  rw [List.nil_append] at hMirrors
  change db.sources = sources at hSame
  subst hSame
  rw [hLoad, load_memory]
  exact hMirrors.retells hHistory hSource rfl hFair

/-- Two sources, one of them with two points written out of order. -/
theorem answers_agree_unordered :
    let history : History := [
      ⟨"metrics_1m_avg", "web-1",
        [⟨.universal (738000 * day + 60 * second), .zero⟩, ⟨.universal (738000 * day), .zero⟩]⟩,
      ⟨"metrics_5m_avg", "web-1", [⟨.universal (738000 * day), .zero⟩]⟩]
    let sources := ["metrics_1m_avg", "metrics_5m_avg"]
    let question : Read := .range "metrics_1m_avg" "web-1" .halfHour 1
    Schema.Sound sources ∧ Location.memory ≠ .unreachable ∧ history.Storable sources ∧
      question.source ∈ sources ∧ question.Fair ∧
        ∃ answer retold,
          (((memory .empty).load history).answer question).1 = .ok answer ∧
            (((database (.new .memory sources)).load history).answer question).1 = .ok retold ∧
              question.Retold answer retold := by
  intro history sources question
  have hSources : Schema.Sound sources := ⟨by decide, by decide⟩
  have hLocation : Location.memory ≠ .unreachable := by decide
  have hPlain : Readings.zero.Plain := by decide
  have hFits : Database.fits Readings.zero.samples = true := by decide
  have hFirst : Point.Storable ⟨.universal (738000 * day), .zero⟩ :=
    ⟨rfl, by decide, hPlain, hFits⟩
  have hLater : Point.Storable ⟨.universal (738000 * day + 60 * second), .zero⟩ :=
    ⟨rfl, by decide, hPlain, hFits⟩
  have hHistory : history.Storable sources := by
    refine ⟨by simp [history, sources], by simp [history, hFirst, hLater], ?_⟩
    intro source server
    have hApart : (Timestamp.universal (738000 * day + 60 * second)).position ≠
        (Timestamp.universal (738000 * day)).position := by decide
    simp only [history, History.written, List.flatMap_cons, List.flatMap_nil,
      Memory.Batch.pointsFor]
    split_ifs with hOne hOther
    · exact absurd (hOne.1.trans hOther.1.symm) (by decide)
    · simpa using hApart
    · simp
    · simp
  have hFair : question.Fair := ⟨⟨rfl, rfl⟩, by decide, by decide⟩
  exact ⟨hSources, hLocation, hHistory, by decide, hFair,
    answers_agree hSources hLocation hHistory (by decide) hFair⟩

end Store

end Rollup
