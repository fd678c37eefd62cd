import Mathlib
import Rollup.Proofs.Series.Reference
import Rollup.Proofs.Store.Held

/-!
How many rows a window matches where any two rows of a server stand a bucket apart. The tier for the
length of a window has buckets wide enough that no window that callers may ask for matches more
than 721 rows, which is far below the usual cap.
-/
namespace Rollup

/-- How wide the buckets of a tier are. -/
def Tier.width : Tier → Nat
  | .oneMinute => 60 * second
  | .fiveMinutes => 5 * 60 * second
  | .tenMinutes => 10 * 60 * second
  | .oneHour => hour

/-- The two lie on one time line, at least so far apart. -/
def Timestamp.Apart (width : Nat) (a b : Timestamp) : Prop :=
  ∃ gap, a.gap? b = some gap ∧ width ≤ gap.natAbs

/-- Any two rows of the server in the source are at least so far apart. -/
def Memory.Spaced (m : Memory) (source server : String) (width : Nat) : Prop :=
  (m.written source server).Pairwise fun a b => a.time.Apart width b.time

variable {width : Nat}

theorem Tier.width_pos (tier : Tier) : 0 < tier.width := by
  cases tier <;> decide

namespace Timestamp.Apart

variable {a b : Timestamp}

theorem symm (h : a.Apart width b) : b.Apart width a := by
  obtain ⟨gap, hGap, hWidth⟩ := h
  rw [gap?] at hGap
  split at hGap
  · rename_i hLine
    cases hGap
    refine ⟨b.position - a.position, if_pos hLine.symm, ?_⟩
    omega
  · cases hGap

/-- Where the first is not after the second, the second comes a width later. -/
theorem add_le (h : a.Apart width b) (hOrder : a.position ≤ b.position) :
    a.position + width ≤ b.position := by
  obtain ⟨gap, hGap, hWidth⟩ := h
  rw [gap?] at hGap
  split at hGap
  · cases hGap
    omega
  · cases hGap

end Timestamp.Apart

/-- Places that go up by at least a width, between two ends. Each of them but the first takes up a
width of its own. -/
theorem length_le_of_spaced {places : List Int} {first last : Int} (hWidth : 0 < width)
    (hOrder : first ≤ last) (hSpaced : places.Pairwise fun a b : Int => a + width ≤ b)
    (hInside : ∀ place ∈ places, first ≤ place ∧ place ≤ last) :
    (places.length : Int) ≤ (last - first) / width + 1 := by
  have hPositive : (0 : Int) < width := by omega
  induction places generalizing first with
  | nil =>
      have hQuotient := Int.ediv_nonneg (Int.sub_nonneg_of_le hOrder) hPositive.le
      rw [List.length_nil]
      omega
  | cons place places ih =>
      obtain ⟨hNext, hRest⟩ := List.pairwise_cons.mp hSpaced
      obtain ⟨hHere, hThere⟩ := List.forall_mem_cons.mp hInside
      have hMono : (last - place) / width ≤ (last - first) / width :=
        Int.ediv_le_ediv hPositive (by omega)
      rw [List.length_cons, Nat.cast_succ]
      by_cases hFits : place + width ≤ last
      · have hCount := ih hFits hRest fun next hMem => ⟨hNext next hMem, (hThere next hMem).2⟩
        have hStep : (last - (place + width)) / (width : Int) = (last - place) / width - 1 := by
          rw [← Int.sub_sub, Int.sub_ediv_of_dvd _ (Int.dvd_refl _), Int.ediv_self hPositive.ne']
        omega
      · have hNone : places = [] := by
          refine List.eq_nil_iff_forall_not_mem.mpr fun next hMem => hFits ?_
          exact (hNext next hMem).trans (hThere next hMem).2
        have hQuotient := Int.ediv_nonneg (Int.sub_nonneg_of_le hHere.2) hPositive.le
        rw [hNone, List.length_nil]
        omega

namespace Memory

variable {m : Memory} {source server : String} {window : Window}

theorem Spaced.pairwise_held (h : m.Spaced source server width) :
    ((m.held source server window).map fun p => p.time.position).Pairwise fun a b : Int =>
      a + width ≤ b := by
  have hChronicle := chronicle_chronological (m.written source server)
  have hApart : (m.chronicle source server).Pairwise fun a b => a.time.Apart width b.time :=
    List.Pairwise.perm h hChronicle.perm.symm fun hFar => hFar.symm
  rw [List.pairwise_map]
  refine List.Pairwise.filter window.holds ?_
  exact (hApart.and hChronicle.sorted).imp fun hBoth => hBoth.1.add_le hBoth.2

/-- A window that does not end before it starts holds one row, and one more for each width in it. -/
theorem Spaced.length_held_le (h : m.Spaced source server width) (hWidth : 0 < width)
    (hOrder : window.start.position ≤ window.stop.position) :
    ((m.held source server window).length : Int) ≤
      (window.stop.position - window.start.position) / width + 1 := by
  rw [← List.length_map fun p : Point => p.time.position]
  refine length_le_of_spaced hWidth hOrder h.pairwise_held ?_
  intro place hPlace
  obtain ⟨p, hMem, rfl⟩ := List.mem_map.mp hPlace
  exact (mem_held_iff.mp hMem).2

end Memory

/-- The rows that a window of some length matches in the tier for that length: one, and one more for
each bucket in it. The bounds go with the lengths up to which each tier is read. -/
structure Window.Few (length count : Int) : Prop where
  spaced : count ≤ length / (Tier.forSpan length).width + 1
  one_minute : length ≤ hour → count ≤ 61
  five_minutes : hour < length → length ≤ 3 * hour → count ≤ 37
  ten_minutes : 3 * hour < length → length ≤ day → count ≤ 145
  thirty_days : length ≤ 30 * day → count ≤ 721

theorem Window.few_of_le {length count : Int}
    (h : count ≤ length / (Tier.forSpan length).width + 1) : Window.Few length count where
  spaced := h
  one_minute hShort := by
    rw [Tier.forSpan, if_pos hShort] at h
    simp only [Tier.width, hour, second] at h hShort
    omega
  five_minutes hLong hShort := by
    rw [Tier.forSpan, if_neg hLong.not_ge, if_pos hShort] at h
    simp only [Tier.width, hour, second] at h hShort
    omega
  ten_minutes hLong hShort := by
    have hHour : ¬length ≤ hour := by
      simp only [hour, second] at hLong ⊢
      omega
    rw [Tier.forSpan, if_neg hHour, if_neg hLong.not_ge, if_pos hShort] at h
    simp only [Tier.width, day, hour, second] at h hShort
    omega
  thirty_days hShort := by
    unfold Tier.forSpan at h
    split_ifs at h <;> simp only [Tier.width, day, hour, second] at * <;> omega

namespace Series

open Program

variable {policy : Policy} {server : String} {window : Window} {tier : Tier} {allowed : Bool}
  {exchanges : List Exchange} {series : Series} {store : Store} {m : Memory}

theorem StandInCourse.truncated_eq_false
    (course : StandInCourse policy server window tier allowed exchanges (.ok series)) :
    series.truncated = false := by
  cases course <;> rfl

/-- A series is not cut short where the cap allows all rows that the store holds in the window. -/
theorem Course.truncated_eq_false
    (course : Course policy server window tier allowed exchanges (.ok series)) (h : store.Sound)
    (hAnswers : ∀ exchange ∈ exchanges, exchange.answer = (store.answer exchange.question).1)
    (hCap : (store.held (policy.source tier) server window).length ≤ policy.rowCap) :
    series.truncated = false := by
  cases course with
  | closed hWindow => rfl
  | counted hWindow follow => exact follow.truncated_eq_false
  | vanished hWindow hCount follow => exact follow.truncated_eq_false
  | shown hWindow hCount hPoints =>
      have hCounted := h.count_eq (hAnswers _ List.mem_cons_self).symm
      have hRead := h.range_eq (hAnswers _ (List.mem_cons_of_mem _ List.mem_cons_self)).symm
      have hLength := congrArg List.length hRead
      rw [List.length_map, List.length_take] at hLength
      rw [decide_eq_false_iff_not, hCounted]
      omega

/-- What is read of a window of some length if no tier is given: few rows in the tier for the
length, and with the usual cap all of them, as long as the window may be asked for by default. Over
rows and windows that know their offsets the read succeeds. -/
structure ReadsFew (policy : Policy) (m : Memory) (server : String) (window : Window)
    (length : Int) : Prop where
  tier : tierFor none server window = .ok (Tier.forSpan length)
  few : ∀ count, m.read (.count (policy.source (Tier.forSpan length)) server window) = .ok count →
    Window.Few length count
  whole : policy.rowCap = Policy.defaultRowCap → length ≤ Window.defaultLimit →
    ∀ (allowed : Bool) {κ : Type} (clock : κ → Except Failure Timestamp × κ) (hand : κ) series,
      ((Series.read policy server window none allowed).run (Store.backend clock)
        (.memory m, hand)).result = .ok series → series.truncated = false
  answered : m.Aware (policy.source (Tier.forSpan length)) server → window.Aware →
    (∃ count, m.read (.count (policy.source (Tier.forSpan length)) server window) = .ok count) ∧
      ∀ (allowed : Bool) {κ : Type} (clock : κ → Except Failure Timestamp × κ) (hand : κ),
        ∃ series, ((Series.read policy server window none allowed).run (Store.backend clock)
          (.memory m, hand)).result = .ok series

/-- Rows that stand a bucket apart in the source of every tier are few in every window that does not
end before it starts. -/
theorem reads_few_of_spaced (policy : Policy)
    (hSpaced : ∀ tier server, m.Spaced (policy.source tier) server tier.width) (server : String)
    {length : Int} (hLength : window.stop.minus window.start = .ok length) (hOrder : 0 ≤ length) :
    ReadsFew policy m server window length := by
  obtain ⟨hLine, rfl⟩ := Timestamp.minus_eq_ok_iff.mp hLength
  set tier := Tier.forSpan (window.stop.position - window.start.position) with hForSpan
  have hTier : tier.IsMeant none window := hForSpan.symm
  have hHeld : ((m.held (policy.source tier) server window).length : Int) ≤
      (window.stop.position - window.start.position) / tier.width + 1 :=
    (hSpaced tier server).length_held_le tier.width_pos (by omega)
  have hFew := Window.few_of_le hHeld
  constructor
  · exact tierFor_eq hLine.symm hTier
  · intro count hCount
    rw [Memory.count_eq hCount]
    exact hFew
  · intro hCap hShort allowed κ clock hand series hResult
    have hCourse : Course policy server window tier allowed _ _ :=
      course_run hLine.symm hTier (Store.backend clock) (.memory m, hand)
    rw [hResult] at hCourse
    have hSound : (Store.memory m).Sound := trivial
    refine hCourse.truncated_eq_false hSound (Store.answer_of_mem_transcript_memory _) ?_
    have hMost : (m.held (policy.source tier) server window).length ≤ 721 := by
      exact_mod_cast hFew.thirty_days hShort
    rw [Store.held, List.length_map, hCap]
    exact hMost.trans (by decide)
  · intro hAware hWindow
    refine ⟨⟨_, Memory.read_count hAware hWindow⟩, fun allowed κ clock hand => ?_⟩
    have hCourse : Course policy server window tier allowed _ _ :=
      course_run hLine.symm hTier (Store.backend clock) (.memory m, hand)
    exact ⟨_, hCourse.result_eq hAware hWindow (Store.answer_of_mem_transcript_memory _)⟩

/-- An hour by universal time. -/
def fullHour : Window :=
  ⟨.universal (738500 * day), .universal (738500 * day + 3600 * second)⟩

/-- The row at a minute of the hour, from its start to its end. -/
def minuteRow (minute : Fin 61) : Point where
  time := .universal (738500 * day + minute * (60 * second)) <| by
    simp only [Calendar.dayCount, day, hour, second]
    omega
  readings := .zero

/-- A store with a row at every minute of the hour, both ends included. -/
def everyMinute : Memory := ⟨[⟨"metrics_1m_avg", "web-1", List.ofFn minuteRow⟩], []⟩

theorem spaced_everyMinute (tier : Tier) (server : String) :
    everyMinute.Spaced (Policy.usual.source tier) server tier.width := by
  have hWritten : everyMinute.written (Policy.usual.source tier) server =
      if "metrics_1m_avg" = Policy.usual.source tier ∧ "web-1" = server then List.ofFn minuteRow
      else [] := List.flatMap_singleton _ _
  rw [Memory.Spaced, hWritten]
  split
  · rename_i hHere
    have hTier : tier = .oneMinute := by
      cases tier with
      | oneMinute => rfl
      | _ => exact absurd hHere.1 (by decide)
    rw [hTier, List.pairwise_ofFn]
    intro earlier later hLess
    refine ⟨(earlier : Int) * (60 * second) - later * (60 * second), ?_, ?_⟩
    · simp [minuteRow, Timestamp.universal, Timestamp.gap?, Timestamp.isAware, Timestamp.position]
    · simp only [Tier.width, second]
      omega
  · exact List.Pairwise.nil

theorem aware_everyMinute : everyMinute.Aware "metrics_1m_avg" "web-1" := by
  have hRows : everyMinute.written "metrics_1m_avg" "web-1" = List.ofFn minuteRow := rfl
  intro p hMem
  rw [hRows] at hMem
  obtain ⟨minute, rfl⟩ := List.mem_ofFn.mp hMem
  rfl

/-- There the window matches the most rows that it may. -/
theorem reads_few_of_spaced_everyMinute :
    (∀ tier server, everyMinute.Spaced (Policy.usual.source tier) server tier.width) ∧
      fullHour.stop.minus fullHour.start = .ok hour ∧ (0 : Int) ≤ hour ∧
        everyMinute.read (.count "metrics_1m_avg" "web-1" fullHour) = .ok (61 : Int) ∧
          ReadsFew .usual everyMinute "web-1" fullHour hour := by
  have hCount : everyMinute.read (.count "metrics_1m_avg" "web-1" fullHour) = .ok (61 : Int) := by
    have hHeld := (chronicle_chronological
      (everyMinute.written "metrics_1m_avg" "web-1")).perm.filter fullHour.holds
    rw [Memory.read_count aware_everyMinute ⟨rfl, rfl⟩, Memory.chronicle, hHeld.length_eq]
    rfl
  exact ⟨spaced_everyMinute, rfl, by decide, hCount,
    reads_few_of_spaced .usual spaced_everyMinute "web-1" rfl (by decide)⟩

end Series

end Rollup
