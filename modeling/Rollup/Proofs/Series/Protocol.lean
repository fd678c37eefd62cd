import Mathlib
import Rollup.Proofs.Policy
import Rollup.Proofs.Series.Course

/-!
The protocol between the read of a series and its backend, for backends that may answer anything,
differently at every call, or fail. It fixes the order of the questions, the answers after which
each is put, what becomes of a failure, and how a result without failure describes itself.
-/
namespace Rollup

open Program

/-- What the caller of a read gets for a failure of one of its questions: the library's own causes
and cancellation as they are, all else as the store being unavailable for that question. -/
def Failure.Translated (question : Read) (server : String) (failure seen : Failure) : Prop :=
  (failure.isOwn = true → seen = failure) ∧
  (failure.isOwn = false → failure.isOrdinary = true →
    seen = .unavailable question.kind.name (some server) (some failure)) ∧
  (failure.isOrdinary = false → seen = failure)

theorem Failure.translated_asSeen {question : Read} {server : String}
    (hServer : question.server? = some server) (failure : Failure) :
    failure.Translated question server (asSeen question failure) := by
  refine ⟨?_, ?_, ?_⟩
  · intro hOwn
    simp [asSeen, hOwn]
  · intro hOwn hOrdinary
    simp [asSeen, hOwn, hOrdinary, hServer]
  · intro hOrdinary
    simp [asSeen, hOrdinary]

namespace Series

variable (policy : Policy) (server : String) (window : Window) (tier : Tier)

/-- How a result describes itself, by the answers that led to it. -/
structure Described (exchanges : List Exchange) (series : Series) : Prop where
  server_eq : series.server = server
  window_eq : series.window = window
  tier_eq : series.tier = tier
  noData_iff : series.points = [] ↔ series.notice = some .noData
  substituted_iff : series.notice = some .substituted ↔
    series.points ≠ [] ∧ ⟨recentQuestion policy server tier, .ok series.points⟩ ∈ exchanges
  none_iff : series.notice = none ↔
    series.points ≠ [] ∧ ⟨rangeQuestion policy server window tier, .ok series.points⟩ ∈ exchanges
  truncated_iff : series.truncated = true ↔ series.notice = none ∧ ∃ count : Int,
    ⟨countQuestion policy server window tier, .ok count⟩ ∈ exchanges ∧
      series.points.length < count

variable {policy server window tier} {allowed : Bool} {exchanges : List Exchange}
  {result : Except Failure Series}

/-- Substitutes describe themselves, if they are what was answered and the window showed nothing. -/
theorem described_standIn {points : List Point}
    (hRecent : points ≠ [] → ⟨recentQuestion policy server tier, .ok points⟩ ∈ exchanges)
    (hRange : ∀ points, ⟨rangeQuestion policy server window tier, .ok points⟩ ∈ exchanges →
      points = []) :
    Described policy server window tier exchanges (standIn server window tier points) where
  server_eq := rfl
  window_eq := rfl
  tier_eq := rfl
  noData_iff := by simp [standIn]
  substituted_iff := by
    simp only [standIn, List.isEmpty_iff, Option.some.injEq, ite_eq_right_iff, reduceCtorEq,
      imp_false]
    exact ⟨fun hPoints => ⟨hPoints, hRecent hPoints⟩, And.left⟩
  none_iff := by
    simp only [standIn, reduceCtorEq, false_iff, not_and]
    exact fun hPoints hMem => hPoints (hRange _ hMem)
  truncated_iff := by simp [standIn]

namespace StandInCourse

theorem failure_seen (course : StandInCourse policy server window tier allowed exchanges result)
    {exchange : Exchange} {failure : Failure} (hMem : exchange ∈ exchanges)
    (hFailed : exchange.answer = .error failure) :
    ∃ seen, result = .error seen ∧ failure.Translated exchange.question server seen := by
  cases course with
  | barred => cases hMem
  | failed failure =>
      rw [List.mem_singleton] at hMem
      subst hMem
      cases hFailed
      exact ⟨_, rfl, Failure.translated_asSeen rfl failure⟩
  | shown points =>
      rw [List.mem_singleton] at hMem
      subst hMem
      cases hFailed

theorem answered (course : StandInCourse policy server window tier allowed exchanges result)
    (hAnswered : ∀ exchange ∈ exchanges, ¬exchange.Failed) :
    ∃ points, result = .ok (standIn server window tier points) ∧
      (points ≠ [] → ⟨recentQuestion policy server tier, .ok points⟩ ∈ exchanges) := by
  cases course with
  | barred => exact ⟨[], rfl, absurd rfl⟩
  | failed failure => exact absurd ⟨failure, rfl⟩ (hAnswered _ List.mem_cons_self)
  | shown points => exact ⟨points, rfl, fun _ => List.mem_cons_self⟩

/-- Only a failed question makes it fail. -/
theorem exists_failed {seen : Failure}
    (course : StandInCourse policy server window tier allowed exchanges (.error seen)) :
    ∃ exchange ∈ exchanges, ∃ failure, exchange.answer = .error failure ∧
      seen = asSeen exchange.question failure := by
  cases course with
  | failed failure => exact ⟨_, List.mem_cons_self, failure, rfl, rfl⟩

end StandInCourse

namespace Course

theorem order (course : Course policy server window tier allowed exchanges result) :
    exchanges.map Exchange.question <+:
        [countQuestion policy server window tier, recentQuestion policy server tier] ∨
      exchanges.map Exchange.question <+:
        [countQuestion policy server window tier, rangeQuestion policy server window tier,
          recentQuestion policy server tier] := by
  cases course with
  | closed hWindow => simp
  | uncounted hWindow failure => simp
  | counted hWindow follow => cases follow <;> simp
  | unread hWindow hCount failure => simp
  | vanished hWindow hCount follow => cases follow <;> simp
  | shown hWindow hCount hPoints => simp

theorem silent_iff (course : Course policy server window tier allowed exchanges result) :
    exchanges = [] ↔ window.stop.position ≤ window.start.position := by
  cases course with
  | closed hWindow => simpa using hWindow
  | uncounted hWindow failure => simpa using hWindow
  | counted hWindow follow => simpa using hWindow
  | unread hWindow hCount failure => simpa using hWindow
  | vanished hWindow hCount follow => simpa using hWindow
  | shown hWindow hCount hPoints => simpa using hWindow

/-- What a failed question does to the result does not depend on the way there. -/
theorem failure_seen (course : Course policy server window tier allowed exchanges result)
    {exchange : Exchange} {failure : Failure} (hMem : exchange ∈ exchanges)
    (hFailed : exchange.answer = .error failure) :
    ∃ seen, result = .error seen ∧ failure.Translated exchange.question server seen := by
  cases course with
  | closed hWindow => cases hMem
  | uncounted hWindow failure =>
      rw [List.mem_singleton] at hMem
      subst hMem
      cases hFailed
      exact ⟨_, rfl, Failure.translated_asSeen rfl failure⟩
  | counted hWindow follow =>
      rcases List.mem_cons.mp hMem with rfl | hMem
      · cases hFailed
      · exact follow.failure_seen hMem hFailed
  | unread hWindow hCount failure =>
      rcases List.mem_cons.mp hMem with rfl | hMem
      · cases hFailed
      · rw [List.mem_singleton] at hMem
        subst hMem
        cases hFailed
        exact ⟨_, rfl, Failure.translated_asSeen rfl failure⟩
  | vanished hWindow hCount follow =>
      rcases List.mem_cons.mp hMem with rfl | hMem
      · cases hFailed
      rcases List.mem_cons.mp hMem with rfl | hMem
      · cases hFailed
      · exact follow.failure_seen hMem hFailed
  | shown hWindow hCount hPoints =>
      rcases List.mem_cons.mp hMem with rfl | hMem
      · cases hFailed
      · rw [List.mem_singleton] at hMem
        subst hMem
        cases hFailed

/-- Only a failed question makes a read fail. -/
theorem exists_failed {seen : Failure}
    (course : Course policy server window tier allowed exchanges (.error seen)) :
    ∃ exchange ∈ exchanges, ∃ failure, exchange.answer = .error failure ∧
      seen = asSeen exchange.question failure := by
  cases course with
  | uncounted hWindow failure => exact ⟨_, List.mem_cons_self, failure, rfl, rfl⟩
  | counted hWindow follow =>
      obtain ⟨exchange, hMem, hFailed⟩ := follow.exists_failed
      exact ⟨exchange, List.mem_cons_of_mem _ hMem, hFailed⟩
  | unread hWindow hCount failure =>
      exact ⟨_, List.mem_cons_of_mem _ List.mem_cons_self, failure, rfl, rfl⟩
  | vanished hWindow hCount follow =>
      obtain ⟨exchange, hMem, hFailed⟩ := follow.exists_failed
      exact ⟨exchange, List.mem_cons_of_mem _ (List.mem_cons_of_mem _ hMem), hFailed⟩

theorem answered (course : Course policy server window tier allowed exchanges result)
    (hAnswered : ∀ exchange ∈ exchanges, ¬exchange.Failed) :
    ∃ series, result = .ok series ∧ Described policy server window tier exchanges series := by
  cases course with
  | closed hWindow => exact ⟨_, rfl, described_standIn (by simp) (by simp)⟩
  | uncounted hWindow failure => exact absurd ⟨failure, rfl⟩ (hAnswered _ List.mem_cons_self)
  | counted hWindow follow =>
      obtain ⟨points, rfl, hRecent⟩ :=
        follow.answered fun exchange hMem => hAnswered exchange (List.mem_cons_of_mem _ hMem)
      refine ⟨_, rfl, described_standIn ?_ ?_⟩
      · exact fun hPoints => List.mem_cons_of_mem _ (hRecent hPoints)
      · cases follow <;> simp
  | unread hWindow hCount failure =>
      exact absurd ⟨failure, rfl⟩ (hAnswered _ (List.mem_cons_of_mem _ List.mem_cons_self))
  | vanished hWindow hCount follow =>
      obtain ⟨points, rfl, hRecent⟩ := follow.answered fun exchange hMem =>
        hAnswered exchange (List.mem_cons_of_mem _ (List.mem_cons_of_mem _ hMem))
      refine ⟨_, rfl, described_standIn ?_ ?_⟩
      · exact fun hPoints => List.mem_cons_of_mem _ (List.mem_cons_of_mem _ (hRecent hPoints))
      · cases follow <;> simp
  | shown hWindow hCount hPoints =>
      refine ⟨_, rfl, ?_⟩
      constructor <;> simp [hPoints]

end Course

end Series
end Rollup
