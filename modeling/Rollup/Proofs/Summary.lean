import Mathlib
import Rollup.Overview
import Rollup.Proofs.Policy
import Rollup.Proofs.Program.Sequence
import Rollup.Proofs.Store.Tally

/-!
Summaries over a store of which some reads fail. Every tier is either listed with what it holds or
listed as missing, and the totals are those of the tiers that are there.
-/
namespace Rollup

open Program

/-- A backend whose reads may fail as planned. The plan has an entry for each read in turn: nothing,
or the failure by which that read ends. Reads after the last entry are answered. -/
def Backend.planned {σ : Type} (backend : Backend σ) : Backend (σ × List (Option Failure)) where
  answer state question :=
    match state.2.head?.join with
    | some failure => (.ended (.error failure), state.1, state.2.tail)
    | none =>
      let reply := backend.answer state.1 question
      (reply.1, reply.2, state.2.tail)
  clock state :=
    let look := backend.clock state.1
    (look.1, look.2, state.2)

section Planned

variable {σ : Type} {backend : Backend σ} {state : σ} {plan : List (Option Failure)}

@[simp] theorem Backend.answer_planned_some (failure : Failure) (question : Read) :
    backend.planned.answer (state, some failure :: plan) question =
      (.ended (.error failure), state, plan) := rfl

@[simp] theorem Backend.answer_planned_none (question : Read) :
    backend.planned.answer (state, none :: plan) question =
      ((backend.answer state question).1, (backend.answer state question).2, plan) := rfl

/-- Where no failure is planned, a run is the one over the backend itself. -/
theorem Program.result_planned {α : Type} (program : Program α)
    (hPlan : ∀ entry ∈ plan, entry = none) :
    (program.run backend.planned (state, plan)).result = (program.run backend state).result := by
  induction program generalizing state plan with
  | done result => rfl
  | fail failure => rfl
  | read question next ih =>
      rw [result_read, result_read]
      cases plan with
      | nil => exact ih _ hPlan
      | cons entry plan =>
          obtain ⟨rfl, hRest⟩ := List.forall_mem_cons.mp hPlan
          rw [Backend.answer_planned_none]
          exact ih _ hRest
  | clock next ih => exact ih _ hPlan

end Planned

theorem Store.answer_backend_memory {κ : Type} (clock : κ → Except Failure Timestamp × κ)
    (m : Memory) (hand : κ) (question : Read) :
    (Store.backend clock).answer (.memory m, hand) question =
      (.ended (m.read question), .memory { m with asked := question.kind :: m.asked }, hand) := rfl

namespace Summary

variable {policy : Policy} {plan : Tier → Option Failure} {figures : Tier → TierStats}
  {m : Memory} {κ : Type} {clock : κ → Except Failure Timestamp × κ} {hand : κ}

/-- The read of some tiers as a tree: one question, and the other tiers after it unless the answer
may not be absorbed. -/
theorem readTiers_cons (policy : Policy) (tier : Tier) (tiers : List Tier) :
    readTiers policy (tier :: tiers) = Program.read (.stats (policy.source tier)) fun
      | .ok stats => ((tier, some stats) :: ·) <$> readTiers policy tiers
      | .error failure =>
        if failure.isOrdinary then ((tier, none) :: ·) <$> readTiers policy tiers
        else fail failure := by
  rw [readTiers]
  change (Program.read _ _ >>= _) = _
  rw [read_bind]
  congr 1
  funext answer
  cases answer with
  | ok stats => rfl
  | error failure =>
      simp only [lift, attempt]
      by_cases hOrdinary : failure.isOrdinary = true
      · rw [if_pos hOrdinary, if_pos hOrdinary]
        rfl
      · rw [if_neg hOrdinary, if_neg hOrdinary]
        rfl

/-- What is told of some tiers if the planned failures come to pass. -/
def told (plan : Tier → Option Failure) (figures : Tier → TierStats) (tiers : List Tier) :
    List (Tier × Option TierStats) :=
  tiers.map fun tier => (tier, if (plan tier).isNone then some (figures tier) else none)

section Told

variable {tier : Tier} (tiers : List Tier)

theorem told_cons_of_none (hTier : plan tier = none) :
    told plan figures (tier :: tiers) = (tier, some (figures tier)) :: told plan figures tiers := by
  simp [told, hTier]

theorem told_cons_of_some {failure : Failure} (hTier : plan tier = some failure) :
    told plan figures (tier :: tiers) = (tier, none) :: told plan figures tiers := by
  simp [told, hTier]

theorem present_told :
    present (told plan figures tiers) =
      (tiers.filter fun tier => (plan tier).isNone).map fun tier => (tier, figures tier) := by
  induction tiers with
  | nil => rfl
  | cons tier tiers ih =>
      cases hTier : plan tier with
      | none =>
          rw [told_cons_of_none tiers hTier, List.filter_cons_of_pos (by simp [hTier]),
            List.map_cons, ← ih]
          rfl
      | some failure =>
          rw [told_cons_of_some tiers hTier, List.filter_cons_of_neg (by simp [hTier]), ← ih]
          rfl

theorem absent_told :
    absent (told plan figures tiers) = tiers.filter fun tier => (plan tier).isSome := by
  induction tiers with
  | nil => rfl
  | cons tier tiers ih =>
      cases hTier : plan tier with
      | none =>
          rw [told_cons_of_none tiers hTier, List.filter_cons_of_neg (by simp [hTier]), ← ih]
          rfl
      | some failure =>
          rw [told_cons_of_some tiers hTier, List.filter_cons_of_pos (by simp [hTier]), ← ih]
          rfl

end Told

/-- What is read of some tiers whose failures are planned. The clock is not looked at. -/
theorem run_readTiers (clock : κ → Except Failure Timestamp × κ) (hand : κ)
    (hPlan : ∀ tier failure, plan tier = some failure → failure.isOrdinary = true)
    (hFigures : ∀ tier, m.read (.stats (policy.source tier)) = .ok (figures tier))
    (tiers : List Tier) :
    let outcome := (readTiers policy tiers).run (Store.backend clock).planned
      ((.memory m, hand), tiers.map plan)
    outcome.result = .ok (told plan figures tiers) ∧ outcome.state.1.2 = hand := by
  induction tiers generalizing m with
  | nil => exact ⟨rfl, rfl⟩
  | cons tier tiers ih =>
      rw [readTiers_cons, List.map_cons]
      simp only [result_read, state_read]
      cases hTier : plan tier with
      | some failure =>
          have hOrdinary := hPlan tier failure hTier
          obtain ⟨hResult, hHand⟩ := ih hFigures
          simp only [Backend.answer_planned_some, Reply.heard, hOrdinary, ↓reduceIte]
          rw [result_map, state_map, hResult, told_cons_of_some tiers hTier]
          exact ⟨rfl, hHand⟩
      | none =>
          let asked : Memory := { m with asked := .stats :: m.asked }
          have hAfter : ∀ tier, asked.read (.stats (policy.source tier)) = .ok (figures tier) :=
            fun tier => (Memory.read_congr rfl _).trans (hFigures tier)
          obtain ⟨hResult, hHand⟩ := ih hAfter
          simp only [Backend.answer_planned_none, Store.answer_backend_memory, Reply.heard, hFigures]
          rw [result_map, state_map]
          change Except.map _ ((readTiers policy tiers).run _ ((Store.memory asked, hand), _)).result = _ ∧ _
          rw [hResult, told_cons_of_none tiers hTier]
          exact ⟨rfl, hHand⟩

theorem foldl_max_natCast (tiers : List Tier) (count : Tier → Nat) (start : Nat) :
    (tiers.map fun tier => (count tier : Int)).foldl max (start : Int) =
      (max start (tiers.toFinset.sup count) : Nat) := by
  induction tiers generalizing start with
  | nil => simp
  | cons tier tiers ih =>
      rw [List.map_cons, List.foldl_cons, ← Nat.cast_max, ih, List.toFinset_cons, Finset.sup_insert,
        ← max_assoc]

/-- The largest count of some tiers, which is zero if there are none. -/
theorem largest_natCast (tiers : List Tier) (count : Tier → Nat) :
    largest (tiers.map fun tier => (count tier : Int)) = (tiers.toFinset.sup count : Nat) := by
  cases tiers with
  | nil => rfl
  | cons tier tiers =>
      rw [List.map_cons, largest, foldl_max_natCast, List.toFinset_cons, Finset.sup_insert]

/-- The summary of some figures if the planned failures come to pass. -/
def summed (plan : Tier → Option Failure) (figures : Tier → TierStats) (time : Timestamp) : Summary :=
  ofTiers (present (told plan figures Tier.all)) (absent (told plan figures Tier.all)) time

theorem result_read_planned
    (hPlan : ∀ tier failure, plan tier = some failure → failure.isOrdinary = true)
    (hFigures : ∀ tier, m.read (.stats (policy.source tier)) = .ok (figures tier))
    {time : Timestamp} (hClock : (clock hand).1 = .ok time) :
    ((Summary.read policy).run (Store.backend clock).planned
      ((.memory m, hand), Tier.all.map plan)).result = .ok (summed plan figures time) := by
  obtain ⟨hTiers, hHand⟩ := run_readTiers clock hand hPlan hFigures Tier.all
  have hLook : ∀ state : (Store × κ) × List (Option Failure), state.1.2 = hand →
      ((Store.backend clock).planned.clock state).1 = .ok time := by
    rintro ⟨⟨store, _⟩, plan⟩ rfl
    exact hClock
  rw [Summary.read, result_bind, hTiers]
  simp only [now_bind, result_clock, hLook _ hHand]
  rfl

/-- The summary lists each tier once, as it stands without failures or as missing, and its totals are
those of what the history holds for the tiers that are there. -/
structure Accounts (policy : Policy) (history : History) (plan : Tier → Option Failure)
    (whole summary : Summary) : Prop where
  present_eq : summary.tiers.map Prod.fst = Tier.all.filter fun tier => (plan tier).isNone
  missing_eq : summary.missing = Tier.all.filter fun tier => (plan tier).isSome
  each_once : (summary.tiers.map Prod.fst ++ summary.missing).Perm Tier.all
  present_ordered : (summary.tiers.map Prod.fst).Pairwise fun a b => a.coarseness < b.coarseness
  missing_ordered : summary.missing.Pairwise fun a b => a.coarseness < b.coarseness
  as_whole : summary.tiers = whole.tiers.filter fun entry => (plan entry.1).isNone
  records_eq : summary.records =
    ∑ tier ∈ (summary.tiers.map Prod.fst).toFinset, (history.stored (policy.source tier)).length
  servers_eq : summary.servers = (summary.tiers.map Prod.fst).toFinset.sup fun tier =>
    (history.populated (policy.source tier)).card

/-- If the figures are those of a history, their sum accounts for it. -/
theorem accounts_summed {history : History} (plan : Tier → Option Failure)
    (hRecords : ∀ tier, (figures tier).records = (history.stored (policy.source tier)).length)
    (hServers : ∀ tier, (figures tier).servers = (history.populated (policy.source tier)).card)
    (time : Timestamp) :
    Accounts policy history plan (summed (fun _ => none) figures time)
      (summed plan figures time) := by
  have hOrdered : Tier.all.Pairwise fun a b => a.coarseness < b.coarseness := by decide
  have hNodup : Tier.all.Nodup := by decide
  have hKeys : (summed plan figures time).tiers.map Prod.fst =
      Tier.all.filter fun tier => (plan tier).isNone := by
    simp [summed, ofTiers, present_told, Function.comp_def]
  have hMissing : (summed plan figures time).missing =
      Tier.all.filter fun tier => (plan tier).isSome := by
    simp [summed, ofTiers, absent_told]
  constructor
  · exact hKeys
  · exact hMissing
  · rw [hKeys, hMissing]
    have hNot : (fun tier => (plan tier).isSome) = fun tier => !(plan tier).isNone := by
      simp
    rw [hNot]
    exact List.filter_append_perm _ Tier.all
  · rw [hKeys]
    exact hOrdered.filter _
  · rw [hMissing]
    exact hOrdered.filter _
  · simp [summed, ofTiers, present_told, List.filter_map, Function.comp_def]
  · rw [hKeys, Nat.cast_sum, List.sum_toFinset _ (hNodup.filter _), List.sum_eq_foldl]
    simp [summed, ofTiers, present_told, Function.comp_def, hRecords]
  · rw [hKeys, ← largest_natCast]
    simp [summed, ofTiers, present_told, Function.comp_def, hServers]

/-- Over a store in memory to which points with offsets were written, there is a summary whichever
reads of its tiers fail, as long as none is cancelled, and it accounts for all tiers. -/
theorem read_accounts (policy : Policy) {history : History} (hHistory : history.Aware)
    (hPlan : ∀ tier failure, plan tier = some failure → failure.isOrdinary = true)
    {time : Timestamp} (hClock : (clock hand).1 = .ok time) :
    let store := (Store.memory .empty).load history
    ∃ whole summary,
      ((Summary.read policy).run (Store.backend clock) (store, hand)).result = .ok whole ∧
        ((Summary.read policy).run (Store.backend clock).planned
          ((store, hand), Tier.all.map plan)).result = .ok summary ∧
          Accounts policy history plan whole summary ∧ summary.updated = time := by
  intro store
  have hStore : store = .memory ⟨history, []⟩ := Store.load_memory .empty history
  choose figures hFigures hRecords hServers using fun tier =>
    Memory.stats_tally (show History.Aware (Memory.batches ⟨history, []⟩) from hHistory)
      (policy.source tier)
  have hWhole : ((Summary.read policy).run (Store.backend clock) (store, hand)).result =
      .ok (summed (fun _ => none) figures time) := by
    have hNone : ∀ entry ∈ Tier.all.map fun _ => (none : Option Failure), entry = none := by simp
    rw [← Program.result_planned (Summary.read policy) hNone, hStore]
    exact result_read_planned (by simp) hFigures hClock
  refine ⟨_, _, hWhole, ?_, accounts_summed plan hRecords hServers time, rfl⟩
  rw [hStore]
  exact result_read_planned hPlan hFigures hClock

/-- Two servers with points, one of them with two of one time, and one with an empty batch. The reads
of two tiers fail, one of them by a cause of the library's own. -/
theorem read_accounts_two :
    let history : History := [
      ⟨"metrics_1m_avg", "web-1",
        [⟨Window.oneDay.stop, .zero⟩, ⟨Window.oneDay.start, .zero⟩, ⟨Window.oneDay.stop, .zero⟩]⟩,
      ⟨"metrics_10m_avg", "web-2", [⟨Window.oneDay.stop, .zero⟩]⟩,
      ⟨"metrics_1m_avg", "web-3", []⟩, ⟨"metrics_1h_avg", "web-1", [⟨Window.oneDay.stop, .zero⟩]⟩]
    let plan : Tier → Option Failure := fun
      | .fiveMinutes => some (.noCurrentData "web-1")
      | .oneHour => some (.foreign "OSError" "disk I/O error")
      | _ => none
    let clock (hand : Unit) : Except Failure Timestamp × Unit := (.ok Window.oneDay.stop, hand)
    let store := (Store.memory .empty).load history
    history.Aware ∧ (∀ tier failure, plan tier = some failure → failure.isOrdinary = true) ∧
      ∃ whole summary,
        ((Summary.read .usual).run (Store.backend clock) (store, ())).result = .ok whole ∧
          ((Summary.read .usual).run (Store.backend clock).planned
            ((store, ()), Tier.all.map plan)).result = .ok summary ∧
            Accounts .usual history plan whole summary ∧ summary.updated = Window.oneDay.stop := by
  intro history plan clock store
  have hHistory : history.Aware := by
    simp [history, History.Aware, Window.oneDay, Timestamp.universal, Timestamp.isAware]
  have hPlan : ∀ tier failure, plan tier = some failure → failure.isOrdinary = true := by
    intro tier failure hTier
    cases tier <;> cases hTier <;> rfl
  exact ⟨hHistory, hPlan, read_accounts .usual hHistory hPlan rfl⟩

end Summary

end Rollup
