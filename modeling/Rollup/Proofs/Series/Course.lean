import Mathlib
import Rollup.Series
import Rollup.Proofs.Program.Sequence
import Rollup.Proofs.Time.Timestamp

/-!
The ways in which the read of a series can go. Each pairs the exchanges with the result that they
lead to, and every run of the read over any backend goes one of these ways.
-/
namespace Rollup

open Program

/-- What a caller gave stands for a tier: it is the tier, or a text that names it, or nothing, which
leaves the choice to the length of the window. -/
def Tier.IsMeant (given : Option Value) (window : Window) (tier : Tier) : Prop :=
  match given with
  | none => Tier.forSpan (window.stop.position - window.start.position) = tier
  | some (.tier member) => member = tier
  | some (.text text) => Tier.ofText? text = some tier
  | some _ => False

namespace Series

variable {policy : Policy} {server : String} {window : Window} {tier : Tier}
  {given : Option Value} {allowed : Bool} {σ : Type}

theorem tierFor_eq (hWindow : window.Comparable) (hTier : tier.IsMeant given window) :
    tierFor given server window = .ok tier := by
  cases given with
  | none =>
      rw [tierFor, Timestamp.minus_eq hWindow.symm]
      exact congrArg Except.ok hTier
  | some value =>
      cases value with
      | tier member => exact congrArg Except.ok hTier
      | text text =>
          have hText : Tier.ofText? text = some tier := hTier
          simp [tierFor, Tier.ofValue, hText]
      | _ => exact False.elim hTier

/-- The three questions that a read may put. -/
abbrev countQuestion (policy : Policy) (server : String) (window : Window) (tier : Tier) : Read :=
  .count (policy.source tier) server window

abbrev rangeQuestion (policy : Policy) (server : String) (window : Window) (tier : Tier) : Read :=
  .range (policy.source tier) server window policy.rowCap

abbrev recentQuestion (policy : Policy) (server : String) (tier : Tier) : Read :=
  .recent (policy.source tier) server policy.recentLimit

theorem substitute_eq :
    substitute policy server window tier allowed =
      if allowed then
        Program.read (recentQuestion policy server tier) fun
          | .error failure => fail (asSeen (recentQuestion policy server tier) failure)
          | .ok points => done (standIn server window tier points)
      else done (standIn server window tier []) := by
  cases allowed with
  | false => rfl
  | true =>
      simp only [substitute, ↓reduceIte]
      rw [ask_bind]
      congr 1
      funext answer
      cases answer <;> rfl

/-- The read as a tree of questions, once the tier is known and the window can be measured. -/
theorem read_eq (hWindow : window.Comparable) (hTier : tier.IsMeant given window) :
    Series.read policy server window given allowed =
      if window.stop.position ≤ window.start.position then done (standIn server window tier [])
      else
        Program.read (countQuestion policy server window tier) fun
          | .error failure => fail (asSeen (countQuestion policy server window tier) failure)
          | .ok count =>
            if count = 0 then substitute policy server window tier allowed
            else
              Program.read (rangeQuestion policy server window tier) fun
                | .error failure => fail (asSeen (rangeQuestion policy server window tier) failure)
                | .ok points =>
                  if points.isEmpty then substitute policy server window tier allowed
                  else
                    done ⟨server, window, tier, points, none, decide (points.length < count)⟩ := by
  simp only [Series.read, tierFor_eq hWindow hTier, Timestamp.notAfter_eq hWindow.symm]
  change (if decide (window.stop.position ≤ window.start.position) = true then _ else _) = _
  simp only [decide_eq_true_eq]
  split
  · rfl
  · rw [ask_bind]
    congr 1
    funext answer
    cases answer with
    | error failure => rfl
    | ok count =>
        change (if count = 0 then _ else _) = (if count = 0 then _ else _)
        split
        · rfl
        · rw [ask_bind]
          congr 1
          funext answer
          cases answer <;> rfl

section Looks

variable {backend : Backend σ} {state : σ}

theorem looks_substitute :
    (substitute policy server window tier allowed).looks backend state = [] := by
  rw [substitute_eq]
  split
  · rw [looks_read]
    split <;> rfl
  · rfl

/-- Reading a series takes no look at the clock. -/
theorem looks_read_eq_nil (hWindow : window.Comparable) (hTier : tier.IsMeant given window) :
    (Series.read policy server window given allowed).looks backend state = [] := by
  rw [read_eq hWindow hTier]
  split
  · rfl
  rw [looks_read]
  split
  · rfl
  split
  · exact looks_substitute
  rw [looks_read]
  split
  · rfl
  split
  · exact looks_substitute
  · rfl

end Looks

variable (policy server window tier)

/-- How a window without rows is answered. -/
inductive StandInCourse : Bool → List Exchange → Except Failure Series → Prop
  | barred : StandInCourse false [] (.ok (standIn server window tier []))
  | failed (failure : Failure) :
      StandInCourse true [⟨recentQuestion policy server tier, .error failure⟩]
        (.error (asSeen (recentQuestion policy server tier) failure))
  | shown (points : List Point) :
      StandInCourse true [⟨recentQuestion policy server tier, .ok points⟩]
        (.ok (standIn server window tier points))

/-- How a read goes: its exchanges and its result. The last argument of `counted` and `vanished` is
what follows when the window turns out to be empty. -/
inductive Course (allowed : Bool) : List Exchange → Except Failure Series → Prop
  | closed (hWindow : window.stop.position ≤ window.start.position) :
      Course allowed [] (.ok (standIn server window tier []))
  | uncounted (hWindow : window.start.position < window.stop.position) (failure : Failure) :
      Course allowed [⟨countQuestion policy server window tier, .error failure⟩]
        (.error (asSeen (countQuestion policy server window tier) failure))
  | counted (hWindow : window.start.position < window.stop.position)
      {rest : List Exchange} {result : Except Failure Series}
      (follow : StandInCourse policy server window tier allowed rest result) :
      Course allowed (⟨countQuestion policy server window tier, .ok (0 : Int)⟩ :: rest) result
  | unread (hWindow : window.start.position < window.stop.position)
      {count : Int} (hCount : count ≠ 0) (failure : Failure) :
      Course allowed
        [⟨countQuestion policy server window tier, .ok count⟩,
          ⟨rangeQuestion policy server window tier, .error failure⟩]
        (.error (asSeen (rangeQuestion policy server window tier) failure))
  | vanished (hWindow : window.start.position < window.stop.position)
      {count : Int} (hCount : count ≠ 0)
      {rest : List Exchange} {result : Except Failure Series}
      (follow : StandInCourse policy server window tier allowed rest result) :
      Course allowed
        (⟨countQuestion policy server window tier, .ok count⟩ ::
          ⟨rangeQuestion policy server window tier, .ok []⟩ :: rest) result
  | shown (hWindow : window.start.position < window.stop.position)
      {count : Int} (hCount : count ≠ 0) {points : List Point} (hPoints : points ≠ []) :
      Course allowed
        [⟨countQuestion policy server window tier, .ok count⟩,
          ⟨rangeQuestion policy server window tier, .ok points⟩]
        (.ok ⟨server, window, tier, points, none, decide (points.length < count)⟩)

variable {policy server window tier}

theorem standInCourse_run (backend : Backend σ) (state : σ) :
    StandInCourse policy server window tier allowed
      ((substitute policy server window tier allowed).transcript backend state)
      ((substitute policy server window tier allowed).run backend state).result := by
  rw [substitute_eq]
  cases allowed with
  | false => exact .barred
  | true =>
      simp only [↓reduceIte, transcript_read, result_read]
      cases (backend.answer state (recentQuestion policy server tier)).1.heard with
      | error failure => exact .failed failure
      | ok points => exact .shown points

/-- Over every backend a read goes one of these ways. -/
theorem course_run (hWindow : window.Comparable) (hTier : tier.IsMeant given window)
    (backend : Backend σ) (state : σ) :
    Course policy server window tier allowed
      ((Series.read policy server window given allowed).transcript backend state)
      ((Series.read policy server window given allowed).run backend state).result := by
  rw [read_eq hWindow hTier]
  by_cases hClosed : window.stop.position ≤ window.start.position
  · simp only [hClosed, ↓reduceIte]
    exact .closed hClosed
  have hOpen : window.start.position < window.stop.position := by omega
  simp only [hClosed, ↓reduceIte, transcript_read, result_read]
  generalize (backend.answer state (countQuestion policy server window tier)).2 = counted
  cases (backend.answer state (countQuestion policy server window tier)).1.heard with
  | error failure => exact .uncounted hOpen failure
  | ok count =>
      by_cases hCount : count = (0 : Int)
      · subst hCount
        simp only [↓reduceIte]
        exact .counted hOpen (standInCourse_run backend counted)
      simp only [hCount, ↓reduceIte, transcript_read, result_read]
      generalize (backend.answer counted (rangeQuestion policy server window tier)).2 = read
      cases (backend.answer counted (rangeQuestion policy server window tier)).1.heard with
      | error failure => exact .unread hOpen hCount failure
      | ok points =>
          cases points with
          | nil => exact .vanished hOpen hCount (standInCourse_run backend read)
          | cons point points => exact .shown hOpen hCount (List.cons_ne_nil point points)

end Series
end Rollup
