import Mathlib
import Rollup.Comparison
import Rollup.Dashboard
import Rollup.Overview
import Rollup.Proofs.Failure
import Rollup.Proofs.Program.Contract
import Rollup.Proofs.Series.Course
import Rollup.Proofs.Dashboard.Required

/-!
What a caller can inquire of the service, with the program that finds it out. Whatever the store
answers, an inquiry about a server asks of that server only, and what it shows was told in an
answer; it fails by a question, by the clock, by a calculation, or because of what the caller gave.
-/
namespace Rollup

open Program

/-- What a caller wants to know. -/
inductive Inquiry
  | series (server : String) (window : Window) (given : Option Value)
  | realtime (server : String) (span : Int)
  | historical (server : String) (window : Window) (given : Value)
  | heatmap (server : String) (window : Window)
  | compare (server : String) (first second : Window)
  | dashboard (server : String)
  | summary

namespace Inquiry

/-- What the answer to an inquiry is. -/
abbrev Result : Inquiry → Type
  | .series .. | .realtime .. | .historical .. => Series
  | .heatmap .. => List HeatmapCell
  | .compare .. => Comparison
  | .dashboard _ => Dashboard
  | .summary => Summary

/-- The server that an inquiry is about, if it is about one. -/
def server? : Inquiry → Option String
  | .series server .. | .realtime server _ | .historical server .. | .heatmap server _
  | .compare server .. | .dashboard server => some server
  | .summary => none

/-- The tier that was given, if one was. -/
def given? : Inquiry → Option Value
  | .series _ _ given => given
  | .historical _ _ given => some given
  | _ => none

/-- Finds out what is inquired. -/
def read (policy : Policy) : (inquiry : Inquiry) → Program inquiry.Result
  | .series server window given => Series.read policy server window given policy.substitutes
  | .realtime server span => Series.realtime policy server span
  | .historical server window given => Series.historical policy server window given
  | .heatmap server window => Series.heatmap policy server window
  | .compare server first second => Comparison.read policy server first second
  | .dashboard server => Dashboard.read policy server
  | .summary => Summary.read policy

/-- The points that a result shows. -/
def points : (inquiry : Inquiry) → inquiry.Result → List Point
  | .series .., s | .realtime .., s | .historical .., s => s.points
  | .heatmap .., _ => []
  | .compare .., c => c.first.points ++ c.second.points
  | .dashboard _, d => d.current :: d.day.points
  | .summary, _ => []

/-- The cells of heatmaps that a result shows. -/
def cells : (inquiry : Inquiry) → inquiry.Result → List HeatmapCell
  | .heatmap .., cells => cells
  | .dashboard _, d => d.cells
  | _, _ => []

end Inquiry

/-- How a series ends on some terms. -/
inductive Series.Ends (terms : Terms) (server : String) (given : Option Value) :
    Except Failure Series → Prop
  | shown {series : Series} (h : ∀ p ∈ series.points, terms.Shows p) :
      Ends terms server given (.ok series)
  | raised {failure : Failure} (h : terms.Raises failure) :
      Ends terms server given (.error failure)
  | refused {value : Value} {failure : Failure} (hGiven : given = some value)
      (h : Tier.ofValue value (some server) = .error failure) :
      Ends terms server given (.error failure)

/-- How an inquiry ends on some terms. The cells that are shown are those of points that are. -/
inductive Inquiry.Ends (terms : Terms) (policy : Policy) (inquiry : Inquiry) :
    Except Failure inquiry.Result → Prop
  | shown {result : inquiry.Result} (hPoints : ∀ p ∈ inquiry.points result, terms.Shows p)
      (hCells : ∀ cell ∈ inquiry.cells result, ∃ p, terms.Shows p ∧ cell = .ofPoint p) :
      Ends terms policy inquiry (.ok result)
  | raised {failure : Failure} (h : terms.Raises failure) :
      Ends terms policy inquiry (.error failure)
  | refused {value : Value} {failure : Failure} (hGiven : inquiry.given? = some value)
      (h : Tier.ofValue value inquiry.server? = .error failure) :
      Ends terms policy inquiry (.error failure)
  | absent {server : String} (hInquiry : inquiry = .dashboard server)
      (h : terms.told ⟨Dashboard.latestQuestion policy server, .ok none⟩) :
      Ends terms policy inquiry (.error (.noCurrentData server))

/-- What cannot be calculated raises. -/
theorem Terms.raises_of_arithmetic {terms : Terms} {failure : Failure}
    (h : ∃ fault, failure = .arithmetic fault) : terms.Raises failure := by
  obtain ⟨fault, rfl⟩ := h
  exact .calculated fault

namespace Series

variable {terms : Terms} (policy : Policy) (server : String) (window : Window)
  (given : Option Value) (allowed : Bool)

/-- On these terms the questions of a series may be asked, and only where rows may stand in for
others, the one for recent rows. -/
def Admits (terms : Terms) (policy : Policy) (server : String) (window : Window)
    (allowed : Bool) : Prop :=
  ∀ tier, terms.may (countQuestion policy server window tier) ∧
    terms.may (rangeQuestion policy server window tier) ∧
      (allowed = true → terms.may (recentQuestion policy server tier))

variable {policy server window given allowed}

theorem ends_tierFor {failure : Failure} (h : tierFor given server window = .error failure) :
    Ends terms server given (.error failure) := by
  cases given with
  | none =>
      rw [tierFor] at h
      cases hMinus : window.stop.minus window.start with
      | ok span =>
          rw [hMinus] at h
          cases h
      | error cause =>
          rw [hMinus] at h
          cases h
          exact .raised (Terms.raises_of_arithmetic (Timestamp.arithmetic_of_minus hMinus))
  | some value => exact .refused rfl h

theorem keeps_substitute {tier : Tier} (hMay : Admits terms policy server window allowed) :
    (substitute policy server window tier allowed).Keeps terms (Ends terms server given) := by
  rw [substitute]
  split
  · rename_i hAllowed
    refine Keeps.ask_bind ((hMay tier).2.2 hAllowed) ?_ ?_
    · intro points hTold
      exact .shown fun p hMem => ⟨_, points, hTold, hMem⟩
    · exact fun failure hTold => .raised (.asked hTold)
  · exact .shown (by simp [standIn])

theorem keeps_read (hMay : Admits terms policy server window allowed) :
    (Series.read policy server window given allowed).Keeps terms (Ends terms server given) := by
  refine Keeps.lift_bind ?_ fun failure hTier => ends_tierFor hTier
  intro tier _
  refine Keeps.lift_bind ?_ fun failure hOrder =>
    .raised (Terms.raises_of_arithmetic (Timestamp.arithmetic_of_notAfter hOrder))
  intro closed _
  split
  · exact .shown (by simp [standIn])
  refine Keeps.ask_bind (hMay tier).1 ?_ fun failure hTold => .raised (.asked hTold)
  intro count _
  split
  · exact keeps_substitute hMay
  refine Keeps.ask_bind (hMay tier).2.1 ?_ fun failure hTold => .raised (.asked hTold)
  intro points hTold
  split
  · exact keeps_substitute hMay
  · exact .shown fun p hMem => ⟨_, points, hTold, hMem⟩

end Series

namespace Inquiry

variable {terms : Terms} (policy : Policy)

/-- On these terms everything about the server of an inquiry may be asked. -/
def Admits (terms : Terms) (inquiry : Inquiry) : Prop :=
  ∀ question : Read, question.server? = inquiry.server? → terms.may question

variable {server : String} {window : Window} {allowed : Bool}

theorem admits_series
    (hMay : ∀ question : Read, question.server? = some server → terms.may question) :
    Series.Admits terms policy server window allowed :=
  fun _ => ⟨hMay _ rfl, hMay _ rfl, fun _ => hMay _ rfl⟩

theorem keeps_series {given : Option Value} (hMay : Admits terms (.series server window given)) :
    (read policy (.series server window given)).Keeps terms
      (Ends terms policy (.series server window given)) := by
  refine (Series.keeps_read (admits_series policy hMay)).mono fun result hEnds => ?_
  cases hEnds with
  | shown h => exact .shown h (by simp [cells])
  | raised h => exact .raised h
  | refused hGiven h => exact .refused hGiven h

theorem keeps_realtime {span : Int} (hMay : Admits terms (.realtime server span)) :
    (read policy (.realtime server span)).Keeps terms
      (Ends terms policy (.realtime server span)) := by
  refine Keeps.now_bind ?_ fun failure hSeen => .raised (.looked hSeen)
  intro stop _
  refine Keeps.lift_bind ?_ fun failure hShift =>
    .raised (Terms.raises_of_arithmetic (Timestamp.arithmetic_of_shift hShift))
  intro start _
  refine (Series.keeps_read (admits_series policy hMay)).mono fun result hEnds => ?_
  cases hEnds with
  | shown h => exact .shown h (by simp [cells])
  | raised h => exact .raised h
  | refused hGiven h =>
      cases hGiven
      cases h

theorem keeps_historical {given : Value} (hMay : Admits terms (.historical server window given)) :
    (read policy (.historical server window given)).Keeps terms
      (Ends terms policy (.historical server window given)) := by
  refine Keeps.lift_bind ?_ fun failure hTier => .refused rfl hTier
  intro tier _
  refine (Series.keeps_read (admits_series policy hMay)).mono fun result hEnds => ?_
  cases hEnds with
  | shown h => exact .shown h (by simp [cells])
  | raised h => exact .raised h
  | refused hGiven h =>
      cases hGiven
      cases h

theorem keeps_cells
    (hMay : ∀ question : Read, question.server? = some server → terms.may question) :
    (Series.heatmap policy server window).Keeps terms
      (Ends terms policy (.heatmap server window)) := by
  refine (Series.keeps_read (admits_series policy hMay)).map ?_ ?_
  · intro series hEnds
    cases hEnds with
    | shown h =>
        refine .shown (by simp [points]) ?_
        intro cell hMem
        obtain ⟨p, hPoint, rfl⟩ := List.mem_map.mp hMem
        exact ⟨p, h p hPoint, rfl⟩
  · intro failure hEnds
    cases hEnds with
    | raised h => exact .raised h
    | refused hGiven h => cases hGiven

theorem keeps_compare {first second : Window} (hMay : Admits terms (.compare server first second)) :
    (read policy (.compare server first second)).Keeps terms
      (Ends terms policy (.compare server first second)) := by
  have hFail : ∀ failure, Series.Ends terms server none (.error failure) →
      Ends terms policy (.compare server first second) (.error failure) := by
    intro failure hEnds
    cases hEnds with
    | raised h => exact .raised h
    | refused hGiven h => cases hGiven
  refine (Series.keeps_read (admits_series policy hMay)).bind ?_ hFail
  intro one hOne
  refine (Series.keeps_read (admits_series policy hMay)).map ?_ hFail
  intro two hTwo
  cases hOne with
  | shown hFirst =>
      cases hTwo with
      | shown hSecond =>
          refine .shown ?_ (by simp [cells])
          intro p hMem
          rcases List.mem_append.mp hMem with hMem | hMem
          · exact hFirst p hMem
          · exact hSecond p hMem

section Dashboard

variable {current : Point} {found : Dashboard.Required}
  (hMay : ∀ question : Read, question.server? = some server → terms.may question)
include hMay

/-- Once there is a current row, what is required of a dashboard is shown unless a step raises. -/
theorem keeps_required_current (hShown : terms.Shows current) :
    (do let stop ← now
        let start ← lift (stop.shift (-(day : Int)))
        let series ← Series.read policy server ⟨start, stop⟩ none policy.substitutes
        return ⟨current, ⟨start, stop⟩, series⟩ : Program Dashboard.Required).Keeps terms fun
      | .ok found => ∀ p ∈ found.current :: found.day.points, terms.Shows p
      | .error failure => terms.Raises failure := by
  refine Keeps.now_bind ?_ fun failure hSeen => .looked hSeen
  intro stop _
  refine Keeps.lift_bind ?_ fun failure hShift =>
    Terms.raises_of_arithmetic (Timestamp.arithmetic_of_shift hShift)
  intro start _
  refine (Series.keeps_read (admits_series policy hMay)).map ?_ ?_
  · rintro series ⟨hDay⟩
    exact List.forall_mem_cons.mpr ⟨hShown, hDay⟩
  · intro failure hEnds
    cases hEnds with
    | raised h => exact h
    | refused hGiven h => cases hGiven

theorem keeps_required : (Dashboard.Required.read policy server).Keeps terms fun
    | .ok found => ∀ p ∈ found.current :: found.day.points, terms.Shows p
    | .error failure => Ends terms policy (.dashboard server) (.error failure) := by
  refine Keeps.ask_bind (hMay _ rfl) ?_ fun failure hTold => .raised (.asked hTold)
  intro reading hCurrent
  cases reading with
  | none => exact .absent rfl hCurrent
  | some current =>
      have hShown : terms.Shows current :=
        ⟨Dashboard.latestQuestion policy server, some current, hCurrent, List.mem_singleton_self _⟩
      refine (keeps_required_current policy hMay hShown).mono fun result hEnds => ?_
      cases result with
      | ok found => exact hEnds
      | error failure => exact .raised hEnds

/-- A heatmap that cannot be read is left out, so its failures do not end the dashboard. -/
theorem keeps_finish (hFound : ∀ p ∈ found.current :: found.day.points, terms.Shows p) :
    (found.finish policy server).Keeps terms fun
      | .ok view => Ends terms policy (.dashboard server) (.ok view)
      | .error failure => terms.Raises failure := by
  have hCells : (attempt (Series.heatmap policy server found.window)).Keeps terms fun
      | .ok cells => Ends terms policy (.heatmap server found.window) cells
      | .error failure => terms.Raises failure := by
    refine (keeps_cells policy hMay).attempt (fun result hEnds => hEnds) ?_
    intro failure hEnds _
    cases hEnds with
    | raised h => exact h
    | refused hGiven h => cases hGiven
    | absent hInquiry h => cases hInquiry
  refine hCells.bind ?_ fun failure hRaised => hRaised
  intro cells hEnds
  refine Keeps.now_bind ?_ fun failure hSeen => .looked hSeen
  intro updated _
  cases cells with
  | error failure => exact .shown hFound (by simp [Inquiry.cells, Dashboard.Required.view])
  | ok drawn =>
      cases hEnds with
      | shown _ hDrawn => exact .shown hFound hDrawn

theorem keeps_dashboard :
    (read policy (.dashboard server)).Keeps terms (Ends terms policy (.dashboard server)) := by
  change (Dashboard.read policy server).Keeps terms _
  rw [Dashboard.read_eq]
  refine (keeps_required policy hMay).bind ?_ fun failure hEnds => hEnds
  intro found hFound
  refine (keeps_finish policy hMay hFound).mono fun result hEnds => ?_
  cases result with
  | ok view => exact hEnds
  | error failure => exact .raised hEnds

end Dashboard

/-- Only cancellation ends the reads of a summary. -/
theorem keeps_readTiers (hMay : Admits terms .summary) (tiers : List Tier) :
    (Summary.readTiers policy tiers).Keeps terms fun
      | .ok _ => True
      | .error failure => terms.Raises failure := by
  induction tiers with
  | nil => trivial
  | cons tier tiers ih =>
      have hTier : (attempt (askPlainly (.stats (policy.source tier)))).Keeps terms fun
          | .ok _ => True
          | .error failure => terms.Raises failure := by
        refine Keeps.attempt (Keeps.askPlainly (hMay _ rfl) fun answer hTold => hTold) ?_ ?_
        · exact fun result _ => trivial
        · intro failure hTold hOrdinary
          rw [← asSeen_of_not_isOrdinary (.stats (policy.source tier)) hOrdinary]
          exact .asked hTold
      refine hTier.bind ?_ fun failure hRaised => hRaised
      intro answer _
      exact ih.map (fun _ _ => trivial) fun failure hRaised => hRaised

theorem keeps_summary (hMay : Admits terms .summary) :
    (read policy .summary).Keeps terms (Ends terms policy .summary) := by
  refine (keeps_readTiers policy hMay Tier.all).bind ?_ fun failure hRaised => .raised hRaised
  intro answers _
  refine Keeps.now_bind ?_ fun failure hSeen => .raised (.looked hSeen)
  exact fun time _ => .shown (by simp [points]) (by simp [cells])

/-- Whatever is answered, an inquiry asks only what it is about, and shows only what it was told. -/
theorem keeps (inquiry : Inquiry) (hMay : Admits terms inquiry) :
    (inquiry.read policy).Keeps terms (Ends terms policy inquiry) := by
  cases inquiry with
  | series server window given => exact keeps_series policy hMay
  | realtime server span => exact keeps_realtime policy hMay
  | historical server window given => exact keeps_historical policy hMay
  | heatmap server window => exact keeps_cells policy hMay
  | compare server first second => exact keeps_compare policy hMay
  | dashboard server => exact keeps_dashboard policy hMay
  | summary => exact keeps_summary policy hMay

/-- A run of an inquiry that hears and sees what the terms allow ends on these terms. -/
theorem ends {σ : Type} {backend : Backend σ} {state : σ} {policy : Policy} {inquiry : Inquiry}
    (terms : Terms) (hMay : ∀ question, terms.may question)
    (hTold : ∀ exchange ∈ (inquiry.read policy).transcript backend state, terms.told exchange)
    (hSeen : ∀ reading ∈ (inquiry.read policy).looks backend state, terms.seen reading) :
    inquiry.Ends terms policy ((inquiry.read policy).run backend state).result :=
  (keeps policy inquiry fun question _ => hMay question).result hTold hSeen

end Inquiry

end Rollup
