import Mathlib
import Rollup.Settings
import Rollup.Proofs.Failure
import Rollup.Proofs.Policy.Acceptance

/-!
Settings of a deployment. Whatever the variables hold, what is wrong with them is a fault of the
configuration, found when they are read or when a policy is made of them. Only a window of more days
than a span can have gets past both, and then there is no such window.
-/
namespace Rollup

/-- The result is good, or it is a fault of the configuration that is to blame. -/
def OrFault {α : Type} (good : α → Prop) (blamed : ConfigurationFault → Prop) :
    Except Failure α → Prop
  | .ok value => good value
  | .error failure => ∃ fault, failure = .configuration fault ∧ blamed fault

namespace OrFault

variable {α β : Type} {good : α → Prop} {good' : β → Prop}
  {blamed blamed' : ConfigurationFault → Prop} {result : Except Failure α}
  {next : α → Except Failure β}

theorem bind (h : OrFault good blamed result)
    (hNext : ∀ value, good value → OrFault good' blamed (next value)) :
    OrFault good' blamed (result >>= next) := by
  cases result with
  | ok value => exact hNext value h
  | error failure => exact h

theorem imp (h : OrFault good blamed result) (hBlamed : ∀ fault, blamed fault → blamed' fault) :
    OrFault good blamed' result := by
  cases result with
  | ok value => exact h
  | error failure =>
      obtain ⟨fault, hFailure, hFault⟩ := h
      exact ⟨fault, hFailure, hBlamed fault hFault⟩

end OrFault

namespace Environment

/-- A text that is none of the words for yes and no, in whatever case and between whatever blanks. -/
def Undecided (raw : String) : Prop :=
  String.ofList (Text.lower (Text.strip raw.toList)) ∉ yesWords ++ noWords

end Environment

namespace Settings

variable {env : Environment} {settings : Settings}

/-- The settings are those of an environment: each comes from its variable. -/
structure Reads (env : Environment) (settings : Settings) : Prop where
  databasePath : settings.databasePath = (env.get? "TIERSCOPE_DB_PATH").getD "rollups.db"
  rowCap : env.integer "TIERSCOPE_ROW_CAP" Policy.defaultRowCap = .ok settings.rowCap
  substitutes : env.boolean "TIERSCOPE_FALLBACK_ENABLED" true = .ok settings.substitutes
  recentLimit : env.integer "TIERSCOPE_FALLBACK_LIMIT" Policy.defaultRecentLimit =
    .ok settings.recentLimit
  windowDays : env.integer windowVariable 30 = .ok settings.windowDays
  windowDays_pos : 0 < settings.windowDays

/-- What a fault tells is wrong with the variables of an environment. -/
def Blames (env : Environment) : ConfigurationFault → Prop
  | .notAnInteger name raw =>
    name ∈ [windowVariable, "TIERSCOPE_ROW_CAP", "TIERSCOPE_FALLBACK_LIMIT"] ∧
      env.nonempty? name = some raw ∧ Text.integer? raw = none
  | .notABoolean name raw =>
    name = "TIERSCOPE_FALLBACK_ENABLED" ∧ env.nonempty? name = some raw ∧
      Environment.Undecided raw
  | .windowNotPositive name =>
    name = windowVariable ∧ ∃ days ≤ 0, env.integer windowVariable 30 = .ok days
  | _ => False

end Settings
end Rollup
