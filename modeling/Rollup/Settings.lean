import Rollup.Policy
import Rollup.Settings.EnvFile
import Rollup.Text.Integer

/-!
Deployment settings, read from environment variables and from an environment file that fills in the
variables not set. Each setting has a default for a missing or empty variable, apart from the path
of the database, which may be empty.
-/
namespace Rollup

/-- The settings of a deployment. -/
structure Settings where
  databasePath : String
  rowCap : Int
  substitutes : Bool
  recentLimit : Int
  windowDays : Int
deriving DecidableEq, Repr

/-- Environment variables by name, the first entry of a name counting. -/
abbrev Environment := List (String × String)

namespace Environment

/-- The text of a variable. -/
def get? (env : Environment) (name : String) : Option String :=
  Entries.find? (· == ·) name env

/-- The environment filled up with variables that it does not set. -/
def fill (env more : Environment) : Environment :=
  env ++ more.filter fun entry => (env.get? entry.1).isNone

/-- The text of a variable, unless it is empty. -/
def nonempty? (env : Environment) (name : String) : Option String :=
  (env.get? name).filter (· ≠ "")

/-- The whole number in a variable. -/
def integer (env : Environment) (name : String) (default : Int) : Except Failure Int :=
  match env.nonempty? name with
  | none => .ok default
  | some raw =>
    match Text.integer? raw with
    | some n => .ok n
    | none => .error (.configuration (.notAnInteger name raw))

/-- The words for yes. -/
def yesWords : List String := ["1", "true", "yes", "on"]

/-- The words for no. -/
def noWords : List String := ["0", "false", "no", "off"]

/-- The truth value in a variable, written in any case and with blanks around it. -/
def boolean (env : Environment) (name : String) (default : Bool) : Except Failure Bool :=
  match env.nonempty? name with
  | none => .ok default
  | some raw =>
    let word := String.ofList (Text.lower (Text.strip raw.toList))
    if yesWords.contains word then .ok true
    else if noWords.contains word then .ok false
    else .error (.configuration (.notABoolean name raw))

end Environment

namespace Settings

/-- The variable that names the environment file. -/
def fileVariable : String := "TIERSCOPE_ENV_FILE"

/-- The environment with what its file adds. `files` are the files at hand, by path; an absent file
adds nothing, nor does an empty path. -/
def withFile (env : Environment) (files : List (String × String)) : Environment :=
  let path := (env.get? fileVariable).getD ".env"
  if path = "" then env
  else
    match Entries.find? (· == ·) path files with
    | some content => env.fill (EnvFile.assignments content)
    | none => env

/-- The variable of the longest window. -/
def windowVariable : String := "TIERSCOPE_MAX_WINDOW_DAYS"

/-- The settings of an environment. The longest window is read and checked before all others. -/
def read (env : Environment) : Except Failure Settings := do
  let windowDays ← env.integer windowVariable 30
  if windowDays ≤ 0 then .error (.configuration (.windowNotPositive windowVariable))
  else
    let databasePath := (env.get? "TIERSCOPE_DB_PATH").getD "rollups.db"
    let rowCap ← env.integer "TIERSCOPE_ROW_CAP" Policy.defaultRowCap
    let substitutes ← env.boolean "TIERSCOPE_FALLBACK_ENABLED" true
    let recentLimit ← env.integer "TIERSCOPE_FALLBACK_LIMIT" Policy.defaultRecentLimit
    .ok ⟨databasePath, rowCap, substitutes, recentLimit, windowDays⟩

/-- The settings of an environment and the files at hand. -/
def load (env : Environment) (files : List (String × String)) : Except Failure Settings :=
  read (withFile env files)

/-- The longest window that the settings allow. -/
def longestWindow (settings : Settings) : Except Failure Int :=
  spanOfDays settings.windowDays

/-- The policy of the settings, over the usual sources. -/
def policy (settings : Settings) : Except Failure Policy :=
  Policy.make Policy.defaultSources settings.rowCap settings.substitutes settings.recentLimit

end Settings
end Rollup
