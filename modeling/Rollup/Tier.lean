import Rollup.Time.Timestamp
import Rollup.Text.Letter

/-!
The four resolutions at which measurements are kept, finest first, and the rule that picks one for a
window by its length.
-/
namespace Rollup

/-- A resolution of the kept measurements. -/
inductive Tier
  | oneMinute
  | fiveMinutes
  | tenMinutes
  | oneHour
deriving DecidableEq, Repr

namespace Tier

/-- All tiers, finest first. -/
def all : List Tier := [oneMinute, fiveMinutes, tenMinutes, oneHour]

/-- The short label of a tier. -/
def label : Tier → String
  | oneMinute => "1m"
  | fiveMinutes => "5m"
  | tenMinutes => "10m"
  | oneHour => "1h"

/-- The long name of a tier. -/
def name : Tier → String
  | oneMinute => "ONE_MINUTE"
  | fiveMinutes => "FIVE_MINUTES"
  | tenMinutes => "TEN_MINUTES"
  | oneHour => "ONE_HOUR"

/-- The place of a tier from the finest, which is 0. -/
def coarseness : Tier → Nat
  | oneMinute => 0
  | fiveMinutes => 1
  | tenMinutes => 2
  | oneHour => 3

/-- The tier that a text names: by its label, or by its long name in any case. -/
def ofText? (text : String) : Option Tier :=
  match all.find? fun tier => tier.label == text with
  | some tier => some tier
  | none => all.find? fun tier => tier.name.toList == Text.upper text.toList

/-- The tier for a window of that many microseconds. A length on a bound goes to the finer tier. -/
def forSpan (micros : Int) : Tier :=
  if micros ≤ hour then oneMinute
  else if micros ≤ 3 * hour then fiveMinutes
  else if micros ≤ day then tenMinutes
  else oneHour

/-- Every tier is listed. -/
theorem mem_all (tier : Tier) : tier ∈ all := by
  cases tier <;> decide

end Tier
end Rollup
