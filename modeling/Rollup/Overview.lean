import Rollup.Policy
import Rollup.Program

/-!
The summary over all tiers. A tier whose figures cannot be read is listed as missing, and the others
are summed up without it.
-/
namespace Rollup

open Program

namespace Summary

/-- Reads what each tier holds, one after another; nothing for a tier that cannot be read. -/
def readTiers (policy : Policy) : List Tier → Program (List (Tier × Option TierStats))
  | [] => return []
  | tier :: rest => do
    let answer : Except Failure TierStats ← attempt (askPlainly (.stats (policy.source tier)))
    let others ← readTiers policy rest
    return (tier, answer.toOption) :: others

/-- The tiers that could be read, with what they hold. -/
def present (answers : List (Tier × Option TierStats)) : List (Tier × TierStats) :=
  answers.filterMap fun answer => answer.2.map fun stats => (answer.1, stats)

/-- The tiers that could not be read. -/
def absent (answers : List (Tier × Option TierStats)) : List Tier :=
  answers.filterMap fun answer => if answer.2.isNone then some answer.1 else none

/-- Reads the summary of all tiers, finest first. -/
def read (policy : Policy) : Program Summary := do
  let answers ← readTiers policy Tier.all
  return ofTiers (present answers) (absent answers) (← now)

end Summary
end Rollup
