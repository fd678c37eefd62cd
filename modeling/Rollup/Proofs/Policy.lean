import Mathlib
import Rollup.Policy

/-!
The policy that holds where nothing else is written down.
-/
namespace Rollup.Policy

/-- The usual policy. -/
def usual : Policy where
  source := defaultSource
  rowCap := defaultRowCap
  substitutes := true
  recentLimit := defaultRecentLimit
  source_valid tier := by cases tier <;> decide
  rowCap_pos := by decide
  recentLimit_pos := by decide

/-- The usual policy with a cap of one row. -/
def oneRow : Policy := { usual with rowCap := 1, rowCap_pos := by decide }

end Rollup.Policy
