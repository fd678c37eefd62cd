import Mathlib
import Rollup.Store.Table

/-!
Readings as a database gives them back. A number comes back as one that compares as equal; in place
of an undefined number comes zero, or nothing where the reading may be absent.
-/
namespace Rollup

/-- A number that is defined compares as equal to itself. -/
theorem beq_of_isNaN_eq_false {x : Float} (h : x.isNaN = false) : (x == x) = true := by
  change Float.Model.UnpackedFloat.beq x.toModel.unpack x.toModel.unpack = true
  change x.toModel.unpack.isNaN = false at h
  cases hUnpacked : x.toModel.unpack with
  | infinity sign => cases sign <;> rfl
  | notANumber =>
      rw [hUnpacked] at h
      cases h
  | zero sign => rfl
  | finite sign mantissa exponent hMantissa =>
      cases sign <;> simp [Float.Model.UnpackedFloat.beq, Float.Model.UnpackedFloat.compare]

/-- The two zeros compare as equal. -/
theorem zero_beq_of_isNegativeZero {x : Float} (h : Number.Binary64.isNegativeZero x = true) :
    ((0 : Float) == x) = true := by
  have hBits : x.toModel.toBits = 0x8000000000000000 := eq_of_beq h
  have hUnpacked : x.toModel.unpack = .zero .negative := by
    rw [Float.Model.unpack, hBits]
    rfl
  change Float.Model.UnpackedFloat.beq (0 : Float).toModel.unpack x.toModel.unpack = true
  rw [hUnpacked]
  rfl

/-- A number comes back as one that compares as equal, an undefined one as zero. -/
def Returned (x back : Float) : Prop := if x.isNaN then back = 0 else (back == x) = true

/-- A reading that may be absent comes back as it is, and as absent if it is undefined. -/
def ReturnedOption : Option Float → Option Float → Prop
  | none, back => back = none
  | some x, back => if x.isNaN then back = none else ∃ y, back = some y ∧ (y == x) = true

/-- The six values come back. -/
structure PerMetric.Returned (t back : PerMetric Float) : Prop where
  cpu : Rollup.Returned t.cpu back.cpu
  memory : Rollup.Returned t.memory back.memory
  disk : Rollup.Returned t.disk back.disk
  network : Rollup.Returned t.network back.network
  temperature : Rollup.Returned t.temperature back.temperature
  load : Rollup.Returned t.load back.load

/-- All readings come back, with the number of samples as it is. -/
structure Readings.Returned (r back : Readings) : Prop where
  mean : r.mean.Returned back.mean
  peak : r.peak.Returned back.peak
  low_cpu : Rollup.Returned r.low.cpu back.low.cpu
  low_memory : Rollup.Returned r.low.memory back.low.memory
  low_disk : ReturnedOption r.low.disk back.low.disk
  low_network : ReturnedOption r.low.network back.low.network
  samples : back.samples = r.samples

namespace Row

/-- What is stored of a number that is defined compares as equal to it. -/
theorem exists_stored {x : Float} (h : x.isNaN = false) :
    ∃ y, stored x = some y ∧ (y == x) = true := by
  rw [stored, h]
  simp only [Bool.false_eq_true, ↓reduceIte]
  split
  · rename_i hNegative
    exact ⟨0, rfl, zero_beq_of_isNegativeZero hNegative⟩
  · exact ⟨x, rfl, beq_of_isNaN_eq_false h⟩

theorem stored_of_isNaN {x : Float} (h : x.isNaN = true) : stored x = none := by
  rw [stored, if_pos h]

theorem returned_settled (x : Float) : Returned x (settled x) := by
  unfold Returned
  split
  · rename_i hNaN
    rw [settled, stored_of_isNaN hNaN]
    rfl
  · rename_i hNaN
    obtain ⟨y, hStored, hEqual⟩ := exists_stored (Bool.eq_false_of_not_eq_true hNaN)
    rw [settled, hStored]
    exact hEqual

theorem returnedOption_stored (x : Option Float) : ReturnedOption x (x.bind stored) := by
  cases x with
  | none => rfl
  | some x =>
      change if x.isNaN then stored x = none else ∃ y, stored x = some y ∧ (y == x) = true
      split
      · rename_i hNaN
        exact stored_of_isNaN hNaN
      · rename_i hNaN
        exact exists_stored (Bool.eq_false_of_not_eq_true hNaN)

theorem returned_map_settled (t : PerMetric Float) : t.Returned (t.map settled) := by
  constructor <;> exact returned_settled _

/-- Stored readings are those that come back. -/
theorem returned_settle (r : Readings) : r.Returned (settle r) where
  mean := returned_map_settled r.mean
  peak := returned_map_settled r.peak
  low_cpu := returned_settled r.low.cpu
  low_memory := returned_settled r.low.memory
  low_disk := returnedOption_stored r.low.disk
  low_network := returnedOption_stored r.low.network
  samples := rfl

end Row

end Rollup
