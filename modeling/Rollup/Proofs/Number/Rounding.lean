import Mathlib
import Rollup.Number.Rounding

/-!
How far rounding moves a quotient. A quotient rounded to 53 significant bits moves by at most half a
unit of its last place, and does not fall below its leading bit.
-/
namespace Rollup.Number

theorem ediv_le_divNearest (num : Int) (den : Nat) : num / den ≤ divNearest num den := by
  unfold divNearest
  dsimp only
  split
  · exact Int.le_refl _
  · split <;> omega

theorem divNearest_nonneg {num : Int} (hNum : 0 ≤ num) (den : Nat) : 0 ≤ divNearest num den :=
  (Int.ediv_nonneg hNum (Int.natCast_nonneg den)).trans (ediv_le_divNearest num den)

/-- Two integers less than half a unit away from one quotient are the same. -/
theorem divNearest_eq {num n : Int} {den : Nat} (hDen : 0 < den)
    (hBelow : 2 * (num - n * den) < den) (hAbove : -(den : Int) < 2 * (num - n * den)) :
    divNearest num den = n := by
  obtain ⟨hLow, hHigh⟩ := two_mul_sub_divNearest_le num hDen
  have hDen' : (0 : Int) < den := by omega
  rcases Int.lt_trichotomy (divNearest num den) n with hLt | hEq | hGt
  · have hStep := Int.mul_le_mul_of_nonneg_right (Int.add_one_le_of_lt hLt) hDen'.le
    rw [Int.add_mul] at hStep
    omega
  · exact hEq
  · have hStep := Int.mul_le_mul_of_nonneg_right (Int.add_one_le_of_lt hGt) hDen'.le
    rw [Int.add_mul] at hStep
    omega

/-- Rounding keeps the order of quotients: results that come in the other order are each at least half
a unit off, and so they round one quotient. -/
theorem divNearest_mono {a b : Int} {den : Nat} (hDen : 0 < den) (h : a ≤ b) :
    divNearest a den ≤ divNearest b den := by
  by_contra hOver
  obtain ⟨-, hLow⟩ := two_mul_sub_divNearest_le a hDen
  obtain ⟨hHigh, -⟩ := two_mul_sub_divNearest_le b hDen
  have hStep := Int.mul_le_mul_of_nonneg_right (Int.add_one_le_of_lt (not_le.mp hOver))
    (Int.natCast_nonneg den)
  rw [Int.add_mul, Int.one_mul] at hStep
  have hSame : a = b := by omega
  exact hOver (hSame ▸ le_refl _)

/-- The place of the last of the 53 leading bits of a quotient. -/
def lastPlace (num den : Nat) : Nat := Nat.log2 (num / den) - 52

theorem round53_eq (num den : Nat) :
    (round53 num den : Int) =
      divNearest num (den * 2 ^ lastPlace num den) * 2 ^ lastPlace num den := by
  have hNonneg : 0 ≤ divNearest num (den * Nat.pow 2 (lastPlace num den)) :=
    divNearest_nonneg (Int.natCast_nonneg num) _
  rw [lastPlace] at hNonneg ⊢
  simp only [round53]
  push_cast
  rw [Int.toNat_of_nonneg hNonneg]
  simp

theorem two_mul_sub_round53_le (num : Nat) {den : Nat} (hDen : 0 < den) :
    2 * ((num : Int) - round53 num den * den) ≤ den * 2 ^ lastPlace num den ∧
      -((den : Int) * 2 ^ lastPlace num den) ≤ 2 * ((num : Int) - round53 num den * den) := by
  have hPos : 0 < den * 2 ^ lastPlace num den := by positivity
  have hError := two_mul_sub_divNearest_le (num : Int) hPos
  have hScale : (round53 num den : Int) * den =
      divNearest num (den * 2 ^ lastPlace num den) * (den * 2 ^ lastPlace num den : Nat) := by
    rw [round53_eq]
    push_cast
    ring
  rw [hScale]
  push_cast at hError ⊢
  exact hError

/-- A quotient with a leading bit keeps it. -/
theorem two_pow_log2_le_round53 {num den : Nat} (h : num / den ≠ 0) :
    2 ^ Nat.log2 (num / den) ≤ round53 num den := by
  have hLead := Nat.log2_self_le h
  have hFloor := ediv_le_divNearest num (den * 2 ^ lastPlace num den)
  have hDiv : (num : Int) / (den * 2 ^ lastPlace num den : Nat) =
      (num / den / 2 ^ lastPlace num den : Nat) := by
    rw [Nat.div_div_eq_div_mul]
    norm_cast
  rw [hDiv] at hFloor
  have hSplit : 2 ^ Nat.log2 (num / den) =
      2 ^ (Nat.log2 (num / den) - lastPlace num den) * 2 ^ lastPlace num den := by
    rw [← Nat.pow_add]
    congr 1
    unfold lastPlace
    omega
  have hQuotient : 2 ^ (Nat.log2 (num / den) - lastPlace num den) ≤
      num / den / 2 ^ lastPlace num den := by
    rw [Nat.le_div_iff_mul_le (by positivity), ← hSplit]
    exact hLead
  have hRound := round53_eq num den
  rw [hSplit]
  zify
  rw [hRound]
  apply Int.mul_le_mul_of_nonneg_right
  · exact le_trans (by exact_mod_cast hQuotient) hFloor
  · positivity

/-- A quotient below a power of two has its last place 53 bits lower. -/
theorem lastPlace_le {num den bits : Nat} (hDen : 0 < den) (h : num < den * 2 ^ (bits + 53)) :
    lastPlace num den ≤ bits := by
  unfold lastPlace
  by_cases hZero : num / den = 0
  · simp [hZero]
  have hLog : Nat.log2 (num / den) < bits + 53 := by
    rw [Nat.log2_lt hZero, Nat.div_lt_iff_lt_mul hDen, Nat.mul_comm]
    exact h
  omega

end Rollup.Number
