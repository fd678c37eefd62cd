/-!
Division to the nearest integer with ties to even, and rounding of a quotient to 53 significant
bits. Every rounding of the library, of decimals, durations and stored times, is one of these two.
-/
namespace Rollup.Number

/-- The integer nearest to `num / den`; a half goes to the even neighbour. -/
def divNearest (num : Int) (den : Nat) : Int :=
  let floor := num / den
  let twice := 2 * (num % den)
  if twice < den then floor
  else if (den : Int) < twice then floor + 1
  else floor + floor % 2

/-- A whole quotient is its own nearest integer. -/
theorem divNearest_mul (n : Int) {den : Nat} (h : 0 < den) : divNearest (n * den) den = n := by
  have hd : (den : Int) ≠ 0 := by omega
  simp [divNearest, Int.mul_ediv_cancel _ hd, h]

/-- The result is at most half a unit away from the quotient. -/
theorem two_mul_sub_divNearest_le (num : Int) {den : Nat} (h : 0 < den) :
    2 * (num - divNearest num den * den) ≤ den ∧ -(den : Int) ≤ 2 * (num - divNearest num den * den) := by
  have hd : (den : Int) ≠ 0 := by omega
  have split := Int.mul_ediv_add_emod num den
  have low := Int.emod_nonneg num hd
  have high := Int.emod_lt_of_pos num (show (0 : Int) < den by omega)
  have swap : num / den * den = den * (num / den) := Int.mul_comm _ _
  have odd : num / den % 2 = 0 ∨ num / den % 2 = 1 := by omega
  unfold divNearest
  dsimp only
  split
  · omega
  · split
    · rw [Int.add_mul, Int.one_mul]
      omega
    · rcases odd with even | odd
      · rw [even, Int.add_zero]
        omega
      · rw [odd, Int.add_mul, Int.one_mul]
        omega

/-- The whole number nearest to `num / den` among those of at most 53 significant bits; a half goes
to the even significand. A quotient below `2 ^ 53` only loses its fraction. -/
def round53 (num den : Nat) : Nat :=
  let shift := Nat.log2 (num / den) - 52
  (divNearest num (den * Nat.pow 2 shift)).toNat * Nat.pow 2 shift

end Rollup.Number
