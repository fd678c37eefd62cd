import Mathlib
import Rollup.Proofs.Number.Rounding

/-!
Rounding to the nearest binary64 value. A quotient rounded to 53 significant bits is no further from
it than any other value, and where another is as near, its last bit is zero. This holds as long as
the whole numbers are fine enough: the quotient has 53 bits before its point, or no fraction.
-/
namespace Rollup.Number

/-- A finite binary64 value: a significand of at most 53 bits times a power of two. -/
def IsBinary64 (value : ℚ) : Prop :=
  ∃ significand exponent : ℤ, |significand| < 2 ^ 53 ∧ -1074 ≤ exponent ∧ exponent ≤ 971 ∧
    value = significand * 2 ^ exponent

/-- The last of the 53 bits of a value is zero. -/
def EndsEven (value : ℚ) : Prop :=
  ∃ significand exponent : ℤ, 2 ^ 52 ≤ |significand| ∧ |significand| < 2 ^ 53 ∧ Even significand ∧
    value = significand * 2 ^ exponent

/-- The value is the binary64 value nearest to a number; of two that are as near, the even one. -/
structure RoundsTo (x value : ℚ) : Prop where
  isBinary64 : IsBinary64 value
  nearest : ∀ other, IsBinary64 other → |value - x| ≤ |other - x|
  even : ∀ other, IsBinary64 other → other ≠ value → |other - x| = |value - x| → EndsEven value

theorem IsBinary64.neg {value : ℚ} (h : IsBinary64 value) : IsBinary64 (-value) := by
  obtain ⟨significand, exponent, hBits, hLow, hHigh, rfl⟩ := h
  exact ⟨-significand, exponent, by rwa [abs_neg], hLow, hHigh, by push_cast; ring⟩

theorem EndsEven.neg {value : ℚ} (h : EndsEven value) : EndsEven (-value) := by
  obtain ⟨significand, exponent, hLow, hHigh, hEven, rfl⟩ := h
  exact ⟨-significand, exponent, by rwa [abs_neg], by rwa [abs_neg], hEven.neg, by push_cast; ring⟩

/-- Rounding does not depend on the sign. -/
theorem RoundsTo.neg {x value : ℚ} (h : RoundsTo x value) : RoundsTo (-x) (-value) := by
  have hSwap : ∀ other : ℚ, |other - -x| = |-other - x| := by
    intro other
    rw [← abs_neg]
    ring_nf
  constructor
  · exact h.isBinary64.neg
  · intro other hOther
    rw [hSwap, hSwap, neg_neg]
    exact h.nearest _ hOther.neg
  · intro other hOther hNe hTie
    rw [hSwap, hSwap, neg_neg] at hTie
    refine (h.even _ hOther.neg ?_ hTie).neg
    rintro rfl
    exact hNe (neg_neg other).symm

/-- A binary64 value is its own nearest one. -/
theorem RoundsTo.refl {x : ℚ} (h : IsBinary64 x) : RoundsTo x x := by
  refine ⟨h, fun other _ => ?_, fun other _ hNe hTie => ?_⟩
  · rw [sub_self, abs_zero]
    exact abs_nonneg _
  · rw [sub_self, abs_zero, abs_eq_zero, sub_eq_zero] at hTie
    exact absurd hTie hNe

/-- The nearest whole number; of two that are as near, the even one. -/
structure RoundsToWhole (x : ℚ) (n : ℤ) : Prop where
  nearest : ∀ other : ℤ, |(n : ℚ) - x| ≤ |(other : ℚ) - x|
  even : ∀ other : ℤ, other ≠ n → |(other : ℚ) - x| = |(n : ℚ) - x| → Even n

/-- Distances from a quotient are those from its numerator, by the denominator. -/
theorem abs_sub_div {den : ℚ} (hDen : 0 < den) (y num : ℚ) :
    |y - num / den| = |y * den - num| / den := by
  have hSplit : y - num / den = (y * den - num) / den := by field_simp
  rw [hSplit, abs_div, abs_of_pos hDen]

section Whole

variable {num : Int} {den : Nat}

/-- No whole number is nearer to a quotient. -/
theorem abs_divNearest_sub_le (hDen : 0 < den) (n : Int) :
    |divNearest num den * den - num| ≤ |n * den - num| := by
  obtain ⟨hLow, hHigh⟩ := two_mul_sub_divNearest_le num hDen
  rcases Int.lt_trichotomy n (divNearest num den) with hLt | rfl | hGt
  · have hStep := Int.mul_le_mul_of_nonneg_right (Int.add_one_le_of_lt hLt) (Int.natCast_nonneg den)
    rw [Int.add_mul] at hStep
    rw [abs_le, abs_of_nonpos (by omega)]
    omega
  · exact le_refl _
  · have hStep := Int.mul_le_mul_of_nonneg_right (Int.add_one_le_of_lt hGt) (Int.natCast_nonneg den)
    rw [Int.add_mul] at hStep
    rw [abs_le, abs_of_nonneg (by omega)]
    omega

/-- Where another whole number is as near, the quotient lies half way between the two. -/
theorem two_mul_abs_divNearest_sub (hDen : 0 < den) {n : Int} (hNe : n ≠ divNearest num den)
    (hTie : |n * den - num| = |divNearest num den * den - num|) :
    2 * |divNearest num den * den - num| = den := by
  obtain ⟨hLow, hHigh⟩ := two_mul_sub_divNearest_le num hDen
  rcases lt_or_gt_of_ne hNe with hLt | hGt
  · have hStep := Int.mul_le_mul_of_nonneg_right (Int.add_one_le_of_lt hLt) (Int.natCast_nonneg den)
    rw [Int.add_mul] at hStep
    rw [abs_of_nonpos (by omega)] at hTie
    rcases abs_cases (divNearest num den * den - num) with ⟨hAbs, -⟩ | ⟨hAbs, -⟩ <;> omega
  · have hStep := Int.mul_le_mul_of_nonneg_right (Int.add_one_le_of_lt hGt) (Int.natCast_nonneg den)
    rw [Int.add_mul] at hStep
    rw [abs_of_nonneg (by omega)] at hTie
    rcases abs_cases (divNearest num den * den - num) with ⟨hAbs, -⟩ | ⟨hAbs, -⟩ <;> omega

/-- A half goes to the even neighbour. -/
theorem even_divNearest (hDen : 0 < den) (hHalf : 2 * |divNearest num den * den - num| = den) :
    Even (divNearest num den) := by
  have hDen' : (0 : Int) < den := by omega
  have hSplit := Int.mul_ediv_add_emod num den
  have hLow := Int.emod_nonneg num hDen'.ne'
  have hHigh := Int.emod_lt_of_pos num hDen'
  rw [Int.mul_comm] at hSplit
  unfold divNearest at hHalf ⊢
  dsimp only at hHalf ⊢
  split_ifs at hHalf ⊢
  · rw [abs_of_nonpos (by omega)] at hHalf
    omega
  · rw [Int.add_mul, abs_of_nonneg (by omega)] at hHalf
    omega
  · rw [Int.even_iff]
    omega

/-- A quotient is divided to its nearest whole number. -/
theorem roundsToWhole_divNearest (num : Int) (hDen : 0 < den) :
    RoundsToWhole ((num : ℚ) / den) (divNearest num den) := by
  have hPositive : (0 : ℚ) < den := by exact_mod_cast hDen
  constructor
  · intro other
    rw [abs_sub_div hPositive, abs_sub_div hPositive]
    refine div_le_div_of_nonneg_right ?_ hPositive.le
    exact_mod_cast abs_divNearest_sub_le hDen other
  · intro other hNe hTie
    rw [abs_sub_div hPositive, abs_sub_div hPositive, div_left_inj' hPositive.ne'] at hTie
    exact even_divNearest hDen (two_mul_abs_divNearest_sub hDen hNe (by exact_mod_cast hTie))

end Whole

section Binary

variable {num den places : Nat}

/-- The multiple of the last place that a quotient is rounded to. -/
def significand (num den : Nat) : Int := divNearest num (den * 2 ^ lastPlace num den)

theorem round53_eq_significand (num den : Nat) :
    (round53 num den : ℚ) = significand num den * 2 ^ lastPlace num den := by
  exact_mod_cast round53_eq num den

/-- A quotient with 53 bits before its point reaches up to its last place with all of them. -/
theorem two_pow_mul_le (hFine : 2 ^ 52 ≤ num / den) :
    2 ^ 52 * (den * 2 ^ lastPlace num den) ≤ num := by
  have hNonzero : num / den ≠ 0 := by omega
  have hLog : 52 ≤ Nat.log2 (num / den) := (Nat.le_log2 hNonzero).mpr hFine
  have hPlace : 52 + lastPlace num den = Nat.log2 (num / den) := by
    unfold lastPlace
    omega
  calc 2 ^ 52 * (den * 2 ^ lastPlace num den) = 2 ^ (52 + lastPlace num den) * den := by
        rw [Nat.pow_add]
        ring
    _ = 2 ^ Nat.log2 (num / den) * den := by rw [hPlace]
    _ ≤ num / den * den := Nat.mul_le_mul_right den (Nat.log2_self_le hNonzero)
    _ ≤ num := Nat.div_mul_le_self num den

theorem lt_two_pow_mul (hDen : 0 < den) : num < 2 ^ 53 * (den * 2 ^ lastPlace num den) := by
  have hLog : Nat.log2 (num / den) + 1 ≤ 53 + lastPlace num den := by
    unfold lastPlace
    omega
  calc num < den * 2 ^ (Nat.log2 (num / den) + 1) := by
        rw [Nat.mul_comm, ← Nat.div_lt_iff_lt_mul hDen]
        exact Nat.lt_log2_self
    _ ≤ den * 2 ^ (53 + lastPlace num den) :=
        Nat.mul_le_mul_left den (Nat.pow_le_pow_right (by decide) hLog)
    _ = 2 ^ 53 * (den * 2 ^ lastPlace num den) := by
        rw [Nat.pow_add]
        ring

theorem significand_nonneg (num den : Nat) : 0 ≤ significand num den :=
  divNearest_nonneg (Int.natCast_nonneg num) _

theorem significand_le (hDen : 0 < den) : significand num den ≤ 2 ^ 53 := by
  have hPos : 0 < den * 2 ^ lastPlace num den := by positivity
  have hBelow : (num : Int) < 2 ^ 53 * (den * 2 ^ lastPlace num den : Nat) := by
    exact_mod_cast lt_two_pow_mul hDen
  obtain ⟨-, hError⟩ := two_mul_sub_divNearest_le (num : Int) hPos
  by_contra hMore
  have hStep := Int.mul_le_mul_of_nonneg_right (Int.add_one_le_of_lt (not_le.mp hMore))
    (Int.natCast_nonneg (den * 2 ^ lastPlace num den))
  rw [significand, Int.add_mul] at hStep
  omega

theorem le_significand (hDen : 0 < den) (hFine : 2 ^ 52 ≤ num / den) :
    2 ^ 52 ≤ significand num den := by
  have hPos : (0 : Int) < (den * 2 ^ lastPlace num den : Nat) := by positivity
  have hReach : 2 ^ 52 * ((den * 2 ^ lastPlace num den : Nat) : Int) ≤ num := by
    exact_mod_cast two_pow_mul_le hFine
  exact (Int.le_ediv_of_mul_le hPos hReach).trans (ediv_le_divNearest _ _)

/-- A quotient without 53 bits before its point is rounded to a whole number. -/
theorem lastPlace_eq_zero (h : num / den < 2 ^ 52) : lastPlace num den = 0 := by
  unfold lastPlace
  by_cases hZero : num / den = 0
  · rw [hZero]
    rfl
  · have hLog : Nat.log2 (num / den) < 52 := (Nat.log2_lt hZero).mpr h
    omega

/-- Rounding keeps the order of quotients. At one place the significands come in order; a quotient
with a later place has a significand of full length there. -/
theorem round53_mono {more : Nat} (hDen : 0 < den) (h : num ≤ more) :
    round53 num den ≤ round53 more den := by
  have hDiv : num / den ≤ more / den := Nat.div_le_div_right h
  have hPlace : lastPlace num den ≤ lastPlace more den := by
    rw [lastPlace, lastPlace, Nat.log2_eq_log_two, Nat.log2_eq_log_two]
    exact Nat.sub_le_sub_right (Nat.log_mono_right hDiv) 52
  have hNum := round53_eq num den
  have hMore := round53_eq more den
  zify
  rw [hNum, hMore]
  rcases hPlace.eq_or_lt with hSame | hLater
  · rw [← hSame]
    refine Int.mul_le_mul_of_nonneg_right ?_ (by positivity)
    exact divNearest_mono (by positivity) (by exact_mod_cast h)
  · have hFine : 2 ^ 52 ≤ more / den := by
      by_contra hLess
      rw [lastPlace_eq_zero (not_le.mp hLess)] at hLater
      exact Nat.not_lt_zero _ hLater
    calc significand num den * 2 ^ lastPlace num den
        ≤ 2 ^ 53 * 2 ^ lastPlace num den :=
          Int.mul_le_mul_of_nonneg_right (significand_le hDen) (by positivity)
      _ = 2 ^ 52 * 2 ^ (lastPlace num den + 1) := by ring
      _ ≤ 2 ^ 52 * 2 ^ lastPlace more den := by
          have hPow := Nat.pow_le_pow_right (n := 2) (by decide) (Nat.succ_le_of_lt hLater)
          exact Int.mul_le_mul_of_nonneg_left (by exact_mod_cast hPow) (by decide)
      _ ≤ significand more den * 2 ^ lastPlace more den :=
          Int.mul_le_mul_of_nonneg_right (le_significand hDen hFine) (by positivity)

/-- A rounded quotient has a significand of at most 53 bits. One that was rounded up to a power of
two has a single bit, at the next place. -/
theorem exists_significand (num : Nat) (hDen : 0 < den) (places : Nat) :
    ∃ bits exponent : ℤ, (round53 num den : ℚ) / 2 ^ places = bits * 2 ^ exponent ∧
      |bits| < 2 ^ 53 ∧ lastPlace num den - places ≤ exponent ∧
        exponent ≤ lastPlace num den - places + 1 ∧
          (2 ^ 52 ≤ significand num den → 2 ^ 52 ≤ |bits|) ∧
            (Even (significand num den) → Even bits) := by
  have hNonneg := significand_nonneg num den
  have hPower : ((2 : ℚ) ^ lastPlace num den) / 2 ^ places =
      2 ^ ((lastPlace num den : ℤ) - places) := by
    rw [zpow_sub₀ two_ne_zero, zpow_natCast, zpow_natCast]
  rw [round53_eq_significand, mul_div_assoc, hPower]
  rcases (significand_le hDen).lt_or_eq with hLess | hFull
  · refine ⟨significand num den, lastPlace num den - places, rfl, ?_, le_refl _, by omega, ?_, id⟩
    · rwa [abs_of_nonneg hNonneg]
    · rw [abs_of_nonneg hNonneg]
      exact id
  · refine ⟨2 ^ 52, lastPlace num den - places + 1, ?_, by norm_num, by omega, le_refl _,
      fun _ => by norm_num, fun _ => by decide⟩
    rw [hFull, zpow_add_one₀ two_ne_zero]
    push_cast
    ring

/-- A number of 53 bits is a multiple of a power of two, or less than 52 bits of it. -/
theorem exists_multiple_or_lt {bits exponent : ℤ} (hBits : |bits| < 2 ^ 53) (place : ℤ) :
    (∃ n : ℤ, (bits : ℚ) * 2 ^ exponent = n * 2 ^ place) ∨
      (bits : ℚ) * 2 ^ exponent < 2 ^ 52 * 2 ^ place := by
  by_cases hPlace : place ≤ exponent
  · refine .inl ⟨bits * 2 ^ (exponent - place).toNat, ?_⟩
    have hSplit : (2 : ℚ) ^ exponent = 2 ^ (exponent - place).toNat * 2 ^ place := by
      rw [← zpow_natCast, ← zpow_add₀ two_ne_zero]
      congr 1
      omega
    rw [hSplit]
    push_cast
    ring
  · refine .inr ?_
    have hLess : (bits : ℚ) < 2 ^ 53 := by exact_mod_cast (le_abs_self bits).trans_lt hBits
    have hPower : (2 : ℚ) ^ exponent ≤ 2 ^ (place - 1) :=
      zpow_le_zpow_right₀ one_le_two (by omega)
    calc (bits : ℚ) * 2 ^ exponent < 2 ^ 53 * 2 ^ exponent :=
          mul_lt_mul_of_pos_right hLess (by positivity)
      _ ≤ 2 ^ 53 * 2 ^ (place - 1) := mul_le_mul_of_nonneg_left hPower (by positivity)
      _ = 2 ^ 52 * 2 ^ place := by
          rw [zpow_sub_one₀ two_ne_zero]
          ring

theorem round53_mul (num den : Nat) :
    (round53 num den : ℚ) * den = significand num den * (den * 2 ^ lastPlace num den : Nat) := by
  rw [round53_eq_significand]
  push_cast
  ring

/-- No multiple of the last place of a quotient is nearer to it than what it is rounded to. -/
theorem abs_round53_sub_le (num : Nat) (hDen : 0 < den) (n : ℤ) :
    |(round53 num den : ℚ) * den - num| ≤
      |(n : ℚ) * (den * 2 ^ lastPlace num den : Nat) - num| := by
  have hPos : 0 < den * 2 ^ lastPlace num den := by positivity
  have hNearest : |significand num den * (den * 2 ^ lastPlace num den : Nat) - (num : ℤ)| ≤
      |n * (den * 2 ^ lastPlace num den : Nat) - (num : ℤ)| := abs_divNearest_sub_le hPos n
  rw [round53_mul]
  exact_mod_cast hNearest

/-- Where another multiple is as near, the significand is even. -/
theorem even_significand (hDen : 0 < den) {n : ℤ} (hNe : n ≠ significand num den)
    (hTie : |(n : ℚ) * (den * 2 ^ lastPlace num den : Nat) - num| =
      |(round53 num den : ℚ) * den - num|) : Even (significand num den) := by
  have hPos : 0 < den * 2 ^ lastPlace num den := by positivity
  rw [round53_mul] at hTie
  have hTie' : |n * (den * 2 ^ lastPlace num den : Nat) - (num : ℤ)| =
      |significand num den * (den * 2 ^ lastPlace num den : Nat) - (num : ℤ)| := by
    exact_mod_cast hTie
  exact even_divNearest hPos (two_mul_abs_divNearest_sub hPos hNe hTie')

/-- Every number of 53 bits is a multiple of the last place of a quotient, or further from the
quotient than what it is rounded to. -/
theorem exists_multiple_or_nearer (hDen : 0 < den) (hFine : 2 ^ 52 ≤ num / den)
    {bits exponent : ℤ} (hBits : |bits| < 2 ^ 53) :
    (∃ n : ℤ, (bits : ℚ) * 2 ^ exponent * den = n * (den * 2 ^ lastPlace num den : Nat)) ∨
      |(round53 num den : ℚ) * den - num| < |(bits : ℚ) * 2 ^ exponent * den - num| := by
  have hPositive : (0 : ℚ) < den := by exact_mod_cast hDen
  rcases exists_multiple_or_lt hBits (lastPlace num den : ℤ) with ⟨n, hMultiple⟩ | hLess
  · refine .inl ⟨n, ?_⟩
    rw [hMultiple, zpow_natCast]
    push_cast
    ring
  · refine .inr ?_
    have hReach : (2 : ℚ) ^ 52 * (den * 2 ^ lastPlace num den : Nat) ≤ num := by
      exact_mod_cast two_pow_mul_le hFine
    have hBelow : (bits : ℚ) * 2 ^ exponent * den <
        2 ^ 52 * (den * 2 ^ lastPlace num den : Nat) := by
      rw [zpow_natCast] at hLess
      push_cast
      calc (bits : ℚ) * 2 ^ exponent * den < 2 ^ 52 * 2 ^ lastPlace num den * den :=
            mul_lt_mul_of_pos_right hLess hPositive
        _ = 2 ^ 52 * (den * 2 ^ lastPlace num den) := by ring
    have hNearest := abs_round53_sub_le num hDen (2 ^ 52)
    have hCast : ((2 ^ 52 : ℤ) : ℚ) = 2 ^ 52 := by norm_num
    rw [hCast] at hNearest
    generalize ((den * 2 ^ lastPlace num den : Nat) : ℚ) = place at hReach hBelow hNearest
    rw [abs_of_nonpos (sub_nonpos.mpr hReach)] at hNearest
    rw [abs_of_nonpos (sub_nonpos.mpr (hBelow.le.trans hReach))]
    linarith

/-- Every value is a multiple of the last place of a quotient or further from the quotient than what
it is rounded to, if the quotient has 53 bits before its point or every value is a whole number of
units. -/
theorem exists_multiple_or_nearer_of_fine (hDen : 0 < den)
    (hFine : 2 ^ 52 ≤ num / den ∨ 1074 ≤ places) {bits exponent : ℤ} (hBits : |bits| < 2 ^ 53)
    (hExponent : -1074 ≤ exponent) :
    (∃ n : ℤ, (bits : ℚ) * 2 ^ (exponent + places) * den =
        n * (den * 2 ^ lastPlace num den : Nat)) ∨
      |(round53 num den : ℚ) * den - num| < |(bits : ℚ) * 2 ^ (exponent + places) * den - num| := by
  by_cases hWide : 2 ^ 52 ≤ num / den
  · exact exists_multiple_or_nearer hDen hWide hBits
  · have hPlaces := hFine.resolve_left hWide
    obtain ⟨power, hPower⟩ := Int.eq_ofNat_of_zero_le (show 0 ≤ exponent + places by omega)
    refine .inl ⟨bits * 2 ^ power, ?_⟩
    rw [lastPlace_eq_zero (not_le.mp hWide), hPower, zpow_natCast]
    push_cast
    ring

/-- No value is nearer to a quotient than what it is rounded to, and where another is as near, the
significand is even. -/
theorem nearest_round53 (hDen : 0 < den) (hFine : 2 ^ 52 ≤ num / den ∨ 1074 ≤ places) {other : ℚ}
    (hOther : IsBinary64 other) :
    |(round53 num den : ℚ) / 2 ^ places - num / den / 2 ^ places| ≤
        |other - num / den / 2 ^ places| ∧
      (other ≠ round53 num den / 2 ^ places →
        |other - num / den / 2 ^ places| =
          |(round53 num den : ℚ) / 2 ^ places - num / den / 2 ^ places| →
        Even (significand num den)) := by
  have hDenominator : (0 : ℚ) < den := by exact_mod_cast hDen
  have hPositive : (0 : ℚ) < 2 ^ places * den := by positivity
  have hQuotient : (num : ℚ) / den / 2 ^ places = num / (2 ^ places * den) := by
    rw [div_div, mul_comm]
  have hValue : (round53 num den : ℚ) / 2 ^ places * (2 ^ places * den) = round53 num den * den := by
    field_simp
  obtain ⟨bits, exponent, hBits, hLow, -, rfl⟩ := hOther
  have hShift : (bits : ℚ) * 2 ^ exponent * (2 ^ places * den) =
      bits * 2 ^ (exponent + places) * den := by
    rw [zpow_add₀ two_ne_zero, zpow_natCast]
    ring
  have hMultiple := exists_multiple_or_nearer_of_fine hDen hFine hBits hLow
  rw [hQuotient, abs_sub_div hPositive, abs_sub_div hPositive, hValue, hShift]
  constructor
  · refine div_le_div_of_nonneg_right ?_ hPositive.le
    rcases hMultiple with ⟨n, hMultiple⟩ | hNearer
    · rw [hMultiple]
      exact abs_round53_sub_le num hDen n
    · exact hNearer.le
  · intro hNe hTie
    rw [div_left_inj' hPositive.ne'] at hTie
    rcases hMultiple with ⟨n, hMultiple⟩ | hNearer
    · refine even_significand hDen ?_ (hMultiple ▸ hTie)
      rintro rfl
      rw [← round53_mul, ← hShift, ← hValue, mul_left_inj' hPositive.ne'] at hMultiple
      exact hNe hMultiple
    · exact absurd hTie hNearer.ne'

/-- A quotient with 53 bits before its point is rounded to the nearest value. -/
theorem roundsTo_round53 (hDen : 0 < den) (hFine : 2 ^ 52 ≤ num / den) (hPlaces : places ≤ 1074)
    (hRange : lastPlace num den ≤ 970) :
    RoundsTo ((num : ℚ) / den / 2 ^ places) (round53 num den / 2 ^ places) := by
  obtain ⟨bits, exponent, hBits, hWidth, hLow, hHigh, hFull, hEven⟩ :=
    exists_significand num hDen places
  constructor
  · exact ⟨bits, exponent, hWidth, by omega, by omega, hBits⟩
  · intro other hOther
    exact (nearest_round53 hDen (.inl hFine) hOther).1
  · intro other hOther hNe hTie
    exact ⟨bits, exponent, hFull (le_significand hDen hFine), hWidth,
      hEven ((nearest_round53 hDen (.inl hFine) hOther).2 hNe hTie), hBits⟩

/-- A whole number of at most 52 bits is not rounded. -/
theorem round53_one {n : Nat} (h : n < 2 ^ 52) : round53 n 1 = n := by
  have hPlace : lastPlace n 1 = 0 := by
    have hNext : n < 1 * 2 ^ (0 + 53) := by omega
    exact Nat.le_zero.mp (lastPlace_le Nat.one_pos hNext)
  have hRound := round53_eq n 1
  have hDivide := divNearest_mul (n : Int) Nat.one_pos
  rw [hPlace] at hRound
  simp only [Nat.cast_one, Int.mul_one] at hDivide
  simp only [Nat.pow_zero, Nat.mul_one, Int.pow_zero, Int.mul_one, hDivide] at hRound
  exact_mod_cast hRound

end Binary

end Rollup.Number
