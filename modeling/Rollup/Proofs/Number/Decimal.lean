import Mathlib
import Rollup.Number.Binary64
import Rollup.Proofs.Number.Nearest

/-!
Decimals read as binary64 values. The value of a decimal is the nearest one, however small the decimal
is; of two that are as near it is the one whose last bit is zero, so there is never more than one.
-/
namespace Rollup.Number

/-- The last bit of a value is zero, among the bits that a value of its size has. -/
def LastBitZero (value : ℚ) : Prop :=
  ∃ significand exponent : ℤ, |significand| < 2 ^ 53 ∧ -1074 ≤ exponent ∧ exponent ≤ 971 ∧
    Even significand ∧ value = significand * 2 ^ exponent

/-- The value is the one that a number is read as: the nearest, and the even one of two that are as
near. A number from half a unit above the largest value on is read as none. -/
structure NearestEven (x value : ℚ) : Prop where
  finite : |x| < 2 ^ 1024 - 2 ^ 970
  isBinary64 : IsBinary64 value
  nearest : ∀ other, IsBinary64 other → |value - x| ≤ |other - x|
  even : ∀ other, IsBinary64 other → other ≠ value → |other - x| = |value - x| → LastBitZero value

variable {x y value other : ℚ} {m n : ℤ}

/-- Of two numbers that are as near, none in between is left out. -/
theorem not_lt_lt_of_nearest {left right : ℚ} (hTie : |left - x| = |right - x|)
    (hNearest : |left - x| ≤ |y - x|) : ¬(left < y ∧ y < right) := by
  rintro ⟨hLeft, hRight⟩
  rcases abs_cases (left - x) with ⟨h₁, _⟩ | ⟨h₁, _⟩ <;>
    rcases abs_cases (right - x) with ⟨h₂, _⟩ | ⟨h₂, _⟩ <;>
      rcases abs_cases (y - x) with ⟨h₃, _⟩ | ⟨h₃, _⟩ <;> linarith

/-- The next value after an even one lies before every even multiple of its last bit. -/
theorem exists_between_of_le {a b e f : ℤ} (hBits : |a| < 2 ^ 53) (hLow : -1074 ≤ e)
    (hHigh : e ≤ 971) (hEvenA : Even a) (hEvenB : Even b) (hExponents : e ≤ f)
    (hLess : (a : ℚ) * 2 ^ e < b * 2 ^ f) :
    ∃ between, IsBinary64 between ∧ (a : ℚ) * 2 ^ e < between ∧ between < b * 2 ^ f := by
  have hUnit : (0 : ℚ) < 2 ^ e := by positivity
  obtain ⟨places, hPlaces⟩ := Int.eq_ofNat_of_zero_le (Int.sub_nonneg_of_le hExponents)
  have hScale : (b : ℚ) * 2 ^ f = (b * 2 ^ places : ℤ) * 2 ^ e := by
    rw [show f = (places : ℤ) + e by omega, zpow_add₀ two_ne_zero, zpow_natCast]
    push_cast
    ring
  rw [hScale] at hLess ⊢
  have hMore : a < b * 2 ^ places := by exact_mod_cast lt_of_mul_lt_mul_right hLess hUnit.le
  have hEven : Even (b * 2 ^ places) := hEvenB.mul_right _
  rw [Int.even_iff] at hEvenA hEven
  rw [abs_lt] at hBits
  refine ⟨(a + 1 : ℤ) * 2 ^ e, ⟨a + 1, e, ?_, hLow, hHigh, rfl⟩, ?_, ?_⟩
  · rw [abs_lt]
    omega
  · refine mul_lt_mul_of_pos_right ?_ hUnit
    exact_mod_cast lt_add_one a
  · refine mul_lt_mul_of_pos_right ?_ hUnit
    exact_mod_cast (by omega : a + 1 < b * 2 ^ places)

/-- Between two values whose last bits are zero lies another value. -/
theorem exists_between {left right : ℚ} (hLeft : LastBitZero left) (hRight : LastBitZero right)
    (hLess : left < right) : ∃ between, IsBinary64 between ∧ left < between ∧ between < right := by
  obtain ⟨a, e, hA, hLowE, hHighE, hEvenA, rfl⟩ := hLeft
  obtain ⟨b, f, hB, hLowF, hHighF, hEvenB, rfl⟩ := hRight
  rcases le_total e f with hExponents | hExponents
  · exact exists_between_of_le hA hLowE hHighE hEvenA hEvenB hExponents hLess
  · have hNeg : ((-b : ℤ) : ℚ) * 2 ^ f < (-a : ℤ) * 2 ^ e := by
      push_cast
      linarith
    obtain ⟨between, hBetween, hAbove, hBelow⟩ := exists_between_of_le (by rwa [abs_neg]) hLowF
      hHighF hEvenB.neg hEvenA.neg hExponents hNeg
    push_cast at hAbove hBelow
    exact ⟨-between, hBetween.neg, by linarith, by linarith⟩

/-- A number is read as one value only. -/
theorem NearestEven.unique (h : NearestEven x value) (hOther : NearestEven x other) :
    value = other := by
  by_contra hNe
  have hTie : |value - x| = |other - x| :=
    le_antisymm (h.nearest _ hOther.isBinary64) (hOther.nearest _ h.isBinary64)
  have hEven := h.even other hOther.isBinary64 (Ne.symm hNe) hTie.symm
  have hOtherEven := hOther.even value h.isBinary64 hNe hTie
  rcases lt_or_gt_of_ne hNe with hLess | hLess
  · obtain ⟨between, hBetween, hInside⟩ := exists_between hEven hOtherEven hLess
    exact not_lt_lt_of_nearest hTie (h.nearest _ hBetween) hInside
  · obtain ⟨between, hBetween, hInside⟩ := exists_between hOtherEven hEven hLess
    exact not_lt_lt_of_nearest hTie.symm (hOther.nearest _ hBetween) hInside

/-- What a number is read as lies on the same side of every value. -/
theorem NearestEven.le_of_le (h : NearestEven x value) (hOther : IsBinary64 other)
    (hLe : other ≤ x) : other ≤ value := by
  by_contra hLess
  have hNearest := h.nearest _ hOther
  rw [abs_of_nonpos (by linarith), abs_of_nonpos (by linarith)] at hNearest
  linarith

theorem NearestEven.le_of_ge (h : NearestEven x value) (hOther : IsBinary64 other)
    (hLe : x ≤ other) : value ≤ other := by
  by_contra hLess
  have hNearest := h.nearest _ hOther
  rw [abs_of_nonneg (by linarith), abs_of_nonneg (by linarith)] at hNearest
  linarith

/-- There is only one nearest whole number. -/
theorem RoundsToWhole.unique (h : RoundsToWhole x m) (hOther : RoundsToWhole x n) : m = n := by
  by_contra hNe
  have hTie : |(m : ℚ) - x| = |(n : ℚ) - x| := le_antisymm (h.nearest n) (hOther.nearest m)
  obtain ⟨a, ha⟩ := h.even n (Ne.symm hNe) hTie.symm
  obtain ⟨b, hb⟩ := hOther.even m hNe hTie
  rcases lt_or_gt_of_ne hNe with hLess | hLess
  · refine not_lt_lt_of_nearest hTie (h.nearest (m + 1)) ⟨?_, ?_⟩ <;> norm_cast <;> omega
  · refine not_lt_lt_of_nearest hTie.symm (hOther.nearest (n + 1)) ⟨?_, ?_⟩ <;> norm_cast <;> omega

theorem RoundsToWhole.le_of_le (h : RoundsToWhole x n) (hLe : (m : ℚ) ≤ x) : m ≤ n := by
  by_contra hLess
  have hStep : (n : ℚ) < m := by exact_mod_cast not_le.mp hLess
  have hNearest := h.nearest m
  rw [abs_of_nonpos (by linarith), abs_of_nonpos (by linarith)] at hNearest
  linarith

theorem isBinary64_zero : IsBinary64 0 :=
  ⟨0, 0, by decide, by decide, by decide, by norm_num⟩

theorem isBinary64_two_pow {n : Nat} (h : n ≤ 971) : IsBinary64 (2 ^ n) :=
  ⟨1, n, by decide, by omega, by omega, by rw [zpow_natCast, Int.cast_one, one_mul]⟩

/-- A quotient that is rounded to less than a power of two is less than it. -/
theorem lt_of_round53_lt {num den : Nat} (bits places : Nat) (hDen : 0 < den)
    (h : round53 (num * 2 ^ places) den < 2 ^ (bits + places)) : num < den * 2 ^ bits := by
  by_contra hLarge
  have hQuotient : 2 ^ (bits + places) ≤ num * 2 ^ places / den := by
    rw [Nat.le_div_iff_mul_le hDen, Nat.pow_add]
    calc 2 ^ bits * 2 ^ places * den = den * 2 ^ bits * 2 ^ places := by ring
      _ ≤ num * 2 ^ places := Nat.mul_le_mul_right _ (not_lt.mp hLarge)
  have hNonzero : num * 2 ^ places / den ≠ 0 := by
    have hPositive := (Nat.two_pow_pos (bits + places)).trans_le hQuotient
    exact hPositive.ne'
  have hLog := (Nat.le_log2 hNonzero).mpr hQuotient
  have hKept := two_pow_log2_le_round53 hNonzero
  exact absurd ((Nat.pow_le_pow_right (by decide) hLog).trans hKept) (not_le.mpr h)

/-- A product that is divided to less than a power of two comes from less than its multiple. -/
theorem lt_of_divNearest_lt {n factor : Nat} (bits places : Nat) (hFactor : 1 ≤ factor)
    (h : divNearest (n * factor : Nat) (2 ^ places) < 2 ^ bits) : n < 2 ^ (bits + places) := by
  have hFloor := (ediv_le_divNearest (n * factor : Nat) (2 ^ places)).trans_lt h
  have hProduct : n * factor / 2 ^ places < 2 ^ bits := by exact_mod_cast hFloor
  rw [Nat.div_lt_iff_lt_mul (by positivity), ← Nat.pow_add] at hProduct
  exact (Nat.le_mul_of_pos_right n hFactor).trans_lt hProduct

/-- The power that definitions are written with is the one that lemmas are about. -/
theorem natPow_eq (base exponent : Nat) : Nat.pow base exponent = base ^ exponent := rfl

theorem nearestUnits_eq (num den : Nat) :
    Binary64.nearestUnits num den = round53 (num * 2 ^ Binary64.places) den := by
  rw [Binary64.nearestUnits, natPow_eq]

theorem tooLarge_iff {units : Nat} :
    Binary64.tooLarge units = true ↔ 2 ^ (1024 + Binary64.places) ≤ units := by
  rw [Binary64.tooLarge, decide_eq_true_eq, natPow_eq]

/-- A quotient of moderate size is read as the nearest multiple of the least positive value, rounded
to the bits that a value has. -/
theorem nearestEven_nearestUnits {num den : Nat} (hDen : 0 < den) (hRange : num < den * 2 ^ 100) :
    NearestEven ((num : ℚ) / den) (Binary64.nearestUnits num den / 2 ^ Binary64.places) := by
  have hPlaces : Binary64.places = 1074 := rfl
  have hQuotient : (num : ℚ) / den =
      (num * 2 ^ Binary64.places : Nat) / den / 2 ^ Binary64.places := by
    push_cast
    field_simp
  have hFine : 2 ^ 52 ≤ num * 2 ^ Binary64.places / den ∨ 1074 ≤ Binary64.places :=
    .inr hPlaces.ge
  have hPlace : lastPlace (num * 2 ^ Binary64.places) den ≤ 1121 := by
    have hBits : 100 + Binary64.places = 1121 + 53 := rfl
    have hScaled : num * 2 ^ Binary64.places < den * 2 ^ (100 + Binary64.places) := by
      rw [Nat.pow_add, ← Nat.mul_assoc]
      exact Nat.mul_lt_mul_of_pos_right hRange (by positivity)
    exact lastPlace_le hDen (hBits ▸ hScaled)
  obtain ⟨bits, exponent, hBits, hWidth, hLow, hHigh, -, hEven⟩ :=
    exists_significand (num * 2 ^ Binary64.places) hDen Binary64.places
  rw [nearestUnits_eq]
  constructor
  · have hDenominator : (0 : ℚ) < den := by exact_mod_cast hDen
    have hSmall : (num : ℚ) / den < 2 ^ 100 := by
      rw [div_lt_iff₀' hDenominator]
      exact_mod_cast hRange
    rw [abs_of_nonneg (by positivity), lt_sub_iff_add_lt]
    calc (num : ℚ) / den + 2 ^ 970 < 2 ^ 970 + 2 ^ 970 := by
          gcongr
          exact hSmall.trans_le (pow_le_pow_right₀ one_le_two (by decide))
      _ = 2 ^ 971 := by rw [← two_mul, ← pow_succ']
      _ ≤ 2 ^ 1024 := pow_le_pow_right₀ one_le_two (by decide)
  · exact ⟨bits, exponent, hWidth, by omega, by omega, hBits⟩
  · intro other hOther
    rw [hQuotient]
    exact (nearest_round53 hDen hFine hOther).1
  · intro other hOther hNe hTie
    rw [hQuotient] at hTie
    exact ⟨bits, exponent, hWidth, by omega, by omega,
      hEven ((nearest_round53 hDen hFine hOther).2 hNe hTie), hBits⟩

end Rollup.Number
