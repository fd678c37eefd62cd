import Mathlib
import Rollup.Store.Bucket
import Rollup.Proofs.Number.Rounding
import Rollup.Proofs.Time.Timestamp

/-!
Stored times in the era around 1970. There the numbers lie closer together than a microsecond, so a
stored time tells every instant from every other, in or out of the era, and gives it back exactly.
-/
namespace Rollup

/-- The era reaches so many microseconds to both sides of 1970. -/
def era : Nat := Nat.pow 2 33 * second

/-- An instant of the era, in microseconds since 1970. -/
def InEra (micros : Int) : Prop := -(era : Int) < micros ∧ micros < era

instance (micros : Int) : Decidable (InEra micros) := inferInstanceAs (Decidable (_ ∧ _))

theorem InEra.neg {micros : Int} (h : InEra micros) : InEra (-micros) :=
  ⟨Int.neg_lt_neg h.2, Int.neg_lt_of_neg_lt h.1⟩

/-- An instant of the era lies in the calendar. -/
theorem InEra.wall_lt {t : Timestamp} (h : InEra t.sinceEpoch) :
    0 ≤ t.position ∧ t.position.toNat < Calendar.dayCount * day := by
  obtain ⟨hLow, hHigh⟩ := h
  have hEra : (era : Int) = 8589934592000000 := rfl
  have hEpoch : (Timestamp.epoch : Int) = 62135596800000000 := rfl
  have hCalendar : Calendar.dayCount * day = 315537897600000000 := rfl
  rw [Timestamp.sinceEpoch, hEra, hEpoch] at hLow hHigh
  rw [hCalendar]
  omega

namespace Bucket

open Number

theorem nearest_natCast (num den : Nat) : nearest num den = round53 num den := by
  have hNot : ¬(num : Int) < 0 := by omega
  rw [nearest, if_neg hNot, Int.natAbs_natCast]

theorem nearest_zero (den : Nat) : nearest 0 den = 0 := by
  have hNot : ¬(den : Int) < 0 := by omega
  simp [nearest, round53, divNearest, hNot]

theorem nearest_neg (num : Int) (den : Nat) : nearest (-num) den = -nearest num den := by
  rcases Int.lt_trichotomy num 0 with hNeg | rfl | hPos
  · have hNot : ¬-num < 0 := by omega
    rw [nearest, nearest, if_neg hNot, if_pos hNeg, Int.natAbs_neg, Int.neg_neg]
  · rw [Int.neg_zero, nearest_zero, Int.neg_zero]
  · have hNot : ¬num < 0 := by omega
    have hNeg : -num < 0 := by omega
    rw [nearest, nearest, if_pos hNeg, if_neg hNot, Int.natAbs_neg]

/-- The error of a quotient below `2 ^ (bits + 53)`. -/
theorem two_mul_sub_nearest_le {num : Int} {den bits : Nat} (hDen : 0 < den)
    (h : num.natAbs < den * 2 ^ (bits + 53)) :
    2 * (num - nearest num den * den) ≤ den * 2 ^ bits ∧
      -((den : Int) * 2 ^ bits) ≤ 2 * (num - nearest num den * den) := by
  have hPlace : (den : Int) * 2 ^ lastPlace num.natAbs den ≤ den * 2 ^ bits := by
    have hPow := Nat.pow_le_pow_right (n := 2) (by decide) (lastPlace_le hDen h)
    exact_mod_cast Nat.mul_le_mul_left den hPow
  obtain ⟨hLow, hHigh⟩ := two_mul_sub_round53_le num.natAbs hDen
  rcases Int.natAbs_eq num with hNum | hNum
  · rw [hNum, nearest_natCast, ← hNum]
    omega
  · rw [hNum, nearest_neg, nearest_natCast, ← hNum]
    rw [Int.neg_mul]
    omega

theorem ofMicros_neg (micros : Int) : ofMicros (-micros) = -ofMicros micros := by
  rw [ofMicros, Int.neg_mul, nearest_neg, ofMicros]

/-- In the era the seconds have 33 bits before the point, so the last place is 20 bits behind it. -/
theorem InEra.natAbs_steps_lt {micros : Int} (h : InEra micros) :
    (micros * perSecond).natAbs < second * 2 ^ (52 + 53) := by
  obtain ⟨hLow, hHigh⟩ := h
  have hSize : micros.natAbs < 2 ^ 33 * second := by
    change -((2 ^ 33 * second : Nat) : Int) < micros at hLow
    change micros < ((2 ^ 33 * second : Nat) : Int) at hHigh
    omega
  rw [Int.natAbs_mul, Int.natAbs_natCast]
  calc micros.natAbs * perSecond < 2 ^ 33 * second * perSecond :=
        Nat.mul_lt_mul_of_pos_right hSize (by decide)
    _ = second * 2 ^ (52 + 53) := by decide

/-- In the era a stored time is less than half a microsecond away from its instant. -/
theorem ofMicros_error {micros : Int} (h : InEra micros) :
    2 * (micros * 2 ^ 72 - ofMicros micros * 1000000) ≤ 1000000 * 2 ^ 52 ∧
      -(1000000 * 2 ^ 52) ≤ 2 * (micros * 2 ^ 72 - ofMicros micros * 1000000) :=
  two_mul_sub_nearest_le (by decide) (InEra.natAbs_steps_lt h)

/-- An instant after the era is stored after all of it. -/
theorem le_ofMicros_of_era_le {micros : Int} (h : (era : Int) ≤ micros) :
    2 ^ 105 ≤ ofMicros micros := by
  obtain ⟨size, rfl⟩ := Int.eq_ofNat_of_zero_le ((Int.natCast_nonneg era).trans h)
  have hEra : 2 ^ 33 * second ≤ size := by exact_mod_cast h
  have hQuotient : 2 ^ 105 ≤ size * perSecond / second := by
    rw [Nat.le_div_iff_mul_le (by decide)]
    calc 2 ^ 105 * second = 2 ^ 33 * second * perSecond := by decide
      _ ≤ size * perSecond := Nat.mul_le_mul_right _ hEra
  have hNonzero : size * perSecond / second ≠ 0 := by
    have : 0 < 2 ^ 105 := by decide
    omega
  have hLog : 105 ≤ Nat.log2 (size * perSecond / second) := by
    rw [Nat.le_log2 hNonzero]
    exact hQuotient
  have hRound := (Nat.pow_le_pow_right (n := 2) (by decide) hLog).trans
    (two_pow_log2_le_round53 hNonzero)
  have hNearest : ofMicros size = round53 (size * perSecond) second := by
    rw [ofMicros, ← Int.natCast_mul, nearest_natCast]
  rw [hNearest]
  exact_mod_cast hRound

theorem ofMicros_lt {micros : Int} (h : InEra micros) : ofMicros micros < 2 ^ 105 := by
  have hError := ofMicros_error h
  have hHigh : micros < 2 ^ 33 * 1000000 := h.2
  show (_ : Int) < _
  norm_num at hError hHigh ⊢
  omega

/-- The order of stored times is that of the instants, if the first lies in the era. -/
theorem ofMicros_lt_ofMicros {a b : Int} (ha : InEra a) (hLt : a < b) :
    ofMicros a < ofMicros b := by
  by_cases hb : b < era
  · have hbEra : InEra b := ⟨ha.1.trans hLt, hb⟩
    have hErrorA := ofMicros_error ha
    have hErrorB := ofMicros_error hbEra
    show (_ : Int) < _
    norm_num at hErrorA hErrorB
    omega
  · exact (ofMicros_lt ha).trans_le (le_ofMicros_of_era_le (not_lt.mp hb))

theorem ofMicros_lt_ofMicros' {a b : Int} (hb : InEra b) (hLt : a < b) :
    ofMicros a < ofMicros b := by
  have hNeg := ofMicros_lt_ofMicros hb.neg (Int.neg_lt_neg hLt)
  rw [ofMicros_neg, ofMicros_neg] at hNeg
  exact Int.lt_of_neg_lt_neg hNeg

theorem ofMicros_le_ofMicros_iff {a b : Int} (ha : InEra a) :
    ofMicros a ≤ ofMicros b ↔ a ≤ b := by
  constructor
  · intro hLe
    by_contra hGt
    exact not_lt.mpr hLe (ofMicros_lt_ofMicros' ha (not_le.mp hGt))
  · intro hLe
    rcases hLe.eq_or_lt with rfl | hLt
    · exact le_refl _
    · exact (ofMicros_lt_ofMicros ha hLt).le

theorem ofMicros_le_ofMicros_iff' {a b : Int} (hb : InEra b) :
    ofMicros a ≤ ofMicros b ↔ a ≤ b := by
  constructor
  · intro hLe
    by_contra hGt
    exact not_lt.mpr hLe (ofMicros_lt_ofMicros hb (not_le.mp hGt))
  · intro hLe
    rcases hLe.eq_or_lt with rfl | hLt
    · exact le_refl _
    · exact (ofMicros_lt_ofMicros' hb hLt).le

theorem ofMicros_inj {a b : Int} (ha : InEra a) (h : ofMicros a = ofMicros b) : a = b :=
  Int.le_antisymm ((ofMicros_le_ofMicros_iff ha).mp h.le)
    ((ofMicros_le_ofMicros_iff' ha).mp h.ge)

/-- The fraction of a bucket lies on its side of zero. -/
theorem fraction_sign (b : Int) :
    (0 ≤ b → 0 ≤ b.tmod perSecond) ∧ (b ≤ 0 → b.tmod perSecond ≤ 0) := by
  refine ⟨fun hPos => Int.tmod_nonneg perSecond hPos, fun hNeg => ?_⟩
  have hFraction := Int.tmod_nonneg perSecond (Int.neg_nonneg.mpr hNeg)
  rw [Int.neg_tmod] at hFraction
  exact Int.neg_nonneg.mp hFraction

theorem natAbs_fraction_lt (b : Bucket) : (b.tmod perSecond).natAbs < 2 ^ 72 := by
  rw [Int.natAbs_tmod]
  exact Nat.mod_lt _ (by decide)

theorem natAbs_fraction_mul_lt (b : Bucket) :
    (b.tmod perSecond * second).natAbs < 1 * 2 ^ (39 + 53) := by
  rw [Int.natAbs_mul, Int.natAbs_natCast]
  calc (b.tmod perSecond).natAbs * second < 2 ^ 72 * second :=
        Nat.mul_lt_mul_of_pos_right (natAbs_fraction_lt b) (by decide)
    _ ≤ 1 * 2 ^ (39 + 53) := by decide

/-- A stored time of the era gives its instant back. The two errors, of storing and of reading the
fraction, stay below half a microsecond together. -/
theorem toMicros_ofMicros {micros : Int} (h : InEra micros) :
    (ofMicros micros).toMicros = micros := by
  have hStored := ofMicros_error h
  generalize ofMicros micros = bucket at hStored ⊢
  have hSplit := Int.mul_tdiv_add_tmod bucket perSecond
  have hRead := two_mul_sub_nearest_le (by decide) (natAbs_fraction_mul_lt bucket)
  have hSecond : (second : Int) = 1000000 := rfl
  have hPerSecond : (perSecond : Int) = 2 ^ 72 := by norm_num [perSecond]
  rw [toMicros]
  generalize nearest (bucket.tmod perSecond * second) 1 = fraction at hRead ⊢
  generalize bucket.tdiv perSecond = whole at hSplit ⊢
  generalize bucket.tmod perSecond = rest at hSplit hRead
  rw [hSecond] at hRead ⊢
  rw [hPerSecond] at hSplit
  have hNearest : divNearest fraction perSecond = micros - whole * 1000000 := by
    apply divNearest_eq (by decide)
    · rw [hPerSecond]
      norm_num at hStored hRead hSplit ⊢
      omega
    · rw [hPerSecond]
      norm_num at hStored hRead hSplit ⊢
      omega
  rw [hNearest]
  omega

theorem ofTime_eq {t : Timestamp} (hAware : t.isAware = true) :
    ofTime t = .ok (ofMicros t.sinceEpoch) := by
  rw [ofTime, if_pos hAware]

/-- The timestamp tells the time of a bucket, in universal time. -/
structure ReadsAs (b : Bucket) (t : Timestamp) : Prop where
  offset : t.offset = some .zero
  instant : t.sinceEpoch = b.toMicros

/-- A bucket is read as the one timestamp that tells its time, if the calendar has one. -/
theorem toTime_eq_ok_iff {b : Bucket} {t : Timestamp} : b.toTime = .ok t ↔ b.ReadsAs t := by
  have hShown : b.toTime = .ok t ↔
      Timestamp.ofWall? (b.toMicros + Timestamp.epoch) (some .zero) = some t := by
    rw [toTime]
    cases Timestamp.ofWall? (b.toMicros + Timestamp.epoch) (some .zero) <;> simp
  rw [hShown, Timestamp.ofWall?_eq_some_iff]
  have hSince : t.offset = some .zero → t.sinceEpoch = t.wall - Timestamp.epoch := by
    intro hOffset
    rw [Timestamp.sinceEpoch, Timestamp.position, hOffset]
    exact congrArg (· - (Timestamp.epoch : Int)) (sub_zero _)
  constructor
  · rintro ⟨hOffset, hWall⟩
    exact ⟨hOffset, by rw [hSince hOffset, hWall]; omega⟩
  · rintro ⟨hOffset, hInstant⟩
    exact ⟨hOffset, by rw [← hInstant, hSince hOffset]; omega⟩

/-- What is stored for a timestamp of the era reads back as the same instant in universal time. -/
theorem toTime_ofMicros {t : Timestamp} (h : InEra t.sinceEpoch) :
    (ofMicros t.sinceEpoch).toTime =
      .ok (.universal t.position.toNat (InEra.wall_lt h).2) := by
  have hWall := InEra.wall_lt h
  have hPosition : t.sinceEpoch + Timestamp.epoch = t.position := by
    rw [Timestamp.sinceEpoch]
    omega
  rw [toTime, toMicros_ofMicros h, hPosition, Timestamp.ofWall?, dif_pos hWall.2, if_pos hWall.1]
  rfl

end Bucket
end Rollup
