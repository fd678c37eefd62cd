import Mathlib
import Rollup.Proofs.Number.Nearest
import Rollup.Proofs.Store.Agreement
import Rollup.Proofs.Store.Held

/-!
Stored times as numbers of seconds. A time is stored as the binary64 value nearest to its seconds
and read back by three roundings; in the era around 1970 nothing of the instant is lost on the way.
-/
namespace Rollup

open Number

namespace Bucket

/-- The seconds since 1970 that are stored. -/
def seconds (b : Bucket) : ℚ := b / 2 ^ 72

/-- A number of seconds is read as so many microseconds: its whole part counts in full, its fraction
is multiplied by a million with one rounding and taken to the nearest whole number. -/
def ReadAs (seconds : ℚ) (micros : ℤ) : Prop :=
  ∃ whole rest : ℤ, ∃ fraction product : ℚ,
    seconds = whole + fraction ∧ |fraction| < 1 ∧ 0 ≤ seconds * fraction ∧
      RoundsTo (fraction * second) product ∧ RoundsToWhole product rest ∧
        micros = whole * second + rest

/-- Rounding does not depend on the sign. -/
theorem roundsTo_nearest {num : Int} {den : Nat}
    (h : RoundsTo ((num.natAbs : Nat) / den / 2 ^ 72) (round53 num.natAbs den / 2 ^ 72)) :
    RoundsTo ((num : ℚ) / den / 2 ^ 72) (nearest num den / 2 ^ 72) := by
  obtain ⟨size, rfl | rfl⟩ := Int.eq_nat_or_neg num
  · rw [Int.natAbs_natCast] at h
    rwa [nearest_natCast, Int.cast_natCast, Int.cast_natCast]
  · rw [Int.natAbs_neg, Int.natAbs_natCast] at h
    rw [nearest_neg, nearest_natCast, Int.cast_neg, Int.cast_neg, Int.cast_natCast,
      Int.cast_natCast, neg_div, neg_div, neg_div]
    exact h.neg

/-- A whole number of steps is rounded to the nearest value. -/
theorem roundsTo_nearest_one {num : Int} (h : num.natAbs < 1 * 2 ^ (39 + 53)) :
    RoundsTo ((num : ℚ) / 2 ^ 72) (nearest num 1 / 2 ^ 72) := by
  have hSize : RoundsTo ((num.natAbs : Nat) / (1 : Nat) / 2 ^ 72)
      (round53 num.natAbs 1 / 2 ^ 72) := by
    by_cases hFine : 2 ^ 52 ≤ num.natAbs / 1
    · exact roundsTo_round53 Nat.one_pos hFine (by decide)
        ((lastPlace_le Nat.one_pos h).trans (by decide))
    · rw [Nat.div_one, not_le] at hFine
      rw [round53_one hFine, Nat.cast_one, div_one]
      refine RoundsTo.refl ⟨(num.natAbs : Nat), -72, ?_, by decide, by decide, ?_⟩
      · rw [Nat.abs_cast]
        exact_mod_cast hFine.trans (by decide)
      · rw [Int.cast_natCast, div_eq_mul_inv, zpow_neg]
        rfl
  have hSteps := roundsTo_nearest hSize
  rwa [Nat.cast_one, div_one] at hSteps

/-- An instant of the era is stored as the value nearest to its seconds. -/
theorem roundsTo_ofMicros {micros : Int} (h : InEra micros) :
    RoundsTo ((micros : ℚ) / second) (ofMicros micros).seconds := by
  by_cases hZero : micros = 0
  · subst hZero
    have hNone : (ofMicros 0).seconds = 0 := by
      rw [ofMicros, Int.zero_mul, nearest_zero, seconds, Int.cast_zero, zero_div]
    rw [hNone, Int.cast_zero, zero_div]
    exact RoundsTo.refl ⟨0, 0, by decide, by decide, by decide, by norm_num⟩
  · have hScale : ((micros * perSecond : Int) : ℚ) / second / 2 ^ 72 = micros / second := by
      have hSteps : ((perSecond : Nat) : ℚ) = 2 ^ 72 := by norm_num [perSecond]
      push_cast
      rw [hSteps]
      field_simp
    have hFine : 2 ^ 52 ≤ (micros * perSecond).natAbs / second := by
      rw [Nat.le_div_iff_mul_le (by decide), Int.natAbs_mul, Int.natAbs_natCast]
      calc 2 ^ 52 * second ≤ 1 * perSecond := by decide
        _ ≤ micros.natAbs * perSecond :=
          Nat.mul_le_mul_right _ (Int.natAbs_pos.mpr hZero)
    rw [← hScale]
    exact roundsTo_nearest (roundsTo_round53 (by decide) hFine (by decide)
      ((lastPlace_le (by decide) (InEra.natAbs_steps_lt h)).trans (by decide)))

/-- The fraction of a bucket has its sign. -/
theorem mul_fraction_nonneg (b : Bucket) : 0 ≤ b * b.tmod perSecond := by
  rcases Int.le_total 0 b with hPos | hNeg
  · exact Int.mul_nonneg hPos ((fraction_sign b).1 hPos)
  · exact Int.mul_nonneg_of_nonpos_of_nonpos hNeg ((fraction_sign b).2 hNeg)

/-- A bucket is read by its whole part and its rounded fraction. -/
theorem readAs_toMicros (b : Bucket) : ReadAs b.seconds b.toMicros := by
  have hPerSecond : ((perSecond : Nat) : ℚ) = 2 ^ 72 := by norm_num [perSecond]
  have hSplit : (2 : ℚ) ^ 72 * (b.tdiv perSecond : Int) + (b.tmod perSecond : Int) = (b : Int) := by
    rw [← hPerSecond]
    exact_mod_cast Int.mul_tdiv_add_tmod b perSecond
  refine ⟨b.tdiv perSecond, divNearest (nearest (b.tmod perSecond * second) 1) perSecond,
    (b.tmod perSecond : Int) / 2 ^ 72, (nearest (b.tmod perSecond * second) 1 : Int) / 2 ^ 72,
    ?_, ?_, ?_, ?_, ?_, rfl⟩
  · rw [seconds, ← hSplit]
    field_simp
  · rw [abs_div, abs_of_pos (by positivity : (0 : ℚ) < 2 ^ 72), div_lt_one (by positivity),
      ← Int.cast_abs, Int.abs_eq_natAbs]
    exact_mod_cast natAbs_fraction_lt b
  · rw [seconds, div_mul_div_comm]
    exact div_nonneg (by exact_mod_cast mul_fraction_nonneg b) (by positivity)
  · have hProduct : ((b.tmod perSecond : Int) : ℚ) / 2 ^ 72 * second =
        ((b.tmod perSecond * second : Int) : ℚ) / 2 ^ 72 := by
      push_cast
      ring
    rw [hProduct]
    exact roundsTo_nearest_one (natAbs_fraction_mul_lt b)
  · rw [← hPerSecond]
    exact roundsToWhole_divNearest _ (by decide)

end Bucket

namespace Timestamp

variable {t : Timestamp}

/-- What is stored for a timestamp keeps its instant: it is the nearest value, it gives the instant
back, and it lies to every other stored time as the instants lie to one another. -/
structure KeptAs (t : Timestamp) (stored : Bucket) : Prop where
  nearest : RoundsTo ((t.sinceEpoch : ℚ) / second) stored.seconds
  read : Bucket.ReadAs stored.seconds stored.toMicros
  instant : stored.toMicros = t.sinceEpoch
  back : ∃ retold, stored.toTime = .ok retold ∧ t.Retold retold
  order : ∀ other : Timestamp, other.isAware = true → ∀ bucket, Bucket.ofTime other = .ok bucket →
    (stored < bucket ↔ t.position < other.position) ∧
      (bucket < stored ↔ other.position < t.position) ∧
        (bucket = stored ↔ other.position = t.position)
  between : ∀ window : Window, window.Aware → ∃ first last,
    Database.ends window = .ok (first, last) ∧ ∀ (table : Table) (server : String) (row : Row),
      row.bucket = stored → (row ∈ table.between server first last ↔
        row ∈ table.rows server ∧
          window.start.position ≤ t.position ∧ t.position ≤ window.stop.position)

/-- The order of stored times, one of them in the era. -/
theorem bucket_order (hEra : InEra t.sinceEpoch) (other : Timestamp) :
    (Bucket.ofMicros t.sinceEpoch < Bucket.ofMicros other.sinceEpoch ↔
        t.position < other.position) ∧
      (Bucket.ofMicros other.sinceEpoch < Bucket.ofMicros t.sinceEpoch ↔
        other.position < t.position) ∧
        (Bucket.ofMicros other.sinceEpoch = Bucket.ofMicros t.sinceEpoch ↔
          other.position = t.position) := by
  have hAfter : Bucket.ofMicros t.sinceEpoch < Bucket.ofMicros other.sinceEpoch ↔
      t.position < other.position := by
    rw [← not_le, Bucket.ofMicros_le_ofMicros_iff' hEra, not_le, sinceEpoch_lt_iff]
  have hBefore : Bucket.ofMicros other.sinceEpoch < Bucket.ofMicros t.sinceEpoch ↔
      other.position < t.position := by
    rw [← not_le, Bucket.ofMicros_le_ofMicros_iff hEra, not_le, sinceEpoch_lt_iff]
  refine ⟨hAfter, hBefore, ?_⟩
  rw [eq_iff_le_not_lt, eq_iff_le_not_lt, ← not_lt, hAfter, hBefore, not_lt]

/-- Every instant of the era is stored exactly. -/
theorem exists_keptAs (hAware : t.isAware = true) (hEra : InEra t.sinceEpoch) :
    ∃ stored, Bucket.ofTime t = .ok stored ∧ t.KeptAs stored := by
  refine ⟨_, Bucket.ofTime_eq hAware, ?_⟩
  constructor
  · exact Bucket.roundsTo_ofMicros hEra
  · exact Bucket.readAs_toMicros _
  · exact Bucket.toMicros_ofMicros hEra
  · exact retold_toTime hAware hEra
  · intro other hOther bucket hBucket
    rw [Bucket.ofTime_eq hOther] at hBucket
    cases hBucket
    exact bucket_order hEra other
  · intro window hWindow
    refine ⟨_, _, Database.ends_eq hWindow, ?_⟩
    intro table server row hRow
    rw [Table.between, List.mem_reverse, List.mem_filter, decide_eq_true_eq, hRow,
      Bucket.ofMicros_le_ofMicros_iff' hEra, Bucket.ofMicros_le_ofMicros_iff hEra,
      sinceEpoch_le_iff, sinceEpoch_le_iff]

/-- The last microsecond of the era, by a clock five and a half hours ahead. -/
theorem exists_keptAs_last :
    let ahead : Offset := ⟨19800 * second, by decide, by decide⟩
    let t : Timestamp := ⟨epoch + era + 19800 * second - 1, some ahead, by decide⟩
    t.isAware = true ∧ InEra t.sinceEpoch ∧
      ∃ stored, Bucket.ofTime t = .ok stored ∧ t.KeptAs stored := by
  intro ahead t
  have hEra : InEra t.sinceEpoch := by decide
  exact ⟨rfl, hEra, exists_keptAs rfl hEra⟩

end Timestamp

end Rollup
