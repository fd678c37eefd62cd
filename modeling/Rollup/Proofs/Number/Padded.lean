import Mathlib
import Rollup.Number.Style
import Rollup.Text.Utf8

/-!
The bytes of a number that is padded to a width: one for each of its last digits.
-/
namespace Rollup

namespace Text

theorem bytes_append (first last : String) :
    bytes (first ++ last) = bytes first ++ bytes last := by
  rw [bytes, String.toList_append, List.flatMap_append]
  rfl

theorem charBytes_digitChar {d : Nat} (h : d < 10) : charBytes (Nat.digitChar d) = [0x30 + d] := by
  interval_cases d <;> rfl

end Text

namespace Number

/-- The last digits of a number, from the first of them on, as bytes. -/
def digits : (width : Nat) → Nat → List Nat
  | 0, _ => []
  | width + 1, n => digits width (n / 10) ++ [0x30 + n % 10]

@[simp] theorem length_digits (width n : Nat) : (digits width n).length = width := by
  induction width generalizing n with
  | zero => rfl
  | succ width ih => rw [digits, List.length_append, ih, List.length_singleton]

theorem mem_digits {width n x : Nat} (h : x ∈ digits width n) : 0x30 ≤ x ∧ x ≤ 0x39 := by
  induction width generalizing n with
  | zero => cases h
  | succ width ih =>
      rcases List.mem_append.mp h with hFront | hLast
      · exact ih hFront
      · rw [List.mem_singleton.mp hLast]
        omega

theorem digits_zero (width : Nat) : digits width 0 = List.replicate width 0x30 := by
  induction width with
  | zero => rfl
  | succ width ih => rw [digits, Nat.zero_div, ih, List.replicate_succ']

theorem toList_padded (width n : Nat) :
    (padded width n).toList =
      List.replicate (width - (Nat.toDigits 10 n).length) '0' ++ Nat.toDigits 10 n := by
  rw [padded, Nat.repr_eq_ofList_toDigits, String.toList_append, String.toList_ofList,
    String.toList_ofList, String.length_ofList]

/-- A number that fits is written by its digits. -/
theorem bytes_padded {width n : Nat} (hWidth : 0 < width) (h : n < 10 ^ width) :
    Text.bytes (padded width n) = digits width n := by
  rw [Text.bytes, toList_padded]
  induction width generalizing n with
  | zero => cases hWidth
  | succ width ih =>
      rw [digits]
      by_cases hOne : n < 10
      · rw [Nat.toDigits_of_lt_base hOne, Nat.div_eq_of_lt hOne, Nat.mod_eq_of_lt hOne, digits_zero,
          List.flatMap_append, List.flatMap_singleton, Text.charBytes_digitChar hOne,
          List.flatMap_replicate, List.length_singleton, Nat.add_sub_cancel]
        exact congrArg (· ++ _) (List.flatten_replicate_singleton ..)
      · have hPositive : 0 < width := by
          rcases Nat.eq_zero_or_pos width with rfl | hPositive
          · omega
          · exact hPositive
        have hFront : n / 10 < 10 ^ width := by
          rw [Nat.pow_succ] at h
          omega
        rw [Nat.toDigits_of_base_le (by decide) (not_lt.mp hOne), List.length_append,
          List.length_singleton, Nat.add_sub_add_right, ← List.append_assoc, List.flatMap_append,
          ih hPositive hFront, List.flatMap_singleton,
          Text.charBytes_digitChar (Nat.mod_lt n (by decide))]

end Number

end Rollup
