import Mathlib
import Rollup.Json
import Rollup.Proofs.Entries
import Rollup.Proofs.Failure

/-!
Which values have a compact JSON text. A number has one if it is finite, an integer if it has few
enough digits, a list or a record if all its parts have, and so has a mapping; a text or a time
always has one.
-/
namespace Rollup

namespace Text

/-- The integer has no more digits than may be told. -/
structure Short (n : Int) : Prop where
  lt : n.natAbs < 10 ^ maxDigits

theorem short_iff {n : Int} : Short n ↔ (Nat.toDigits 10 n.natAbs).length ≤ maxDigits := by
  rw [Nat.length_toDigits_le_iff (by decide) (by decide)]
  exact ⟨Short.lt, Short.mk⟩

theorem short_zero : Short 0 := short_iff.mpr (by decide)

theorem exists_decimal?_iff {n : Int} : (∃ text, decimal? n = some text) ↔ Short n := by
  rw [short_iff, decimal?]
  split <;> simp_all

end Text

namespace Json

variable {layout : Layout}

/-- The value has a compact JSON text. -/
def Encodes (value : Value) : Prop := ∃ text, encodeCompact value = .ok text

theorem exists_printItems_iff {items : List Value} :
    (∃ texts, printItems layout items = .ok texts) ↔
      ∀ item ∈ items, ∃ text, print layout item = .ok text := by
  induction items with
  | nil => simp [printItems]
  | cons item rest ih =>
      rw [printItems, exists_bind_eq_ok_iff, List.forall_mem_cons, ← ih]
      simp only [exists_bind_eq_ok_iff, Except.ok.injEq, exists_eq', and_true,
        exists_and_right]

theorem exists_printEntries_iff {entries : List (Value × Value)} :
    (∃ texts, printEntries layout entries = .ok texts) ↔
      ∀ entry ∈ entries, ∃ text, print layout entry.2 = .ok text := by
  induction entries with
  | nil => simp [printEntries]
  | cons entry rest ih =>
      rw [printEntries, exists_bind_eq_ok_iff, List.forall_mem_cons, ← ih]
      simp only [exists_bind_eq_ok_iff, Except.ok.injEq, exists_eq', and_true,
        exists_and_right]

theorem plainItems_eq (items : List Value) : Value.plainItems items = items.map Value.plain := by
  induction items with
  | nil => rfl
  | cons item rest ih => rw [Value.plainItems, ih, List.map_cons]

theorem plainEntries_eq (entries : List (Value × Value)) :
    Value.plainEntries entries =
      entries.map fun entry => (.text entry.1.plain.display, entry.2.plain) := by
  induction entries with
  | nil => rfl
  | cons entry rest ih => rw [Value.plainEntries, ih, List.map_cons]

theorem plainFields_eq (fields : List (String × Value)) :
    Value.plainFields fields = fields.map fun field => (.text field.1, field.2.plain) := by
  induction fields with
  | nil => rfl
  | cons field rest ih => rw [Value.plainFields, ih, List.map_cons]

@[simp] theorem encodes_null : Encodes .null := ⟨_, rfl⟩

@[simp] theorem encodes_bool (value : Bool) : Encodes (.bool value) := ⟨_, rfl⟩

@[simp] theorem encodes_text (value : String) : Encodes (.text value) := ⟨_, rfl⟩

@[simp] theorem encodes_tier (tier : Tier) : Encodes (.tier tier) := ⟨_, rfl⟩

@[simp] theorem encodes_time (time : Timestamp) : Encodes (.time time) := ⟨_, rfl⟩

@[simp] theorem encodes_int {n : Int} : Encodes (.int n) ↔ Text.Short n := by
  change (∃ text, integer n = .ok text) ↔ _
  rw [← Text.exists_decimal?_iff, integer]
  cases Text.decimal? n <;> simp

@[simp] theorem encodes_float {x : Float} :
    Encodes (.float x) ↔ Number.Binary64.isFinite x = true := by
  change (∃ text, number .compact x = .ok text) ↔ _
  simp only [number, Layout.compact]
  split <;> simp_all

@[simp] theorem encodes_list {items : List Value} :
    Encodes (.list items) ↔ ∀ item ∈ items, Encodes item := by
  rw [Encodes, encodeCompact, Value.plain, print, plainItems_eq]
  simp only [exists_bind_eq_ok_iff, Except.ok.injEq, exists_eq', and_true,
    exists_printItems_iff, List.forall_mem_map]
  rfl

@[simp] theorem encodes_record {fields : List (String × Value)} :
    Encodes (.record fields) ↔ ∀ field ∈ fields, Encodes field.2 := by
  rw [Encodes, encodeCompact, Value.plain, print, plainFields_eq]
  simp only [exists_bind_eq_ok_iff, Except.ok.injEq, exists_eq', and_true,
    exists_printEntries_iff, List.forall_mem_map]
  rfl

/-- A mapping is asked for all of its values where no two of its keys have one text. -/
theorem encodes_mapping {entries : List (Value × Value)}
    (h : (entries.map fun entry => entry.1.plain.display).Nodup) :
    Encodes (.mapping entries) ↔ ∀ entry ∈ entries, Encodes entry.2 := by
  have hApart : (entries.map fun entry =>
      (Value.text entry.1.plain.display, entry.2.plain)).Pairwise
        fun a b => Value.sameKey a.1 b.1 = false := by
    rw [List.Nodup, List.pairwise_map] at h
    rw [List.pairwise_map]
    refine h.imp fun hNe => ?_
    rw [Value.sameKey]
    exact beq_false_of_ne hNe
  rw [Encodes, encodeCompact, Value.plain, Value.ofEntries, plainEntries_eq,
    Entries.ofList_of_pairwise hApart, print]
  simp only [exists_bind_eq_ok_iff, Except.ok.injEq, exists_eq', and_true,
    exists_printEntries_iff, List.forall_mem_map]
  rfl

end Json

end Rollup
