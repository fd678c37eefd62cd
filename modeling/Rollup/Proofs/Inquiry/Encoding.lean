import Mathlib
import Rollup.Proofs.Inquiry
import Rollup.Proofs.Json
import Rollup.Proofs.Store.Mirror
import Rollup.Proofs.Value

/-!
Results as values, and which of them have a compact JSON text: those whose numbers are all finite
and whose integers have few enough digits. The numbers of a result are those of the points and cells
that it shows, and those that are calculated from them, which only a comparison and a dashboard have.
The integers are the sample counts of the points and cells, and the totals of a series and a summary.
Every result has a plain form, whatever its numbers are.
-/
namespace Rollup

open Json

/-- Every number is finite. -/
def AllFinite (xs : List Float) : Prop := ∀ x ∈ xs, Number.Binary64.isFinite x = true

@[simp] theorem allFinite_nil : AllFinite [] := List.forall_mem_nil _

@[simp] theorem allFinite_append {xs ys : List Float} :
    AllFinite (xs ++ ys) ↔ AllFinite xs ∧ AllFinite ys :=
  List.forall_mem_append

theorem allFinite_flatMap {α : Type} {xs : List α} {numbers : α → List Float} :
    AllFinite (xs.flatMap numbers) ↔ ∀ a ∈ xs, AllFinite (numbers a) :=
  List.forall_mem_flatMap

/-- Every integer has few enough digits to be told. -/
def AllShort (ns : List Int) : Prop := ∀ n ∈ ns, Text.Short n

@[simp] theorem allShort_nil : AllShort [] := List.forall_mem_nil _

@[simp] theorem allShort_cons {n : Int} {ns : List Int} :
    AllShort (n :: ns) ↔ Text.Short n ∧ AllShort ns :=
  List.forall_mem_cons

@[simp] theorem allShort_append {ns ms : List Int} :
    AllShort (ns ++ ms) ↔ AllShort ns ∧ AllShort ms :=
  List.forall_mem_append

theorem allShort_flatMap {α : Type} {xs : List α} {integers : α → List Int} :
    AllShort (xs.flatMap integers) ↔ ∀ a ∈ xs, AllShort (integers a) :=
  List.forall_mem_flatMap

/-- All numbers of a cell. -/
def HeatmapCell.numbers (c : HeatmapCell) : List Float :=
  [c.cpuMean, c.memoryMean, c.diskMean, c.cpuPeak, c.memoryPeak, c.diskPeak]

theorem HeatmapCell.allFinite_ofPoint {p : Point} (h : AllFinite p.readings.numbers) :
    AllFinite (HeatmapCell.ofPoint p).numbers := by
  intro x hMem
  refine h x ?_
  simp only [numbers, ofPoint, List.mem_cons, List.not_mem_nil, or_false] at hMem
  simp only [Readings.numbers, PerMetric.toList, List.mem_append, List.mem_cons]
  tauto

namespace Json

@[simp] theorem encodes_perMetric {t : PerMetric Float} :
    Encodes t.toValue ↔ AllFinite t.toList := by
  simp [PerMetric.toValue, AllFinite, PerMetric.toList]

@[simp] theorem encodes_optional {x : Option Float} :
    Encodes (Point.optional x) ↔ AllFinite x.toList := by
  cases x with
  | none => simp [Point.optional, AllFinite]
  | some x => simp [Point.optional, AllFinite]

@[simp] theorem encodes_point {p : Point} :
    Encodes p.toValue ↔ AllFinite p.readings.numbers ∧ Text.Short p.readings.samples := by
  simp only [Point.toValue, encodes_record, List.forall_mem_cons, encodes_time, encodes_float,
    encodes_int, encodes_optional, Readings.numbers, PerMetric.toList, allFinite_append]
  simp only [AllFinite, List.forall_mem_cons, List.not_mem_nil, false_implies, implies_true,
    and_true, true_and]
  tauto

@[simp] theorem encodes_points {points : List Point} :
    Encodes (Point.listValue points) ↔
      AllFinite (points.flatMap fun p => p.readings.numbers) ∧
        AllShort (points.map fun p => p.readings.samples) := by
  simp only [Point.listValue, encodes_list, List.forall_mem_map, encodes_point,
    allFinite_flatMap, AllShort, forall₂_and]

@[simp] theorem encodes_cell {c : HeatmapCell} :
    Encodes c.toValue ↔ AllFinite c.numbers ∧ Text.Short c.samples := by
  simp [HeatmapCell.toValue, AllFinite, HeatmapCell.numbers]
  tauto

@[simp] theorem encodes_cells {cells : List HeatmapCell} :
    Encodes (HeatmapCell.listValue cells) ↔
      AllFinite (cells.flatMap HeatmapCell.numbers) ∧
        AllShort (cells.map HeatmapCell.samples) := by
  simp only [HeatmapCell.listValue, encodes_list, List.forall_mem_map, encodes_cell,
    allFinite_flatMap, AllShort, forall₂_and]

@[simp] theorem encodes_optionalText (text : Option String) : Encodes (optionalText text) := by
  cases text with
  | none => exact encodes_null
  | some text => exact encodes_text text

@[simp] theorem encodes_optionalTime (time : Option Timestamp) : Encodes (optionalTime time) := by
  cases time with
  | none => exact encodes_null
  | some time => exact encodes_time time

@[simp] theorem encodes_series {s : Series} :
    Encodes s.toValue ↔ Encodes (Point.listValue s.points) ∧ Text.Short s.points.length := by
  simp [Series.toValue]

@[simp] theorem encodes_period (s : Series) : Encodes (Comparison.periodValue s) := by
  simp [Comparison.periodValue]

@[simp] theorem encodes_tierStats {s : TierStats} :
    Encodes s.toValue ↔ Text.Short s.records ∧ Text.Short s.servers := by
  simp [TierStats.toValue]

end Json

namespace Summary

/-- What a summary holds of each tier, the last where there are several of one. -/
def held (s : Summary) : List (Tier × TierStats) := Entries.ofList (· == ·) s.tiers

/-- The totals of a summary, by tier and over all tiers. -/
def totals (s : Summary) : List Int :=
  [s.records, s.servers] ++ s.held.flatMap fun entry => [entry.2.records, entry.2.servers]

theorem sameKey_tier (a b : Tier) : Value.sameKey (.tier a) (.tier b) = (a == b) := by
  rw [Value.sameKey]

theorem ofEntries_tiers (s : Summary) :
    Value.ofEntries (s.tiers.map fun entry => (.tier entry.1, entry.2.toValue)) =
      .mapping (s.held.map fun entry => (.tier entry.1, entry.2.toValue)) :=
  congrArg Value.mapping (Entries.ofList_map Value.tier TierStats.toValue sameKey_tier s.tiers)

/-- The tiers of a summary are keys apart. -/
theorem pairwise_held (s : Summary) :
    (s.held.map fun entry => (Value.tier entry.1, entry.2.toValue)).Pairwise
      fun a b => Value.sameKey a.1 b.1 = false := by
  have hKeys := Entries.nodup_keys_ofList s.tiers
  rw [List.Nodup, List.pairwise_map] at hKeys
  rw [List.pairwise_map]
  refine hKeys.imp fun hNe => ?_
  rw [sameKey_tier]
  exact beq_false_of_ne hNe

end Summary

namespace Json

/-- Apart from its totals, a summary holds times and tiers. -/
@[simp] theorem encodes_summary {s : Summary} : Encodes s.toValue ↔ AllShort s.totals := by
  have hTexts : ((s.held.map fun entry => (Value.tier entry.1, entry.2.toValue)).map
      fun entry => entry.1.plain.display).Nodup :=
    Value.nodup_display (List.forall_mem_map.mpr fun _ _ => nofun) s.pairwise_held
  have hTiers : Encodes (.mapping (s.held.map fun entry => (.tier entry.1, entry.2.toValue))) ↔
      AllShort (s.held.flatMap fun entry => [entry.2.records, entry.2.servers]) := by
    rw [encodes_mapping hTexts, List.forall_mem_map, allShort_flatMap]
    simp
  simp only [Summary.toValue, s.ofEntries_tiers, Summary.totals, allShort_append, ← hTiers]
  simp
  tauto

end Json

namespace Inquiry

/-- A result as a value. -/
def toValue : (inquiry : Inquiry) → inquiry.Result → Value
  | .series .., s | .realtime .., s | .historical .., s => s.toValue
  | .heatmap .., cells => HeatmapCell.listValue cells
  | .compare .., c => c.toValue
  | .dashboard _, d => d.toValue
  | .summary, s => s.toValue

/-- The numbers of a result as they were read. -/
def readings (inquiry : Inquiry) (result : inquiry.Result) : List Float :=
  ((inquiry.points result).flatMap fun p => p.readings.numbers) ++
    (inquiry.cells result).flatMap HeatmapCell.numbers

/-- The numbers of a result that are calculated from others. -/
def derived : (inquiry : Inquiry) → inquiry.Result → List Float
  | .compare .., c => c.change.first.toList ++ c.change.second.toList ++ c.change.change.toList
  | .dashboard _, d => d.trend.toList
  | _, _ => []

/-- The totals of a result. -/
def totals : (inquiry : Inquiry) → inquiry.Result → List Int
  | .series .., s | .realtime .., s | .historical .., s => [(s.points.length : Int)]
  | .summary, s => s.totals
  | _, _ => []

/-- The integers of a result. -/
def integers (inquiry : Inquiry) (result : inquiry.Result) : List Int :=
  ((inquiry.points result).map fun p => p.readings.samples) ++
    (inquiry.cells result).map HeatmapCell.samples ++ inquiry.totals result

/-- A result has a compact JSON text exactly if all of its numbers are finite and all of its
integers have few enough digits. -/
theorem encodes_toValue (inquiry : Inquiry) (result : inquiry.Result) :
    Encodes (inquiry.toValue result) ↔
      AllFinite (inquiry.readings result) ∧ AllFinite (inquiry.derived result) ∧
        AllShort (inquiry.integers result) := by
  cases inquiry with
  | series | realtime | historical =>
      simp [toValue, readings, derived, integers, totals, points, cells]
      tauto
  | heatmap server window => simp [toValue, readings, derived, integers, totals, points, cells]
  | compare server first second =>
      simp [toValue, readings, derived, integers, totals, points, cells, Comparison.toValue]
      tauto
  | dashboard server =>
      simp [toValue, readings, derived, integers, totals, points, cells, Dashboard.toValue]
      tauto
  | summary => simp [toValue, readings, derived, integers, totals, points, cells]

/-- What is shown is finite where every point that may be shown is. -/
theorem allFinite_readings {terms : Terms} {policy : Policy} {inquiry : Inquiry}
    {result : inquiry.Result} (h : Ends terms policy inquiry (.ok result))
    (hFinite : ∀ p, terms.Shows p → AllFinite p.readings.numbers) :
    AllFinite (inquiry.readings result) := by
  cases h with
  | shown hPoints hCells =>
      rw [readings, allFinite_append, allFinite_flatMap, allFinite_flatMap]
      refine ⟨fun p hMem => hFinite p (hPoints p hMem), ?_⟩
      intro cell hMem
      obtain ⟨p, hPoint, rfl⟩ := hCells cell hMem
      exact HeatmapCell.allFinite_ofPoint (hFinite p hPoint)

end Inquiry

namespace Value

@[simp] theorem encodable_perMetric (t : PerMetric Float) : t.toValue.Encodable := by
  simp [PerMetric.toValue]

@[simp] theorem encodable_optional (x : Option Float) : (Point.optional x).Encodable := by
  cases x with
  | none => exact .null
  | some x => exact .float x

@[simp] theorem encodable_optionalText (text : Option String) : (optionalText text).Encodable := by
  cases text with
  | none => exact .null
  | some text => exact .text text

@[simp] theorem encodable_optionalTime (time : Option Timestamp) :
    (optionalTime time).Encodable := by
  cases time with
  | none => exact .null
  | some time => exact .time time

@[simp] theorem encodable_point (p : Point) : p.toValue.Encodable := by
  simp [Point.toValue]

@[simp] theorem encodable_points (points : List Point) : (Point.listValue points).Encodable := by
  simp [Point.listValue]

@[simp] theorem encodable_cells (cells : List HeatmapCell) :
    (HeatmapCell.listValue cells).Encodable := by
  simp [HeatmapCell.listValue, HeatmapCell.toValue]

@[simp] theorem encodable_series (s : Series) : s.toValue.Encodable := by
  simp [Series.toValue]

/-- The tiers of a summary come once each. -/
@[simp] theorem encodable_summary (s : Summary) : s.toValue.Encodable := by
  have hTiers :
      (mapping (s.held.map fun entry => (.tier entry.1, entry.2.toValue))).Encodable := by
    refine .mapping ?_ ?_ s.pairwise_held
    · exact List.forall_mem_map.mpr fun entry _ => .tier entry.1
    · exact List.forall_mem_map.mpr fun entry _ => by simp [TierStats.toValue]
  simp [Summary.toValue, s.ofEntries_tiers, hTiers]

end Value

namespace Inquiry

/-- Every result has a plain form. -/
theorem encodable_toValue (inquiry : Inquiry) (result : inquiry.Result) :
    (inquiry.toValue result).Encodable := by
  cases inquiry <;> simp [toValue, Comparison.toValue, Comparison.periodValue, Dashboard.toValue]

end Inquiry

end Rollup
