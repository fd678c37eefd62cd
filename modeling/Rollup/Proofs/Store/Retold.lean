import Mathlib
import Rollup.Proofs.Store.Memory
import Rollup.Proofs.Store.Mirror

/-!
Answers that say the same. A database tells times in universal time, so its answers are compared
with those of a store in memory by instants; all else is the same.
-/
namespace Rollup

/-- The second timestamp denotes the instant of the first in universal time. -/
def Timestamp.Retold (time retold : Timestamp) : Prop :=
  retold.isSame time = true ∧ retold.offset = some .zero

/-- The second point is the first, told in universal time. -/
structure Point.Retold (p retold : Point) : Prop where
  time : p.time.Retold retold.time
  readings : retold.readings = p.readings

/-- The second census is the first, told in universal time. -/
structure TierStats.Retold (held retold : TierStats) : Prop where
  records : retold.records = held.records
  servers : retold.servers = held.servers
  earliest : Option.Rel Timestamp.Retold held.earliest retold.earliest
  latest : Option.Rel Timestamp.Retold held.latest retold.latest
  size : retold.size = held.size

/-- The second answer to a question is the first, told in universal time. -/
def Read.Retold : (question : Read) → question.Answer → question.Answer → Prop
  | .range .. => List.Forall₂ Point.Retold
  | .count .. => Eq
  | .latest .. => Option.Rel Point.Retold
  | .recent .. => List.Forall₂ Point.Retold
  | .stats _ => TierStats.Retold

/-- Windows know their offsets, and limits are positive and fit a database. -/
def Read.Fair : Read → Prop
  | .range _ _ window limit => window.Aware ∧ 1 ≤ limit ∧ limit < Database.integerLimit
  | .count _ _ window => window.Aware
  | .latest .. => True
  | .recent _ _ limit => 1 ≤ limit ∧ limit < Database.integerLimit
  | .stats _ => True

namespace Timestamp

/-- What is stored for a timestamp of the era tells its instant. -/
theorem retold_toTime {t : Timestamp} (hAware : t.isAware = true) (h : InEra t.sinceEpoch) :
    ∃ retold, (Bucket.ofMicros t.sinceEpoch).toTime = .ok retold ∧ t.Retold retold := by
  obtain ⟨hStart, hStop⟩ := InEra.wall_lt h
  refine ⟨_, Bucket.toTime_ofMicros h, isSame_iff.mpr ⟨hAware.symm, ?_⟩, rfl⟩
  change (t.position.toNat : Int) - 0 = t.position
  omega

end Timestamp

namespace Point

theorem retold_toPoint {p : Point} (h : p.Storable) :
    ∃ retold, p.row.toPoint = .ok retold ∧ p.Retold retold := by
  obtain ⟨time, hTime, hRetold⟩ := Timestamp.retold_toTime h.aware h.inEra
  refine ⟨⟨time, p.readings⟩, ?_, hRetold, rfl⟩
  rw [Row.toPoint, row, hTime]
  rfl

theorem retold_points {points : List Point} (h : ∀ p ∈ points, p.Storable) :
    ∃ retold, Table.points (points.map row) = .ok retold ∧
      List.Forall₂ Retold points retold := by
  induction points with
  | nil => exact ⟨[], rfl, .nil⟩
  | cons p points ih =>
      obtain ⟨hFirst, hRest⟩ := List.forall_mem_cons.mp h
      obtain ⟨first, hPoint, hRetold⟩ := retold_toPoint hFirst
      obtain ⟨rest, hPoints, hAll⟩ := ih hRest
      refine ⟨first :: rest, ?_, .cons hRetold hAll⟩
      rw [Table.points] at hPoints
      rw [List.map_cons, Table.points, List.mapM_cons, hPoint, hPoints]
      rfl

/-- A window holds a point exactly if the row of the point lies between the stored ends. -/
theorem holds_iff {p : Point} (h : p.Storable) (window : Window) :
    window.holds p = true ↔ Bucket.ofMicros window.start.sinceEpoch ≤ p.row.bucket ∧
      p.row.bucket ≤ Bucket.ofMicros window.stop.sinceEpoch := by
  rw [Window.mem_holds, row, Bucket.ofMicros_le_ofMicros_iff' h.inEra,
    Bucket.ofMicros_le_ofMicros_iff h.inEra]
  simp only [Timestamp.sinceEpoch]
  omega

end Point

end Rollup
