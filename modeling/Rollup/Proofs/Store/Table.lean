import Mathlib
import Rollup.Store.Database
import Rollup.Proofs.Entries
import Rollup.Proofs.Store.Row

/-!
Tables after writes. A write for a server leaves the rows of the others alone, and no server has an
entry without rows. The tables of two sources are one when their folded names are.
-/
namespace Rollup

/-- Whether the number of samples of a row can be written. -/
def Row.fits (row : Row) : Bool := Database.fits row.readings.samples

namespace Table

/-- Servers come once, each with rows in order. -/
structure Sound (table : Table) : Prop where
  nodup : (table.map Prod.fst).Nodup
  filled : ∀ entry ∈ table, entry.2 ≠ []
  descending : ∀ entry ∈ table, Row.Descending entry.2

/-- The table after rows were written for a server, one after another. -/
def putAll (table : Table) (server : String) (rows : List Row) : Table :=
  rows.foldl (fun table row => table.put server row) table

variable {table : Table} {server other : String} {row : Row} {rows : List Row}

theorem rows_put_self (table : Table) (server : String) (row : Row) :
    (table.put server row).rows server = row.insert (table.rows server) := by
  rw [Table.rows, put, Entries.find?_put_self]
  rfl

theorem rows_put_of_ne (hNe : other ≠ server) (table : Table) (row : Row) :
    (table.put server row).rows other = table.rows other := by
  rw [Table.rows, put, Entries.find?_put_of_ne hNe, ← Table.rows]

@[simp] theorem putAll_nil (table : Table) (server : String) : table.putAll server [] = table := rfl

@[simp] theorem putAll_cons (table : Table) (server : String) (row : Row) (rows : List Row) :
    table.putAll server (row :: rows) = (table.put server row).putAll server rows := rfl

theorem rows_putAll_self (table : Table) (server : String) (rows : List Row) :
    (table.putAll server rows).rows server = Row.insertAll (table.rows server) rows := by
  induction rows generalizing table with
  | nil => rfl
  | cons row rows ih => rw [putAll_cons, ih, rows_put_self, Row.insertAll_cons]

theorem rows_putAll_of_ne (hNe : other ≠ server) (table : Table) (rows : List Row) :
    (table.putAll server rows).rows other = table.rows other := by
  induction rows generalizing table with
  | nil => rfl
  | cons row rows ih => rw [putAll_cons, ih, rows_put_of_ne hNe]

/-- Rows are written up to the first whose number of samples does not fit. -/
theorem insertRows_eq (server : String) (rows : List Row) (table : Table) :
    Database.insertRows server rows table =
      (rows.all Row.fits, table.putAll server (rows.takeWhile Row.fits)) := by
  induction rows generalizing table with
  | nil => rfl
  | cons row rows ih =>
      rw [Database.insertRows, List.all_cons, List.takeWhile_cons, ← Row.fits]
      by_cases hFits : row.fits = true
      · simp [hFits, ih]
      · simp [hFits]

/-- Where rows stand at a bucket, one of them has it. -/
theorem exists_mem_of_between_ne_nil {bucket : Bucket}
    (h : table.between server bucket bucket ≠ []) :
    ∃ row ∈ table.rows server, row.bucket = bucket := by
  obtain ⟨row, hRow⟩ := List.exists_mem_of_ne_nil _ h
  rw [between, List.mem_reverse, List.mem_filter, decide_eq_true_eq] at hRow
  exact ⟨row, hRow.1, le_antisymm hRow.2.2 hRow.2.1⟩

namespace Sound

theorem nil : Sound [] := ⟨List.nodup_nil, by simp, by simp⟩

theorem mem_iff (h : table.Sound) :
    (server, rows) ∈ table ↔ rows ≠ [] ∧ table.rows server = rows := by
  rw [← Entries.find?_eq_some_iff h.nodup]
  constructor
  · intro hFind
    have hMem := (Entries.find?_eq_some_iff h.nodup).mp hFind
    exact ⟨h.filled _ hMem, by rw [Table.rows, hFind]; rfl⟩
  · rintro ⟨hFilled, hRows⟩
    rw [Table.rows] at hRows
    cases hFind : Entries.find? (· == ·) server table with
    | none =>
        rw [hFind] at hRows
        exact absurd hRows.symm hFilled
    | some found =>
        rw [hFind] at hRows
        exact congrArg some hRows

/-- The servers of a table are those with rows. -/
theorem mem_keys_iff (h : table.Sound) :
    server ∈ table.map Prod.fst ↔ table.rows server ≠ [] := by
  rw [List.mem_map]
  constructor
  · rintro ⟨⟨key, rows⟩, hMem, rfl⟩
    obtain ⟨hFilled, hRows⟩ := h.mem_iff.mp hMem
    rw [hRows]
    exact hFilled
  · intro hFilled
    exact ⟨(server, _), h.mem_iff.mpr ⟨hFilled, rfl⟩, rfl⟩

/-- The buckets of a table are those of the rows of its servers. -/
theorem buckets_eq (h : table.Sound) : table.buckets = (table.map Prod.fst).flatMap
    fun server => (table.rows server).map Row.bucket := by
  rw [buckets, List.flatMap_map]
  apply List.flatMap_congr
  rintro ⟨server, rows⟩ hMem
  rw [(h.mem_iff.mp hMem).2]

theorem rows_descending (h : table.Sound) (server : String) :
    Row.Descending (table.rows server) := by
  by_cases hRows : table.rows server = []
  · rw [hRows]
    exact List.Pairwise.nil
  · exact h.descending _ (h.mem_iff.mpr ⟨hRows, rfl⟩)

/-- At the bucket of a row stands that row alone. -/
theorem between_of_mem (h : table.Sound) (hMem : row ∈ table.rows server) :
    table.between server row.bucket row.bucket = [row] := by
  have hRows := h.rows_descending server
  have hFilter : (table.rows server).filter
      (fun other => decide (row.bucket ≤ other.bucket ∧ other.bucket ≤ row.bucket)) = [row] := by
    refine Row.eq_of_mem_iff_of_pairwise (hRows.filter _) (List.pairwise_singleton _ row) ?_
    intro other
    rw [List.mem_filter, List.mem_singleton, decide_eq_true_eq]
    constructor
    · rintro ⟨hOther, hLe, hGe⟩
      exact hRows.eq_of_bucket_eq hOther hMem (le_antisymm hGe hLe)
    · rintro rfl
      exact ⟨hMem, le_refl _, le_refl _⟩
  rw [between, hFilter, List.reverse_singleton]

theorem put (h : table.Sound) (server : String) (row : Row) : (table.put server row).Sound where
  nodup := Entries.nodup_keys_put h.nodup
  filled := by
    intro entry hMem
    rcases (Entries.mem_put h.nodup).mp hMem with rfl | ⟨hOld, -⟩
    · intro hNil
      have hRow : row ∈ row.insert (table.rows server) :=
        (Row.mem_insert (h.rows_descending server)).mpr (.inl rfl)
      exact List.ne_nil_of_mem hRow hNil
    · exact h.filled entry hOld
  descending := by
    intro entry hMem
    rcases (Entries.mem_put h.nodup).mp hMem with rfl | ⟨hOld, -⟩
    · exact (h.rows_descending server).insert row
    · exact h.descending entry hOld

theorem putAll (h : table.Sound) (server : String) (rows : List Row) :
    (table.putAll server rows).Sound := by
  induction rows generalizing table with
  | nil => exact h
  | cons row rows ih => exact ih (h.put server row)

end Sound

end Table

namespace Tables

variable {tables : Tables} {source other : String} {table : Table}

theorem get_set_of_eq (hFold : Schema.fold other = Schema.fold source) (tables : Tables)
    (table : Table) : (tables.set source table).get other = table := by
  rw [get, set, hFold, Entries.find?_put_self]
  rfl

theorem get_set_of_ne (hFold : Schema.fold other ≠ Schema.fold source) (tables : Tables)
    (table : Table) : (tables.set source table).get other = tables.get other := by
  rw [get, set, Entries.find?_put_of_ne hFold, ← get]

/-- The table of every source is sound. -/
def Sound (tables : Tables) : Prop := ∀ source, (tables.get source).Sound

theorem Sound.nil : Sound [] := fun _ => Table.Sound.nil

theorem Sound.set (h : tables.Sound) (source : String) (hTable : table.Sound) :
    (tables.set source table).Sound := by
  intro other
  by_cases hFold : Schema.fold other = Schema.fold source
  · rw [get_set_of_eq hFold]
    exact hTable
  · rw [get_set_of_ne hFold]
    exact h other

end Tables

end Rollup
