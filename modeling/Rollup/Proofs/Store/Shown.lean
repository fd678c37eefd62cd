import Mathlib
import Rollup.Proofs.Store.Table

/-!
What can be seen of a table. A row shows its bucket and the point that it reads back as; the
readings of a row whose bucket lies outside the calendar are never seen. All reads go by what is
shown, and writes that show the same leave what shows the same.
-/
namespace Rollup

/-- What a row shows. -/
def Row.shown (row : Row) : Bucket × Except Failure Point := (row.bucket, row.toPoint)

/-- Some row among others shows the same. -/
def Row.Held (rows : List Row) (row : Row) : Prop := ∃ held ∈ rows, held.shown = row.shown

/-- What a table shows. -/
def Table.shown (table : Table) : List (String × List (Bucket × Except Failure Point)) :=
  table.map fun entry => (entry.1, entry.2.map Row.shown)

/-- A limit that is not negative takes rows from the start. -/
theorem Database.bounded_natCast {α : Type} (limit : Nat) (xs : List α) :
    bounded limit xs = xs.take limit := by
  rw [bounded, if_pos (Int.natCast_nonneg limit), Int.toNat_natCast]

namespace Row

variable {rows others new : List Row} {row : Row}

theorem insert_congr (h : rows.map shown = others.map shown) (row : Row) :
    (row.insert rows).map shown = (row.insert others).map shown := by
  induction rows generalizing others with
  | nil =>
      rw [List.map_nil, eq_comm, List.map_eq_nil_iff] at h
      rw [h]
  | cons first rest ih =>
      cases others with
      | nil => simp at h
      | cons other others =>
          obtain ⟨hFirst, hRest⟩ := List.cons.inj h
          have hBucket : first.bucket = other.bucket := congrArg Prod.fst hFirst
          rw [insert, insert, hBucket]
          split
          · simp only [List.map_cons, hFirst, hRest]
          split
          · simp only [List.map_cons, hRest]
          · simp only [List.map_cons, hFirst, ih hRest]

/-- Writing rows that all show already changes nothing that is seen. -/
theorem map_shown_insertAll (h : Descending rows) (hHeld : ∀ row, Final new row → Held rows row) :
    (insertAll rows new).map shown = rows.map shown := by
  have hKey : ∀ {rows : List Row}, Descending rows →
      (rows.map shown).Pairwise fun a b => b.1 < a.1 := by
    intro rows hRows
    rw [List.pairwise_map]
    exact hRows
  refine eq_of_mem_iff_of_pairwise (hKey (h.insertAll new)) (hKey h) ?_
  intro seen
  rw [List.mem_map, List.mem_map]
  constructor
  · rintro ⟨row, hMem, rfl⟩
    rcases (mem_insertAll h).mp hMem with hFinal | ⟨hOld, -⟩
    · exact hHeld row hFinal
    · exact ⟨row, hOld, rfl⟩
  · rintro ⟨row, hMem, rfl⟩
    by_cases hNew : ∃ written ∈ new, written.bucket = row.bucket
    · obtain ⟨written, hWritten, hBucket⟩ := hNew
      obtain ⟨last, hFinal, hLast⟩ := exists_final hWritten
      obtain ⟨held, hIn, hShown⟩ := hHeld last hFinal
      have hSame : held.bucket = row.bucket :=
        (congrArg Prod.fst hShown).trans (hLast.trans hBucket)
      have hRow := h.eq_of_bucket_eq hIn hMem hSame
      exact ⟨last, (mem_insertAll h).mpr (.inl hFinal), by rw [← hShown, hRow]⟩
    · refine ⟨row, (mem_insertAll h).mpr (.inr ⟨hMem, ?_⟩), rfl⟩
      intro written hWritten hBucket
      exact hNew ⟨written, hWritten, hBucket⟩

end Row

namespace Table

variable {table table' : Table} {server : String}

theorem rows_congr (h : table.shown = table'.shown) (server : String) :
    (table.rows server).map Row.shown = (table'.rows server).map Row.shown := by
  have hRows : ∀ table : Table, (table.rows server).map Row.shown =
      (Entries.find? (· == ·) server table.shown).getD [] := by
    intro table
    rw [shown, Entries.find?_map, rows]
    cases Entries.find? (· == ·) server table <;> rfl
  rw [hRows, hRows, h]

theorem shown_put (table : Table) (server : String) (row : Row) :
    (table.put server row).shown =
      Entries.put (· == ·) server ((row.insert (table.rows server)).map Row.shown) table.shown := by
  rw [put, shown, shown, Entries.map_put]

theorem shown_putAll (table : Table) (server : String) {new : List Row} (hNew : new ≠ []) :
    (table.putAll server new).shown = Entries.put (· == ·) server
      ((Row.insertAll (table.rows server) new).map Row.shown) table.shown := by
  induction new generalizing table with
  | nil => exact absurd rfl hNew
  | cons row new ih =>
      rw [putAll_cons, Row.insertAll_cons]
      cases new with
      | nil => exact shown_put table server row
      | cons next new =>
          rw [ih (table.put server row) (List.cons_ne_nil _ _), shown_put, Entries.put_put,
            rows_put_self]

/-- Writing rows that all show already changes nothing that is seen of a table. -/
theorem shown_putAll_of_held (h : table.Sound) {new : List Row}
    (hHeld : ∀ row, Row.Final new row → Row.Held (table.rows server) row) :
    (table.putAll server new).shown = table.shown := by
  by_cases hNew : new = []
  · rw [hNew, putAll_nil]
  · rw [shown_putAll table server hNew, Row.map_shown_insertAll (h.rows_descending server) hHeld]
    obtain ⟨row, hRow⟩ := List.exists_mem_of_ne_nil new hNew
    obtain ⟨last, hFinal, -⟩ := Row.exists_final hRow
    obtain ⟨held, hIn, -⟩ := hHeld last hFinal
    have hMem := h.mem_iff.mpr ⟨List.ne_nil_of_mem hIn, rfl⟩
    have hFind := (Entries.find?_eq_some_iff h.nodup).mpr hMem
    apply Entries.put_of_find?_eq_some
    rw [shown, Entries.find?_map, hFind]
    rfl

theorem put_congr (h : table.shown = table'.shown) (server : String) (row : Row) :
    (table.put server row).shown = (table'.put server row).shown := by
  rw [shown_put, shown_put, h, Row.insert_congr (rows_congr h server)]

theorem putAll_congr (h : table.shown = table'.shown) (server : String) (rows : List Row) :
    (table.putAll server rows).shown = (table'.putAll server rows).shown := by
  induction rows generalizing table table' with
  | nil => exact h
  | cons row rows ih => exact ih (put_congr h server row)

theorem points_congr {rows others : List Row} (h : rows.map Row.shown = others.map Row.shown) :
    points rows = points others := by
  have hPoints : ∀ rows : List Row, points rows = (rows.map Row.shown).mapM Prod.snd := by
    intro rows
    rw [points, List.mapM_map]
    rfl
  rw [hPoints, hPoints, h]

theorem between_congr (h : table.shown = table'.shown) (server : String) (first last : Bucket) :
    (table.between server first last).map Row.shown =
      (table'.between server first last).map Row.shown := by
  have hBetween : ∀ table : Table, (table.between server first last).map Row.shown =
      (((table.rows server).map Row.shown).filter fun seen =>
        decide (first ≤ seen.1 ∧ seen.1 ≤ last)).reverse := by
    intro table
    rw [between, List.map_reverse, List.filter_map]
    rfl
  rw [hBetween, hBetween, rows_congr h]

theorem bounded_congr {rows others : List Row} (h : rows.map Row.shown = others.map Row.shown)
    (limit : Int) :
    (Database.bounded limit rows).map Row.shown =
      (Database.bounded limit others).map Row.shown := by
  rw [Database.bounded, Database.bounded]
  split
  · rw [List.map_take, List.map_take, h]
  · exact h

theorem recent_congr (h : table.shown = table'.shown) (server : String) (limit : Int) :
    Database.recent table server limit = Database.recent table' server limit := by
  rw [Database.recent, Database.recent, points_congr (bounded_congr (rows_congr h server) limit)]

theorem stats_congr (h : table.shown = table'.shown) : table.stats = table'.stats := by
  have hBuckets : ∀ table : Table, table.buckets =
      table.shown.flatMap fun entry => entry.2.map Prod.fst := by
    intro table
    rw [buckets, shown, List.flatMap_map]
    simp only [List.map_map]
    rfl
  have hLength : table.length = table'.length := by
    have := congrArg List.length h
    simpa [shown] using this
  rw [stats, stats, hBuckets, hBuckets, h, hLength]

end Table
end Rollup
