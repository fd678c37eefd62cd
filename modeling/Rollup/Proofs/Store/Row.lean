import Mathlib
import Rollup.Store.Table

/-!
The rows of one server. They stand from the newest to the oldest, one for each bucket, so their
members say all about them. After several rows were written, the last one of a bucket stands.
-/
namespace Rollup

section LastBy

variable {α κ : Type} {key : α → κ} {all others : List α} {a b : α}

/-- The element is the last of its key among some. -/
def LastBy (key : α → κ) (all : List α) (a : α) : Prop :=
  ∃ before after, all = before ++ a :: after ∧ ∀ later ∈ after, key later ≠ key a

theorem lastBy_nil : ¬LastBy key [] a := by
  rintro ⟨before, after, hSplit, -⟩
  simp at hSplit

/-- An element is the last of its key in the rest, or else it is the first and the rest has none. -/
theorem lastBy_cons :
    LastBy key (b :: all) a ↔ LastBy key all a ∨ a = b ∧ ∀ later ∈ all, key later ≠ key a := by
  constructor
  · rintro ⟨before, after, hSplit, hLast⟩
    cases before with
    | nil =>
        obtain ⟨rfl, rfl⟩ := List.cons.inj hSplit
        exact .inr ⟨rfl, hLast⟩
    | cons first before =>
        obtain ⟨-, rfl⟩ := List.cons.inj hSplit
        exact .inl ⟨before, after, rfl, hLast⟩
  · rintro (⟨before, after, rfl, hLast⟩ | ⟨rfl, hLast⟩)
    · exact ⟨b :: before, after, rfl, hLast⟩
    · exact ⟨[], all, rfl, hLast⟩

theorem LastBy.mem (h : LastBy key all a) : a ∈ all := by
  obtain ⟨before, after, rfl, -⟩ := h
  simp

/-- An element is the last of its key in the second list, or in the first if the second has none. -/
theorem lastBy_append :
    LastBy key (all ++ others) a ↔
      LastBy key others a ∨ LastBy key all a ∧ ∀ later ∈ others, key later ≠ key a := by
  induction all with
  | nil => simp [lastBy_nil]
  | cons first all ih =>
      rw [List.cons_append, lastBy_cons, ih, lastBy_cons, List.forall_mem_append]
      tauto

/-- The last elements of two lists without a common key do not depend on which list comes first. -/
theorem lastBy_append_comm (h : ∀ x ∈ all, ∀ y ∈ others, key x ≠ key y) :
    LastBy key (all ++ others) a ↔ LastBy key (others ++ all) a := by
  rw [lastBy_append, lastBy_append]
  constructor
  · rintro (hLast | ⟨hLast, -⟩)
    · exact .inr ⟨hLast, fun x hMem => h x hMem a hLast.mem⟩
    · exact .inl hLast
  · rintro (hLast | ⟨hLast, -⟩)
    · exact .inr ⟨hLast, fun y hMem => (h a hLast.mem y hMem).symm⟩
    · exact .inl hLast

/-- Every key in a list has a last element. -/
theorem exists_lastBy (h : b ∈ all) : ∃ last, LastBy key all last ∧ key last = key b := by
  induction all generalizing b with
  | nil => cases h
  | cons first all ih =>
      by_cases hLater : ∃ later ∈ all, key later = key b
      · obtain ⟨later, hMem, hKey⟩ := hLater
        obtain ⟨last, hLast, hSame⟩ := ih hMem
        exact ⟨last, lastBy_cons.mpr (.inl hLast), hSame.trans hKey⟩
      · rcases List.mem_cons.mp h with rfl | hMem
        · refine ⟨b, lastBy_cons.mpr (.inr ⟨rfl, ?_⟩), rfl⟩
          intro later hIn hSame
          exact hLater ⟨later, hIn, hSame⟩
        · exact absurd ⟨b, hMem, rfl⟩ hLater

/-- A list that is repeated ends with the same last elements. -/
theorem lastBy_append_self : LastBy key (all ++ all) a ↔ LastBy key all a := by
  rw [lastBy_append]
  refine ⟨?_, .inl⟩
  rintro (hLast | ⟨hLast, -⟩) <;> exact hLast

end LastBy

namespace Row

/-- The rows go from the newest to the oldest, one for each bucket. -/
def Descending (rows : List Row) : Prop := rows.Pairwise fun a b => b.bucket < a.bucket

/-- The row is the last of its bucket among some that are written one after another. -/
def Final (rows : List Row) (row : Row) : Prop :=
  ∃ before after, rows = before ++ row :: after ∧ ∀ later ∈ after, later.bucket ≠ row.bucket

/-- The rows after others were written. -/
def insertAll (rows new : List Row) : List Row := new.foldl (fun rows row => row.insert rows) rows

/-- Lists that fall strictly by a key are known from their members. -/
theorem eq_of_mem_iff_of_pairwise {α : Type} {key : α → Int} {all others : List α}
    (h : all.Pairwise fun a b => key b < key a) (hOthers : others.Pairwise fun a b => key b < key a)
    (hMem : ∀ a, a ∈ all ↔ a ∈ others) : all = others := by
  have hNodup : ∀ {list : List α}, (list.Pairwise fun a b => key b < key a) → list.Nodup := by
    intro list hList
    refine hList.imp ?_
    rintro a b hLt rfl
    exact lt_irrefl _ hLt
  have hPerm : all.Perm others :=
    (List.perm_ext_iff_of_nodup (hNodup h) (hNodup hOthers)).mpr hMem
  refine hPerm.eq_of_pairwise ?_ h hOthers
  intro a b _ _ hab hba
  exact absurd (hab.trans hba) (lt_irrefl _)

variable {rows others new : List Row} {row other : Row}

namespace Descending

theorem nodup_buckets (h : Descending rows) : (rows.map Row.bucket).Nodup := by
  rw [List.Nodup, List.pairwise_map]
  exact h.imp fun hLt => (ne_of_lt hLt).symm

/-- Two rows of one bucket are one row. -/
theorem eq_of_bucket_eq (h : Descending rows) (hRow : row ∈ rows) (hOther : other ∈ rows)
    (hBucket : row.bucket = other.bucket) : row = other :=
  List.inj_on_of_nodup_map h.nodup_buckets hRow hOther hBucket

end Descending

/-- Writing a row puts it in place of the one of its bucket. -/
theorem mem_insert (h : Descending rows) :
    other ∈ row.insert rows ↔ other = row ∨ other ∈ rows ∧ other.bucket ≠ row.bucket := by
  induction rows with
  | nil => simp [insert]
  | cons first rest ih =>
      obtain ⟨hFirst, hRest⟩ := List.pairwise_cons.mp h
      rw [insert]
      split
      · rename_i hNewer
        have hAll : ∀ older ∈ first :: rest, older.bucket ≠ row.bucket := by
          intro older hMem
          rcases List.mem_cons.mp hMem with rfl | hMem
          · exact hNewer.ne
          · exact ((hFirst older hMem).trans hNewer).ne
        rw [List.mem_cons]
        exact or_congr_right ⟨fun hMem => ⟨hMem, hAll other hMem⟩, And.left⟩
      split
      · rename_i hSame
        have hAll : ∀ older ∈ rest, older.bucket ≠ row.bucket :=
          fun older hMem => hSame ▸ (hFirst older hMem).ne
        rw [List.mem_cons, List.mem_cons]
        refine or_congr_right ⟨fun hMem => ⟨.inr hMem, hAll other hMem⟩, ?_⟩
        rintro ⟨rfl | hMem, hOther⟩
        · exact absurd hSame hOther
        · exact hMem
      · rename_i hNotSame
        rw [List.mem_cons, List.mem_cons, ih hRest]
        constructor
        · rintro (rfl | rfl | ⟨hMem, hOther⟩)
          · exact .inr ⟨.inl rfl, hNotSame⟩
          · exact .inl rfl
          · exact .inr ⟨.inr hMem, hOther⟩
        · rintro (rfl | ⟨rfl | hMem, hOther⟩)
          · exact .inr (.inl rfl)
          · exact .inl rfl
          · exact .inr (.inr ⟨hMem, hOther⟩)

theorem Descending.insert (h : Descending rows) (row : Row) : Descending (row.insert rows) := by
  induction rows with
  | nil => exact List.pairwise_singleton _ _
  | cons first rest ih =>
      obtain ⟨hFirst, hRest⟩ := List.pairwise_cons.mp h
      rw [Row.insert]
      split
      · rename_i hNewer
        refine List.pairwise_cons.mpr ⟨?_, h⟩
        intro older hMem
        rcases List.mem_cons.mp hMem with rfl | hMem
        · exact hNewer
        · exact (hFirst older hMem).trans hNewer
      split
      · rename_i hSame
        exact List.pairwise_cons.mpr ⟨fun older hMem => hSame ▸ hFirst older hMem, hRest⟩
      · rename_i hNotNewer hNotSame
        refine List.pairwise_cons.mpr ⟨?_, ih hRest⟩
        intro older hMem
        rcases (mem_insert hRest).mp hMem with rfl | ⟨hMem, -⟩
        · exact lt_of_le_of_ne (not_lt.mp hNotNewer) (Ne.symm hNotSame)
        · exact hFirst older hMem

theorem final_nil : ¬Final [] row := lastBy_nil

/-- A row is the last of its bucket in the rest, or else it is the first and the rest has none. -/
theorem final_cons :
    Final (other :: new) row ↔
      Final new row ∨ row = other ∧ ∀ later ∈ new, later.bucket ≠ row.bucket :=
  lastBy_cons

theorem Final.mem (h : Final new row) : row ∈ new := LastBy.mem h

/-- Every bucket that is written has a last row. -/
theorem exists_final (h : row ∈ new) : ∃ last, Final new last ∧ last.bucket = row.bucket :=
  exists_lastBy h

/-- Where every bucket is written once, every row is the last of its bucket. -/
theorem final_iff_mem (h : new.Pairwise fun a b => b.bucket ≠ a.bucket) :
    Final new row ↔ row ∈ new := by
  refine ⟨Final.mem, ?_⟩
  intro hMem
  obtain ⟨before, after, rfl⟩ := List.append_of_mem hMem
  have hAfter := (List.pairwise_append.mp h).2.1
  exact ⟨before, after, rfl, (List.pairwise_cons.mp hAfter).1⟩

@[simp] theorem insertAll_nil (rows : List Row) : insertAll rows [] = rows := rfl

@[simp] theorem insertAll_cons (rows : List Row) (row : Row) (new : List Row) :
    insertAll rows (row :: new) = insertAll (row.insert rows) new := rfl

theorem insertAll_append (rows new later : List Row) :
    insertAll rows (new ++ later) = insertAll (insertAll rows new) later := by
  rw [insertAll, List.foldl_append]
  rfl

theorem Descending.insertAll (h : Descending rows) (new : List Row) :
    Descending (insertAll rows new) := by
  induction new generalizing rows with
  | nil => exact h
  | cons row new ih => exact ih (h.insert row)

/-- After several rows were written, a bucket holds the last one written to it, or else what it held
before. -/
theorem mem_insertAll (h : Descending rows) :
    row ∈ insertAll rows new ↔
      Final new row ∨ row ∈ rows ∧ ∀ written ∈ new, written.bucket ≠ row.bucket := by
  induction new generalizing rows with
  | nil => simp [final_nil]
  | cons first new ih =>
      rw [insertAll_cons, ih (h.insert first), mem_insert h, final_cons, List.forall_mem_cons]
      constructor
      · rintro (hFinal | ⟨rfl | ⟨hMem, hOther⟩, hRest⟩)
        · exact .inl (.inl hFinal)
        · exact .inl (.inr ⟨rfl, hRest⟩)
        · exact .inr ⟨hMem, hOther.symm, hRest⟩
      · rintro ((hFinal | ⟨rfl, hRest⟩) | ⟨hMem, hOther, hRest⟩)
        · exact .inl hFinal
        · exact .inr ⟨.inl rfl, hRest⟩
        · exact .inr ⟨.inr ⟨hMem, hOther.symm⟩, hRest⟩

/-- Rows that are written with the same last ones leave the same. -/
theorem insertAll_eq_of_final (h : Descending rows)
    (hFinal : ∀ row, Final new row ↔ Final others row) :
    insertAll rows new = insertAll rows others := by
  have hNone : ∀ {new others : List Row}, (∀ row, Final new row ↔ Final others row) →
      ∀ row : Row, (∀ written ∈ new, written.bucket ≠ row.bucket) →
        ∀ written ∈ others, written.bucket ≠ row.bucket := by
    intro new others hFinal row hNew written hMem hBucket
    obtain ⟨last, hLast, hSame⟩ := exists_final hMem
    exact hNew last ((hFinal last).mpr hLast).mem (hSame.trans hBucket)
  apply eq_of_mem_iff_of_pairwise (h.insertAll new) (h.insertAll others)
  intro row
  rw [mem_insertAll h, mem_insertAll h, hFinal]
  exact or_congr_right (and_congr_right fun _ =>
    ⟨hNone hFinal row, hNone (fun row => (hFinal row).symm) row⟩)

end Row

end Rollup
