import Mathlib
import Rollup.Entries

/-!
Looking up in mappings whose keys are one when they are equal.
-/
namespace Rollup.Entries

variable {κ α : Type}

section OfList

variable {same : κ → κ → Bool} {rows : List (κ × α)}

theorem ofList_append_singleton (same : κ → κ → Bool) (rows : List (κ × α)) (row : κ × α) :
    ofList same (rows ++ [row]) = put same row.1 row.2 (ofList same rows) := by
  rw [ofList, List.foldl_append]
  rfl

/-- Putting adds no value but its own. -/
theorem eq_or_mem_of_mem_put {key : κ} {value : α} {entry : κ × α}
    (h : entry ∈ put same key value rows) : entry.2 = value ∨ entry ∈ rows := by
  induction rows with
  | nil => exact .inl (congrArg Prod.snd (List.mem_singleton.mp h))
  | cons first rest ih =>
      rw [put] at h
      split at h
      · rcases List.mem_cons.mp h with rfl | hRest
        · exact .inl rfl
        · exact .inr (List.mem_cons_of_mem _ hRest)
      · rcases List.mem_cons.mp h with rfl | hRest
        · exact .inr List.mem_cons_self
        · exact (ih hRest).imp_right (List.mem_cons_of_mem _)

/-- What a mapping holds was given under some key. -/
theorem exists_of_mem_ofList {entry : κ × α} (h : entry ∈ ofList same rows) :
    ∃ given ∈ rows, given.2 = entry.2 := by
  induction rows using List.reverseRecOn with
  | nil => cases h
  | append_singleton rows row ih =>
      rw [ofList_append_singleton] at h
      rcases eq_or_mem_of_mem_put h with hValue | hOld
      · exact ⟨row, List.mem_append_right _ (List.mem_singleton.mpr rfl), hValue.symm⟩
      · obtain ⟨given, hMem, hGiven⟩ := ih hOld
        exact ⟨given, List.mem_append_left _ hMem, hGiven⟩

/-- Entries whose keys all differ are the mapping of themselves. -/
theorem ofList_of_pairwise (h : rows.Pairwise fun a b => same a.1 b.1 = false) :
    ofList same rows = rows := by
  induction rows using List.reverseRecOn with
  | nil => rfl
  | append_singleton rows row ih =>
      obtain ⟨hRows, -, hLast⟩ := List.pairwise_append.mp h
      rw [ofList_append_singleton, ih hRows]
      exact put_of_forall_not fun entry hMem => hLast entry hMem row (List.mem_singleton.mpr rfl)

/-- Keys may be renamed and values converted before or after, as long as the same keys stay the same.
-/
theorem ofList_map {ν β : Type} {same' : ν → ν → Bool} (rename : κ → ν) (convert : α → β)
    (hSame : ∀ a b, same' (rename a) (rename b) = same a b) (rows : List (κ × α)) :
    ofList same' (rows.map fun row => (rename row.1, convert row.2)) =
      (ofList same rows).map fun row => (rename row.1, convert row.2) := by
  have hPut : ∀ (row : κ × α) (held : List (κ × α)),
      put same' (rename row.1) (convert row.2)
          (held.map fun row => (rename row.1, convert row.2)) =
        (put same row.1 row.2 held).map fun row => (rename row.1, convert row.2) := by
    intro row held
    induction held with
    | nil => rfl
    | cons first rest ih =>
        rw [List.map_cons, put, put, hSame, ih]
        split <;> rfl
  induction rows using List.reverseRecOn with
  | nil => rfl
  | append_singleton rows row ih =>
      rw [List.map_append, List.map_singleton, ofList_append_singleton, ofList_append_singleton, ih]
      exact hPut row _

theorem ofList_map_key {ν : Type} {same' : ν → ν → Bool} (rename : κ → ν)
    (hSame : ∀ a b, same' (rename a) (rename b) = same a b) (rows : List (κ × α)) :
    ofList same' (rows.map fun row => (rename row.1, row.2)) =
      (ofList same rows).map fun row => (rename row.1, row.2) :=
  ofList_map rename id hSame rows

end OfList

variable [BEq κ]

theorem find?_map {β : Type} (convert : α → β) (key : κ) (entries : List (κ × α)) :
    find? (· == ·) key (entries.map fun entry => (entry.1, convert entry.2)) =
      (find? (· == ·) key entries).map convert := by
  rw [find?, find?, List.find?_map, Option.map_map, Option.map_map]
  rfl

variable [LawfulBEq κ] {key other : κ} {value : α} {entries : List (κ × α)}

theorem find?_put_self (key : κ) (value : α) (entries : List (κ × α)) :
    find? (· == ·) key (put (· == ·) key value entries) = some value := by
  induction entries with
  | nil => simp [put, find?]
  | cons entry rest ih =>
      by_cases hSame : entry.1 = key
      · simp [put, find?, hSame]
      · simp only [find?] at ih
        simp [put, find?, hSame, ih]

/-- Putting changes what is found under no other key. -/
theorem find?_put_of_ne (hNe : other ≠ key) (value : α) (entries : List (κ × α)) :
    find? (· == ·) other (put (· == ·) key value entries) = find? (· == ·) other entries := by
  induction entries with
  | nil => simp [put, find?, hNe.symm]
  | cons entry rest ih =>
      simp only [find?] at ih ⊢
      by_cases hSame : entry.1 = key
      · simp [put, hSame, hNe.symm]
      · by_cases hOther : entry.1 = other
        · simp [put, hOther, hNe]
        · simp [put, hSame, hOther, ih]

theorem map_put {β : Type} (convert : α → β) (key : κ) (value : α) (entries : List (κ × α)) :
    (put (· == ·) key value entries).map (fun entry => (entry.1, convert entry.2)) =
      put (· == ·) key (convert value) (entries.map fun entry => (entry.1, convert entry.2)) := by
  induction entries with
  | nil => rfl
  | cons entry rest ih =>
      by_cases hSame : entry.1 = key
      · simp [put, hSame]
      · simp [put, hSame, ih]

/-- The later of two values under a key stands. -/
theorem put_put (key : κ) (value later : α) (entries : List (κ × α)) :
    put (· == ·) key later (put (· == ·) key value entries) = put (· == ·) key later entries := by
  induction entries with
  | nil => simp [put]
  | cons entry rest ih =>
      by_cases hSame : entry.1 = key
      · simp [put, hSame]
      · simp [put, hSame, ih]

/-- Putting what is there changes nothing. -/
theorem put_of_find?_eq_some (h : find? (· == ·) key entries = some value) :
    put (· == ·) key value entries = entries := by
  induction entries with
  | nil => cases h
  | cons entry rest ih =>
      simp only [find?] at ih h
      by_cases hSame : entry.1 = key
      · simp only [List.find?_cons, hSame, beq_self_eq_true, Option.map_some,
          Option.some.injEq] at h
        rw [put, if_pos (by simp [hSame]), ← h]
      · simp only [List.find?_cons, beq_false_of_ne hSame] at h
        simp [put, hSame, ih h]

theorem mem_keys_put :
    other ∈ (put (· == ·) key value entries).map Prod.fst ↔
      other = key ∨ other ∈ entries.map Prod.fst := by
  induction entries with
  | nil => simp [put]
  | cons entry rest ih =>
      by_cases hSame : entry.1 = key
      · simp [put, hSame]
      · simp only [put, beq_iff_eq, hSame, ↓reduceIte, List.map_cons, List.mem_cons, ih]
        tauto

/-- Putting keeps the keys apart. -/
theorem nodup_keys_put (h : (entries.map Prod.fst).Nodup) :
    ((put (· == ·) key value entries).map Prod.fst).Nodup := by
  induction entries with
  | nil => simp [put]
  | cons entry rest ih =>
      obtain ⟨hFresh, hRest⟩ := List.nodup_cons.mp h
      by_cases hSame : entry.1 = key
      · simpa [put, hSame] using h
      · simp only [put, beq_iff_eq, hSame, ↓reduceIte, List.map_cons, List.nodup_cons]
        refine ⟨?_, ih hRest⟩
        intro hMem
        rcases mem_keys_put.mp hMem with hKey | hOld
        · exact hSame hKey
        · exact hFresh hOld

theorem find?_eq_some_iff (h : (entries.map Prod.fst).Nodup) :
    find? (· == ·) key entries = some value ↔ (key, value) ∈ entries := by
  induction entries with
  | nil => simp [find?]
  | cons entry rest ih =>
      obtain ⟨hFresh, hRest⟩ := List.nodup_cons.mp h
      have hTail := ih hRest
      simp only [find?] at hTail ⊢
      by_cases hSame : entry.1 = key
      · have hAbsent : (key, value) ∉ rest := by
          intro hMem
          exact hFresh (hSame ▸ List.mem_map_of_mem hMem)
        have hEntry : entry.2 = value ↔ (key, value) = entry := by
          rw [← hSame]
          exact ⟨fun hValue => by rw [← hValue], fun hPair => by rw [← hPair]⟩
        simp [hSame, hAbsent, hEntry]
      · have hNot : (key, value) ≠ entry := fun hPair => hSame (by rw [← hPair])
        simp [hSame, hNot, hTail]

theorem mem_put (h : (entries.map Prod.fst).Nodup) {entry : κ × α} :
    entry ∈ put (· == ·) key value entries ↔
      entry = (key, value) ∨ entry ∈ entries ∧ entry.1 ≠ key := by
  obtain ⟨other, found⟩ := entry
  rw [← find?_eq_some_iff (nodup_keys_put h), ← find?_eq_some_iff h]
  by_cases hSame : other = key
  · subst hSame
    rw [find?_put_self]
    simp [eq_comm]
  · rw [find?_put_of_ne hSame]
    simp [hSame]

/-- The mapping of some entries has every key once. -/
theorem nodup_keys_ofList (rows : List (κ × α)) :
    ((ofList (· == ·) rows).map Prod.fst).Nodup := by
  induction rows using List.reverseRecOn with
  | nil => exact List.nodup_nil
  | append_singleton rows row ih =>
      rw [ofList_append_singleton]
      exact nodup_keys_put ih

end Rollup.Entries
