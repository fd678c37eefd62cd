import Mathlib
import Rollup.Proofs.Failure
import Rollup.Proofs.Program.Sequence
import Rollup.Proofs.Store.Bucket
import Rollup.Proofs.Store.Indistinct
import Rollup.Proofs.Store.Memory

/-!
What a store holds for a server in a window, and what its answers tell of it. A count is the number
of the rows held, a limited read gives the oldest of them, and writes never make them fewer. Nothing
is assumed of the rows: a store may hold some that it fails to read.
-/
namespace Rollup

namespace Memory

variable {m : Memory} {source server : String} {window : Window} {points inside : List Point}

/-- The points of a server that lie in a window, in order of time. -/
def held (m : Memory) (source server : String) (window : Window) : List Point :=
  (m.chronicle source server).filter window.holds

theorem mem_held_iff {p : Point} :
    p ∈ m.held source server window ↔ p ∈ m.written source server ∧
      window.start.position ≤ p.time.position ∧ p.time.position ≤ window.stop.position := by
  rw [held, List.mem_filter, chronicle, (chronicle_chronological _).mem_iff, Window.mem_holds]

theorem eq_of_byTime {sorted : List Point} (h : byTime points = .ok sorted) :
    sorted = chronological points := by
  rw [byTime] at h
  split at h
  · exact (Except.ok.inj h).symm
  · cases h

theorem eq_of_within {p : Point} {answer : Bool} (h : within window p.time = .ok answer) :
    answer = window.holds p := by
  obtain ⟨started, hStart, hStop⟩ := exists_of_bind_eq_ok h
  have hFrom := Timestamp.eq_of_notAfter hStart
  cases started with
  | false =>
      cases hStop
      simp_all [Window.holds]
  | true =>
      rw [Timestamp.eq_of_notAfter hStop]
      simp_all [Window.holds]

/-- A filter that does not fail keeps what its test says, after what it kept so far. -/
theorem eq_of_filterAuxM {test : Point → Except Failure Bool} {keep : Point → Bool}
    (h : ∀ p answer, test p = .ok answer → answer = keep p) {kept : List Point}
    (hOk : points.filterAuxM test kept = .ok inside) :
    inside = (points.filter keep).reverse ++ kept := by
  induction points generalizing kept with
  | nil => exact (Except.ok.inj hOk).symm
  | cons p points ih =>
      obtain ⟨answer, hTest, hRest⟩ := exists_of_bind_eq_ok hOk
      rw [ih hRest, h p answer hTest, List.filter_cons]
      cases keep p <;> simp

theorem eq_of_inWindow (h : inWindow window points = .ok inside) :
    inside = points.filter window.holds := by
  obtain ⟨kept, hKept, hInside⟩ := exists_of_bind_eq_ok h
  cases hInside
  rw [eq_of_filterAuxM (fun _ _ => eq_of_within) hKept]
  simp

/-- A count that is answered is the number of the points held. -/
theorem count_eq {count : Int} (h : m.read (.count source server window) = .ok count) :
    count = (m.held source server window).length := by
  obtain ⟨sorted, hSorted, h⟩ := exists_of_bind_eq_ok h
  obtain ⟨inside, hInside, h⟩ := exists_of_bind_eq_ok h
  cases h
  rw [eq_of_inWindow hInside, eq_of_byTime hSorted]
  rfl

/-- A limited read that is answered gives the oldest of the points held. -/
theorem range_eq {limit : Nat} (h : m.read (.range source server window limit) = .ok points) :
    points = (m.held source server window).take limit := by
  obtain ⟨sorted, hSorted, h⟩ := exists_of_bind_eq_ok h
  obtain ⟨inside, hInside, h⟩ := exists_of_bind_eq_ok h
  cases h
  rw [firstPoints_natCast, eq_of_inWindow hInside, eq_of_byTime hSorted]
  rfl

/-- Later batches only add to what is held. -/
theorem length_held_le (batches : List Batch) :
    (m.held source server window).length ≤
      ({ m with batches := m.batches ++ batches }.held source server window).length := by
  have hLength : ∀ m : Memory, (m.held source server window).length =
      ((m.written source server).filter window.holds).length := fun m =>
    ((chronicle_chronological (m.written source server)).perm.filter window.holds).length_eq
  rw [hLength, hLength, written, written, List.flatMap_append, List.filter_append,
    List.length_append]
  exact Nat.le_add_right _ _

end Memory

theorem Row.exists_mem_insertAll {rows new : List Row} {row : Row} (h : Row.Descending rows)
    (hMem : row ∈ rows) : ∃ other ∈ Row.insertAll rows new, other.bucket = row.bucket := by
  by_cases hNew : ∃ written ∈ new, written.bucket = row.bucket
  · obtain ⟨written, hWritten, hBucket⟩ := hNew
    obtain ⟨last, hFinal, hLast⟩ := Row.exists_final hWritten
    exact ⟨last, (Row.mem_insertAll h).mpr (.inl hFinal), hLast.trans hBucket⟩
  · refine ⟨row, (Row.mem_insertAll h).mpr (.inr ⟨hMem, ?_⟩), rfl⟩
    intro written hWritten hBucket
    exact hNew ⟨written, hWritten, hBucket⟩

/-- Rows that are read without failure are the points that they are read as. -/
theorem Table.map_toPoint_of_points {rows : List Row} {points : List Point}
    (h : Table.points rows = .ok points) : rows.map Row.toPoint = points.map .ok := by
  induction rows generalizing points with
  | nil =>
      cases h
      rfl
  | cons row rows ih =>
      rw [Table.points, List.mapM_cons] at h
      obtain ⟨p, hFirst, h⟩ := exists_of_bind_eq_ok h
      obtain ⟨rest, hRest, h⟩ := exists_of_bind_eq_ok h
      cases h
      rw [List.map_cons, List.map_cons, hFirst, ih hRest]

namespace Database

variable {db db' db'' : Database} {source server : String} {window : Window}

/-- The rows of a server between the stored ends of a window, the oldest first. -/
def held (db : Database) (source server : String) (window : Window) : List Row :=
  match ends window with
  | .ok (first, last) => (db.tables.get source).between server first last
  | .error _ => []

/-- The row of an instant of the era is held if the instant lies in the window. -/
theorem mem_held_iff (hWindow : window.Aware) {row : Row} {micros : Int} (hEra : InEra micros)
    (hBucket : row.bucket = Bucket.ofMicros micros) :
    row ∈ db.held source server window ↔ row ∈ (db.tables.get source).rows server ∧
      window.start.sinceEpoch ≤ micros ∧ micros ≤ window.stop.sinceEpoch := by
  rw [held, ends, Bucket.ofTime_eq hWindow.start, Bucket.ofTime_eq hWindow.stop]
  change row ∈ Table.between _ _ _ _ ↔ _
  rw [Table.between, List.mem_reverse, List.mem_filter, decide_eq_true_eq, hBucket,
    Bucket.ofMicros_le_ofMicros_iff hEra, Bucket.ofMicros_le_ofMicros_iff' hEra]

namespace Sound

/-- A read that succeeds knew what it needs, and saw the table of its source. -/
theorem exists_of_serve {α β : Type} (h : db.Sound) {needed : Except Failure β}
    {query : β → Table → Except Failure α} {answer : α}
    (hOk : (db.serve source needed query).1 = .ok answer) :
    ∃ terms, needed = .ok terms ∧ query terms (db.tables.get source) = .ok answer := by
  rw [h.serve_eq] at hOk
  split at hOk
  · cases hOk
  · rename_i terms hTerms
    obtain ⟨-, -, hNeeded⟩ := exists_of_bind_eq_ok hTerms
    split at hOk
    · cases hOk
    · exact ⟨terms, hNeeded, hOk⟩

theorem count_eq (h : db.Sound) {count : Int}
    (hOk : (db.answer (.count source server window)).1 = .ok count) :
    count = (db.held source server window).length := by
  obtain ⟨⟨first, last⟩, hEnds, hCount⟩ := h.exists_of_serve hOk
  rw [held, hEnds]
  exact (Except.ok.inj hCount).symm

theorem range_eq (h : db.Sound) {limit : Nat} {points : List Point}
    (hOk : (db.answer (.range source server window limit)).1 = .ok points) :
    points.map .ok = ((db.held source server window).map Row.toPoint).take limit := by
  rw [answer] at hOk
  obtain ⟨⟨first, last⟩, hEnds, hRange⟩ := h.exists_of_serve hOk
  obtain ⟨-, -, hPoints⟩ := exists_of_bind_eq_ok hRange
  rw [held, hEnds, ← List.map_take, ← bounded_natCast]
  exact (Table.map_toPoint_of_points hPoints).symm

end Sound

/-- The second database has a row at every bucket where the first one has one. -/
def Grows (db db' : Database) : Prop :=
  ∀ source server, ∀ row ∈ (db.tables.get source).rows server,
    ∃ other ∈ (db'.tables.get source).rows server, other.bucket = row.bucket

namespace Grows

theorem of_tables_eq (h : db'.tables = db.tables) : Grows db db' :=
  fun _ _ row hMem => ⟨row, h ▸ hMem, rfl⟩

theorem trans (h : Grows db db') (h' : Grows db' db'') : Grows db db'' := by
  intro source server row hMem
  obtain ⟨other, hOther, hBucket⟩ := h source server row hMem
  obtain ⟨last, hLast, hSame⟩ := h' source server other hOther
  exact ⟨last, hLast, hSame.trans hBucket⟩

theorem putAll (h : db.Sound) (hPlace : db.location ≠ .unreachable) (source server : String)
    (new : List Row) :
    Grows db (db.keep (db.tables.set source ((db.tables.get source).putAll server new))) := by
  intro other owner row hMem
  rw [tables_keep hPlace]
  by_cases hFold : Schema.fold other = Schema.fold source
  · have hTable : db.tables.get other = db.tables.get source := by
      rw [Tables.get, Tables.get, hFold]
    rw [Tables.get_set_of_eq hFold]
    rw [hTable] at hMem
    by_cases hOwner : owner = server
    · subst hOwner
      rw [Table.rows_putAll_self]
      exact Row.exists_mem_insertAll ((h.tables source).rows_descending owner) hMem
    · rw [Table.rows_putAll_of_ne hOwner]
      exact ⟨row, hMem, rfl⟩
  · rw [Tables.get_set_of_ne hFold]
    exact ⟨row, hMem, rfl⟩

/-- A write, also one that fails, takes no bucket away. -/
theorem write (h : db.Sound) (source server : String) (points : List Point) :
    Grows db (db.write source server points).2 := by
  have hAwake : Grows db db.awake := of_tables_eq h.tables_awake
  rw [h.write_eq]
  cases hRefusal : db.refusal source with
  | some failure => exact of_tables_eq rfl
  | none =>
      cases points.mapM Row.ofPoint with
      | error failure => exact hAwake
      | ok rows =>
          have hFree := (refusal_eq_none hRefusal).2
          have hPlace := awake_location_ne_unreachable hRefusal
          have hPut := putAll (h.awake hFree) hPlace source server (rows.takeWhile Row.fits)
          rw [h.tables_awake] at hPut
          dsimp only
          split
          · exact hAwake.trans hPut
          split
          · exact hAwake.trans hPut
          · exact hAwake

theorem length_held_le (hGrows : Grows db db') (h : db.Sound) :
    (db.held source server window).length ≤ (db'.held source server window).length := by
  rw [held, held]
  split
  · rename_i first last hEnds
    have hLength : ∀ table : Table, (table.between server first last).length =
        (((table.rows server).filter fun row =>
          decide (first ≤ row.bucket ∧ row.bucket ≤ last)).map Row.bucket).length := by
      intro table
      rw [Table.between, List.length_reverse, List.length_map]
    rw [hLength, hLength]
    -- The buckets of sorted rows differ, so it is enough that each of them is still there.
    have hNodup := ((h.tables source).rows_descending server).nodup_buckets
    refine (List.Nodup.subperm (hNodup.sublist (List.filter_sublist.map _)) ?_).length_le
    intro bucket hBucket
    obtain ⟨row, hMem, rfl⟩ := List.mem_map.mp hBucket
    rw [List.mem_filter] at hMem
    obtain ⟨other, hOther, hSame⟩ := hGrows source server row hMem.1
    refine List.mem_map.mpr ⟨other, List.mem_filter.mpr ⟨hOther, ?_⟩, hSame⟩
    rw [hSame]
    exact hMem.2
  · exact Nat.le_refl _

end Grows

end Database

namespace Store

variable {store : Store} {source server : String} {window : Window}

/-- What a store holds for a server in a window, the oldest first, as it is read. -/
def held (store : Store) (source server : String) (window : Window) :
    List (Except Failure Point) :=
  match store with
  | memory m => (m.held source server window).map .ok
  | database db => (db.held source server window).map Row.toPoint

/-- The store comes from a new one by some uses. Every store in memory does. -/
def Reachable : Store → Prop
  | memory _ => True
  | database db => db.Reachable

/-- The store is in memory or a database in use. -/
def Sound : Store → Prop
  | memory _ => True
  | database db => db.Sound

theorem Reachable.sound (h : store.Reachable) : store.Sound := by
  cases store with
  | memory m => trivial
  | database db => exact Database.Reachable.sound h

namespace Sound

theorem count_eq (h : store.Sound) {count : Int}
    (hOk : (store.answer (.count source server window)).1 = .ok count) :
    count = (store.held source server window).length := by
  cases store with
  | memory m =>
      rw [held, List.length_map]
      exact Memory.count_eq hOk
  | database db =>
      rw [held, List.length_map]
      exact Database.Sound.count_eq h hOk

theorem range_eq (h : store.Sound) {limit : Nat} {points : List Point}
    (hOk : (store.answer (.range source server window limit)).1 = .ok points) :
    points.map .ok = (store.held source server window).take limit := by
  cases store with
  | memory m =>
      rw [held, ← List.map_take]
      exact congrArg _ (Memory.range_eq hOk)
  | database db => exact Database.Sound.range_eq h hOk

theorem write (h : store.Sound) (source server : String) (points : List Point) :
    (store.write source server points).2.Sound := by
  cases store with
  | memory m => trivial
  | database db => exact Database.Sound.write h source server points

/-- A write never makes fewer rows of what is held. -/
theorem length_held_write (h : store.Sound) (batch : Batch) :
    (store.held source server window).length ≤
      ((store.write batch.source batch.server batch.points).2.held source server window).length := by
  cases store with
  | memory m =>
      simp only [held, Store.write, List.length_map]
      exact Memory.length_held_le [batch]
  | database db =>
      simp only [held, Store.write, List.length_map]
      exact (Database.Grows.write h batch.source batch.server batch.points).length_held_le h

/-- No history of writes makes fewer rows of what is held. -/
theorem load (h : store.Sound) (history : History) :
    (store.load history).Sound ∧ (store.held source server window).length ≤
      ((store.load history).held source server window).length := by
  induction history generalizing store with
  | nil => exact ⟨h, Nat.le_refl _⟩
  | cons batch history ih =>
      obtain ⟨hSound, hLength⟩ := ih (h.write batch.source batch.server batch.points)
      exact ⟨hSound, (h.length_held_write batch).trans hLength⟩

/-- A store answers every question of a program as it would answer it first. -/
theorem answer_of_mem_transcript (h : store.Sound) {α κ : Type}
    {clock : κ → Except Failure Timestamp × κ} {hand : κ} (program : Program α) :
    ∀ exchange ∈ program.transcript (Store.backend clock) (store, hand),
      exchange.answer = (store.answer exchange.question).1 := by
  cases store with
  | memory m => exact Store.answer_of_mem_transcript_memory program
  | database db =>
      let holds (state : Store × κ) : Prop :=
        ∃ db', state.1 = .database db' ∧ db'.Sound ∧ Database.Alike db' db
      let answers (question : Read) : Except Failure question.Answer := (db.answer question).1
      have hState : holds (.database db, hand) := ⟨db, rfl, h, Database.Alike.refl db⟩
      change ∀ exchange ∈ program.transcript (Store.backend clock) (.database db, hand),
        exchange.answer = answers exchange.question
      refine Program.answer_of_mem_transcript ?_ ?_ program hState
      · rintro ⟨_, hand⟩ question ⟨db', rfl, hSound, hAlike⟩
        exact ⟨hAlike.answer_eq hSound h question, _, rfl, hSound.leaves (.read question),
          (Database.Alike.answer hSound question).trans hAlike⟩
      · rintro ⟨_, hand⟩ ⟨db', rfl, hSound, hAlike⟩
        exact ⟨db', rfl, hSound, hAlike⟩

end Sound

/-- The first time that a program sees over a store is what the clock shows at the start. -/
theorem head?_looks_backend {α κ : Type} {clock : κ → Except Failure Timestamp × κ} {hand : κ}
    (program : Program α) :
    ∀ reading ∈ (program.looks (Store.backend clock) (store, hand)).head?,
      reading = (clock hand).1 := by
  induction program generalizing store with
  | done result => simp
  | fail failure => simp
  | read question next ih => exact ih _
  | clock next ih =>
      intro reading hHead
      exact (Option.some.inj hHead).symm

end Store

/-- A list is among its first elements, each as often, exactly if these are all of it. -/
theorem subperm_take_iff {α : Type} {all : List α} {limit : Nat} :
    List.Subperm all (all.take limit) ↔ all.length ≤ limit := by
  constructor
  · intro hSub
    have hLength := hSub.length_le
    rw [List.length_take] at hLength
    omega
  · intro hLength
    rw [List.take_of_length_le hLength]

end Rollup
