import Mathlib
import Rollup.Proofs.Failure
import Rollup.Store

/-!
How stores fail by themselves: by what cannot be calculated from the rows, by what cannot be found,
or by a place that cannot be opened. None of these is cancellation.
-/
namespace Rollup

variable {α β : Type}

/-- The calculation is not cancelled. -/
def Uncancelled (result : Except Failure α) : Prop := result ≠ .error .cancelled

theorem Failure.isOrdinary_of_ne {failure : Failure} (h : failure ≠ .cancelled) :
    failure.isOrdinary = true := by
  cases failure <;> first | rfl | exact absurd rfl h

/-- The result is there, or arithmetic failed. -/
abbrev ByArithmetic (result : Except Failure α) : Prop := FailsBy Failure.IsArithmetic result

theorem ByArithmetic.uncancelled {result : Except Failure α} (h : ByArithmetic result) :
    Uncancelled result := by
  intro hResult
  obtain ⟨fault, hFault⟩ := h _ hResult
  cases hFault

namespace Memory

open FailsBy

variable (m : Memory)

theorem byArithmetic_byTime (points : List Point) : ByArithmetic (byTime points) := by
  rw [byTime]
  split
  · exact ok _
  · exact error ⟨_, rfl⟩

theorem byArithmetic_inWindow (window : Window) (points : List Point) :
    ByArithmetic (inWindow window points) := by
  have hNotAfter : ∀ a b : Timestamp, ByArithmetic (a.notAfter b) :=
    fun a b _ hError => Timestamp.arithmetic_of_notAfter hError
  refine filterM (fun p => ?_) points
  refine (hNotAfter _ _).bind fun answer => ?_
  split
  · exact hNotAfter _ _
  · exact ok false

theorem byArithmetic_foremost {precedes : Timestamp → Timestamp → Except Failure Bool}
    (h : ∀ a b, ByArithmetic (precedes a b)) (times : List Timestamp) :
    ByArithmetic (foremost precedes times) := by
  cases times with
  | nil => exact ok none
  | cons time rest => exact (foldlM (fun best time => (h time best).map) rest time).map

/-- A store that keeps all points fails only by comparing times. -/
theorem byArithmetic_read (question : Read) : ByArithmetic (m.read question) := by
  have hBefore : ∀ a b : Timestamp, ByArithmetic (a.before b) := by
    intro a b
    rw [Timestamp.before]
    split
    · exact ok _
    · exact error ⟨_, rfl⟩
  cases question with
  | range source server window limit =>
      exact (byArithmetic_byTime _).bind fun sorted => (byArithmetic_inWindow window sorted).map
  | count source server window =>
      exact (byArithmetic_byTime _).bind fun sorted => (byArithmetic_inWindow window sorted).map
  | latest source server => exact (byArithmetic_byTime _).map
  | recent source server limit => exact (byArithmetic_byTime _).map
  | stats source =>
      refine (byArithmetic_foremost (fun a b => hBefore a b) _).bind fun earliest => ?_
      exact (byArithmetic_foremost (fun a b => hBefore b a) _).map

/-- A store that keeps all points cancels no question. -/
theorem uncancelled_read (question : Read) : Uncancelled (m.read question) :=
  (m.byArithmetic_read question).uncancelled

end Memory

namespace Bucket

open FailsBy

theorem byArithmetic_ofTime (t : Timestamp) : ByArithmetic (ofTime t) := by
  rw [ofTime]
  split
  · exact ok _
  split
  · exact error ⟨_, rfl⟩
  · exact ok _

theorem byArithmetic_toTime (b : Bucket) : ByArithmetic b.toTime := by
  rw [toTime]
  split
  · exact ok _
  · exact error ⟨_, rfl⟩

end Bucket

theorem Row.byArithmetic_ofPoint (p : Point) : ByArithmetic (ofPoint p) :=
  (Bucket.byArithmetic_ofTime p.time).map

theorem Row.byArithmetic_toPoint (row : Row) : ByArithmetic row.toPoint :=
  (Bucket.byArithmetic_toTime row.bucket).map

namespace Database

open FailsBy

variable (db : Database)

theorem byArithmetic_points (rows : List Row) : ByArithmetic (Table.points rows) :=
  mapM Row.byArithmetic_toPoint rows

theorem byArithmetic_bindable (n : Int) : ByArithmetic (bindable n) := by
  rw [bindable]
  split
  · exact ok ()
  · exact error ⟨_, rfl⟩

theorem byArithmetic_recent (table : Table) (server : String) (limit : Int) :
    ByArithmetic (recent table server limit) :=
  (byArithmetic_bindable limit).bind fun _ => (byArithmetic_points _).map

theorem byArithmetic_stats (table : Table) : ByArithmetic table.stats := by
  have hTime : ∀ bucket : Option Bucket, ByArithmetic (Table.time? bucket) := by
    intro bucket
    cases bucket with
    | none => exact ok none
    | some bucket => exact (Bucket.byArithmetic_toTime bucket).map
  exact (hTime _).bind fun _ => (hTime _).map

theorem byArithmetic_ends (window : Window) : ByArithmetic (ends window) :=
  (Bucket.byArithmetic_ofTime _).bind fun _ => (Bucket.byArithmetic_ofTime _).map

variable {db : Database} {failure : Failure}

/-- A call about a source fails because the source is not known, because the database cannot be
opened, or by arithmetic. -/
def Hindrance (db : Database) (source : String) (failure : Failure) : Prop :=
  db.known source = .error failure ∨ db.opened = .error failure ∨ failure.IsArithmetic

theorem hindrance_of_serve {source : String} {needed : Except Failure β}
    {query : β → Table → Except Failure α} (hNeeded : ByArithmetic needed)
    (hQuery : ∀ terms table, ByArithmetic (query terms table)) :
    FailsBy (db.Hindrance source) (db.serve source needed query).1 := by
  intro failure hError
  rw [serve] at hError
  split at hError
  · rename_i cause hCause
    cases hError
    rcases error_or_of_bind_eq_error hCause with hKnown | ⟨-, -, hFailed⟩
    · exact .inl hKnown
    · exact .inr (.inr (hNeeded _ hFailed))
  split at hError
  · rename_i hOpened
    cases hError
    exact .inr (.inl hOpened)
  · exact .inr (.inr (hQuery _ _ _ hError))

theorem hindrance_of_answer (db : Database) (question : Read) :
    FailsBy (db.Hindrance question.source) (db.answer question).1 := by
  cases question with
  | range source server window limit =>
      exact hindrance_of_serve (byArithmetic_ends window) fun _ _ =>
        (byArithmetic_bindable limit).bind fun _ => byArithmetic_points _
  | count source server window =>
      exact hindrance_of_serve (byArithmetic_ends window) fun _ _ => ok _
  | latest source server =>
      exact hindrance_of_serve (ok ()) fun _ table => (byArithmetic_recent table server 1).map
  | recent source server limit =>
      exact hindrance_of_serve (ok ()) fun _ table => byArithmetic_recent table server limit
  | stats source => exact hindrance_of_serve (ok ()) fun _ table => byArithmetic_stats table

theorem hindrance_of_write (db : Database) (source server : String) (points : List Point) :
    FailsBy (db.Hindrance source) (db.write source server points).1 := by
  intro failure hError
  rw [write] at hError
  split at hError
  · rename_i cause hCause
    cases hError
    rcases error_or_of_bind_eq_error hCause with hKnown | ⟨-, -, hOpened⟩
    · exact .inl hKnown
    · exact .inr (.inl hOpened)
  split at hError
  · rename_i cause hRows
    cases hError
    exact .inr (.inr (mapM Row.byArithmetic_ofPoint points _ hRows))
  split at hError
  · cases hError
  · cases hError
    exact .inr (.inr ⟨_, rfl⟩)

/-- What hinders a call is not cancellation. -/
theorem Hindrance.ne_cancelled {source : String} (h : db.Hindrance source failure) :
    failure ≠ .cancelled := by
  have hPrepare : Uncancelled db.prepare := by
    rw [prepare]
    split
    · exact nofun
    · split <;> exact nofun
  have hVisible : ∀ db : Database, Uncancelled db.visible := by
    intro db
    rw [visible]
    split
    · split <;> exact nofun
    · exact nofun
    · exact nofun
  rintro rfl
  rcases h with hKnown | hOpened | ⟨fault, hFault⟩
  · rw [known] at hKnown
    split at hKnown <;> cases hKnown
  · rcases error_or_of_bind_eq_error hOpened with hFirst | ⟨prepared, -, hLater⟩
    · exact hPrepare hFirst
    · rcases error_or_of_bind_eq_error hLater with hTables | ⟨_, _, hDone⟩
      · exact hVisible prepared hTables
      · cases hDone
  · cases hFault

/-- A database cancels no question. -/
theorem uncancelled_answer (db : Database) (question : Read) : Uncancelled (db.answer question).1 :=
  fun hCancelled => (hindrance_of_answer db question _ hCancelled).ne_cancelled rfl

end Database

/-- A store that fails by itself does so by what is ordinary. -/
theorem Store.isOrdinary_of_answer {store : Store} {question : Read} {failure : Failure}
    (h : (store.answer question).1 = .error failure) : failure.isOrdinary = true := by
  refine Failure.isOrdinary_of_ne ?_
  rintro rfl
  cases store with
  | memory m => exact m.uncancelled_read question h
  | database db => exact db.uncancelled_answer question h

end Rollup
