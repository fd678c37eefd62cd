import Mathlib
import Rollup.Proofs.Program.Transcript
import Rollup.Proofs.Store.Failure
import Rollup.Proofs.Store.LastWriter

/-!
How long databases last. What is written to a database in memory lasts until it is closed: it answers
as a new one that got only what was written since, and it can be used again after every closing. What
is written to a file lasts, so it does not show where a run is interrupted by closing the database or
by going on with another one over the same file.
-/
namespace Rollup.Database

namespace Use

/-- What is heard of a use: the answer, if it is a question. -/
def heard (db : Database) : Use → List Exchange
  | read question => [⟨question, (db.answer question).1⟩]
  | _ => []

/-- The use is not a write that fails. -/
def Succeeds (db : Database) : Use → Prop
  | write batch => (db.write batch.source batch.server batch.points).1 = .ok ()
  | _ => True

/-- The use fails. Closing and going on with another database cannot fail. -/
def FailsWith (db : Database) (failure : Failure) : Use → Prop
  | write batch => (db.write batch.source batch.server batch.points).1 = .error failure
  | read question => (db.answer question).1 = .error failure
  | _ => False

/-- The batches written since a database was last closed, after one more use. -/
def extend (history : History) : Use → History
  | write batch => history ++ [batch]
  | read _ => history
  | _ => []

end Use

/-- The questions of a run with their answers, in order. -/
def exchanges (db : Database) : List Use → List Exchange
  | [] => []
  | use :: uses => use.heard db ++ (use.leaves db).exchanges uses

/-- All writes of a run succeed. -/
def Completes (db : Database) : List Use → Prop
  | [] => True
  | use :: uses => use.Succeeds db ∧ (use.leaves db).Completes uses

/-- The batches of a run that were written after the database was last closed or replaced by a new
one. -/
def sinceClose (uses : List Use) : History := uses.foldl Use.extend []

/-- The second run is the first one, with closings and replacements of the database between its
uses. -/
inductive Interrupted : List Use → List Use → Prop
  | nil : Interrupted [] []
  | use (use : Use) {uses uses' : List Use} (h : Interrupted uses uses') :
      Interrupted (use :: uses) (use :: uses')
  | close {uses uses' : List Use} (h : Interrupted uses uses') :
      Interrupted uses (.close :: uses')
  | reopen {uses uses' : List Use} (h : Interrupted uses uses') :
      Interrupted uses (.reopen :: uses')

/-- The database serves calls about its sources. They fail only by arithmetic on times and numbers, all
rows that can be stored are written, and rows are counted between ends that can be stored. -/
structure Usable (db : Database) : Prop where
  fails : ∀ (use : Use) failure, use.FailsWith db failure →
    failure.IsArithmetic ∨
      ∃ source, db.sources.contains source = false ∧ failure = .store (.unknownSource source)
  writes : ∀ batch : Batch, db.sources.contains batch.source = true →
    ∀ rows, batch.points.mapM Row.ofPoint = .ok rows → rows.all Row.fits = true →
      (Use.write batch).Succeeds db
  counts : ∀ source server window, db.sources.contains source = true →
    ∀ stored, ends window = .ok stored → ∃ n, (db.answer (.count source server window)).1 = .ok n

variable {db db' : Database} {source : String} {failure : Failure} {batch : Batch}
  {uses uses' : List Use}

/-- Nothing stands in the way of a database that can be opened and whose sources have a schema. -/
theorem obstacle_eq_none (hPlace : db.location ≠ .unreachable)
    (hSchema : Schema.fault? db.sources = none) : db.obstacle = none := by
  rw [obstacle, hSchema]
  cases hLocation : db.location with
  | memory => rfl
  | file => rfl
  | unreachable => exact absurd hLocation hPlace

theorem after_append (db : Database) (uses later : List Use) :
    db.after (uses ++ later) = (db.after uses).after later :=
  List.foldl_append

theorem sinceClose_concat (uses : List Use) (use : Use) :
    sinceClose (uses ++ [use]) = use.extend (sinceClose uses) := by
  rw [sinceClose, List.foldl_append]
  rfl

/-- What was written since the last closing was written in the run. -/
theorem mem_of_mem_sinceClose (h : batch ∈ sinceClose uses) : .write batch ∈ uses := by
  induction uses using List.reverseRecOn with
  | nil => cases h
  | append_singleton uses use ih =>
      rw [sinceClose_concat] at h
      rw [List.mem_append, List.mem_singleton]
      cases use with
      | write last =>
          rcases List.mem_append.mp h with hBefore | hLast
          · exact .inl (ih hBefore)
          · rw [List.mem_singleton.mp hLast]
            exact .inr rfl
      | read question => exact .inl (ih h)
      | close => cases h
      | reopen => cases h

namespace Alike

/-- A database in memory is as a new one after it was closed. -/
theorem close_of_memory (h : db.location = .memory) : Alike db.close (new .memory db.sources) := by
  refine of_tables_eq ((close_location db).trans h) (close_sources db) ?_
  rw [tables_close, if_pos h]
  rfl

theorem reopen_of_memory (h : db.location = .memory) :
    Alike db.reopen (new .memory db.sources) := by
  refine of_tables_eq h rfl ?_
  rw [tables_reopen, if_pos h]
  rfl

/-- Closing any other database changes nothing. -/
theorem close_of_ne (h : db.location ≠ .memory) : Alike db.close db := by
  refine of_tables_eq (close_location db) (close_sources db) ?_
  rw [tables_close, if_neg h]

theorem reopen_of_ne (h : db.location ≠ .memory) : Alike db.reopen db := by
  refine of_tables_eq rfl rfl ?_
  rw [tables_reopen, if_neg h]

/-- A database in memory shows what was written since it was last closed. -/
theorem after_sinceClose (sources : List String) (uses : List Use) :
    Alike ((new .memory sources).after uses)
      ((new .memory sources).loaded (sinceClose uses)) := by
  have hNew : (new .memory sources).Sound := .new .memory sources
  -- The induction is on the last use, since a closing undoes all that came before it.
  induction uses using List.reverseRecOn with
  | nil => exact refl _
  | append_singleton uses use ih =>
      have hUsed := hNew.after uses
      have hMemory : ((new .memory sources).after uses).location = .memory :=
        hNew.after_location uses
      have hSources : ((new .memory sources).after uses).sources = sources :=
        hNew.after_sources uses
      rw [after_append, sinceClose_concat]
      cases use with
      | write batch =>
          rw [Use.extend, loaded, List.map_append, after_append]
          exact ih.write hUsed (hNew.after _) batch.source batch.server batch.points
      | read question => exact (Alike.answer hUsed question).trans ih
      | close =>
          have hEmpty := close_of_memory hMemory
          rwa [hSources] at hEmpty
      | reopen =>
          have hEmpty := reopen_of_memory hMemory
          rwa [hSources] at hEmpty

end Alike

namespace Sound

theorem completes_iff (h : db.Sound) :
    db.Completes uses ↔ ∀ batch, .write batch ∈ uses → db.Takes batch := by
  induction uses generalizing db with
  | nil => simp [Completes]
  | cons use uses ih =>
      rw [Completes, ih (h.leaves use)]
      simp only [h.takes_leaves, List.mem_cons]
      cases use with
      | write first =>
          rw [Use.Succeeds, h.write_ok_iff]
          constructor
          · rintro ⟨hFirst, hRest⟩ batch (hSame | hMem)
            · cases hSame
              exact hFirst
            · exact hRest batch hMem
          · exact fun hAll => ⟨hAll first (.inl rfl), fun batch hMem => hAll batch (.inr hMem)⟩
      | _ => simp [Use.Succeeds]

/-- A database that nothing stands in the way of is usable. -/
theorem usable (h : db.Sound) (hFree : db.obstacle = none) : db.Usable where
  fails use failure hFails := by
    have hCause : ∀ {source}, db.Hindrance source failure → failure.IsArithmetic ∨
        ∃ source, db.sources.contains source = false ∧ failure = .store (.unknownSource source) := by
      rintro source (hKnown | hOpened | hArithmetic)
      · rw [known] at hKnown
        split at hKnown
        · cases hKnown
        · rename_i hUnknown
          exact .inr ⟨source, Bool.eq_false_of_not_eq_true hUnknown, (Except.error.inj hKnown).symm⟩
      · rw [h.opened_eq, hFree] at hOpened
        cases hOpened
      · exact .inl hArithmetic
    cases use with
    | write batch => exact hCause (hindrance_of_write db batch.source batch.server batch.points _ hFails)
    | read question => exact hCause (hindrance_of_answer db question _ hFails)
    | close => cases hFails
    | reopen => cases hFails
  writes batch hKnown rows hRows hFits := by
    have hRefusal : db.refusal batch.source = none := by rw [refusal, if_pos hKnown, hFree]
    exact h.write_ok_iff.mpr ⟨hRefusal, rows, hRows, hFits⟩
  counts source server window hKnown stored hStored := by
    have hRefusal : db.refusal source = none := by rw [refusal, if_pos hKnown, hFree]
    rw [answer, h.serve_of_refusal_eq_none hRefusal hStored]
    exact ⟨_, rfl⟩

/-- A run with interruptions is heard as the one without, where closing changes nothing. -/
theorem exchanges_of_interrupted (h : db.Sound) (h' : db'.Sound) (hAlike : Alike db db')
    (hPlace : db.location ≠ .memory) (hRuns : Interrupted uses uses') :
    db'.exchanges uses' = db.exchanges uses := by
  -- At every place of the two runs the databases show the same, and so they go on to do.
  induction hRuns generalizing db db' with
  | nil => rfl
  | use use hRuns ih =>
      have hHeard : use.heard db' = use.heard db := by
        cases use with
        | read question => rw [Use.heard, Use.heard, hAlike.answer_eq h h']
        | _ => rfl
      have hRest := ih (h.leaves use) (h'.leaves use) (hAlike.leaves h h' use)
        (h.leaves_location use ▸ hPlace)
      rw [exchanges, exchanges, hHeard, hRest]
  | close hRuns ih =>
      have hPlace' : db'.location ≠ .memory := hAlike.location ▸ hPlace
      exact ih h h'.close (hAlike.trans (Alike.close_of_ne hPlace').symm) hPlace
  | reopen hRuns ih =>
      have hPlace' : db'.location ≠ .memory := hAlike.location ▸ hPlace
      exact ih h h'.reopen (hAlike.trans (Alike.reopen_of_ne hPlace').symm) hPlace

end Sound

theorem Interrupted.refl (uses : List Use) : Interrupted uses uses := by
  induction uses with
  | nil => exact .nil
  | cons use uses ih => exact .use use ih

/-- Interruptions write nothing. -/
theorem Interrupted.write_mem_iff (h : Interrupted uses uses') :
    .write batch ∈ uses' ↔ .write batch ∈ uses := by
  induction h with
  | nil => rfl
  | use use h ih => simp only [List.mem_cons, ih]
  | close h ih => simp [ih]
  | reopen h ih => simp [ih]

/-- A database in memory after some uses. It is connected at every call and can be used, also after
more closings, and it answers as a new one that got what was written since it was last closed. -/
structure LastsUntilClose (sources : List String) (uses : List Use) : Prop where
  connected : ∀ use : Use,
    ¬use.FailsWith ((new .memory sources).after uses) (.store .notConnected)
  usable : ∀ closes : Nat,
    (((new .memory sources).after uses).after (List.replicate closes .close)).Usable
  accepts : (new .memory sources).Completes uses →
    (new .memory sources).Accepts (sinceClose uses)
  answers : ∀ question, (((new .memory sources).after uses).answer question).1 =
    (((new .memory sources).loaded (sinceClose uses)).answer question).1

/-- Where the sources have a schema, a database in memory lasts until it is closed, and one in a file,
whatever it was used for before, lasts through all closings and replacements. -/
theorem lasts_until_close {sources : List String} (hSchema : Schema.fault? sources = none)
    (uses : List Use) :
    LastsUntilClose sources uses ∧ ∀ prior uses', Interrupted uses uses' →
      let db := (new .file sources).after prior
      (db.Completes uses' ↔ db.Completes uses) ∧ db.exchanges uses' = db.exchanges uses := by
  have hMemory : (new .memory sources).Sound := .new .memory sources
  have hFile : (new .file sources).Sound := .new .file sources
  have hUsable : ∀ uses, ((new .memory sources).after uses).Usable := by
    intro uses
    refine (hMemory.after uses).usable ?_
    rw [obstacle_congr (hMemory.after_location uses) (hMemory.after_sources uses)]
    exact obstacle_eq_none nofun hSchema
  refine ⟨⟨?_, ?_, ?_, ?_⟩, ?_⟩
  · intro use hFails
    rcases (hUsable uses).fails use _ hFails with ⟨fault, hFault⟩ | ⟨source, -, hFault⟩
    · cases hFault
    · cases hFault
  · intro closes
    rw [← after_append]
    exact hUsable _
  · intro hCompletes
    rw [hMemory.accepts_iff]
    exact fun batch hMem => hMemory.completes_iff.mp hCompletes batch (mem_of_mem_sinceClose hMem)
  · exact (Alike.after_sinceClose sources uses).answer_eq (hMemory.after uses) (hMemory.after _)
  · intro prior uses' hRuns db
    have h : db.Sound := hFile.after prior
    have hPlace : db.location ≠ .memory := by
      rw [hFile.after_location prior]
      exact nofun
    refine ⟨?_, h.exchanges_of_interrupted h (Alike.refl db) hPlace hRuns⟩
    rw [h.completes_iff, h.completes_iff]
    simp only [hRuns.write_mem_iff]

/-- Two writes with a closing between them, and a question. -/
def closedBetween : List Use := [.write otherInstant, .close, .write oneInstant,
  .read (.latest "metrics_1m_avg" "web-1")]

theorem lasts_until_close_closedBetween :
    Schema.fault? ["metrics_1m_avg"] = none ∧
      LastsUntilClose ["metrics_1m_avg"] closedBetween ∧ sinceClose closedBetween = [oneInstant] ∧
      (new .file ["metrics_1m_avg"]).exchanges (.reopen :: .close :: closedBetween) =
        (new .file ["metrics_1m_avg"]).exchanges closedBetween := by
  have hSchema : Schema.fault? ["metrics_1m_avg"] = none := rfl
  obtain ⟨hMemory, hFile⟩ := lasts_until_close hSchema closedBetween
  have hRuns : Interrupted closedBetween (.reopen :: .close :: closedBetween) :=
    .reopen (.close (.refl closedBetween))
  exact ⟨hSchema, hMemory, rfl, (hFile [] _ hRuns).2⟩

end Rollup.Database
