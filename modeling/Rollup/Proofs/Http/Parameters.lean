import Mathlib
import Rollup.Proofs.Failure
import Rollup.Proofs.Store.Memory
import Rollup.Time.Duration
import Rollup.Window

/-!
Which parameters are in order. A window is read exactly from two texts of times with offsets, the
first not after the second and no further from it than the limit; a duration from parts with a
positive sum. A window fails by what is wrong with it and by nothing else.
-/
namespace Rollup

variable {raw start stop : Option String} {limit : Option Int} {name label text : String}
  {time : Timestamp} {window : Window} {span : Int} {failure : Failure}

/-- A parameter gives a time that knows its offset. -/
structure Timestamp.Given (raw : Option String) (time : Timestamp) : Prop where
  text : ∃ text, raw = some text ∧ Timestamp.ofText? text = some time
  aware : time.isAware = true

/-- Two parameters give a window that is in order and not longer than the limit. -/
structure Window.Given (start stop : Option String) (limit : Option Int) (window : Window) :
    Prop where
  start : Timestamp.Given start window.start
  stop : Timestamp.Given stop window.stop
  ordered : window.start.position ≤ window.stop.position
  short : ∀ longest ∈ limit, window.stop.position - window.start.position ≤ longest

/-- A text gives a positive duration. -/
structure Duration.Given (text : String) (span : Int) : Prop where
  total : ∃ parts, parts? (Text.strip text.toList) = some parts ∧ Duration.total parts = .ok span
  positive : 0 < span

namespace Window

theorem Given.aware (h : window.Given start stop limit) : window.Aware :=
  ⟨h.start.aware, h.stop.aware⟩

theorem timeOf_eq_ok_iff : timeOf name raw = .ok time ↔ Timestamp.Given raw time := by
  have hEmpty : Timestamp.ofText? "" = none := by decide
  rw [timeOf.eq_def]
  constructor
  · intro h
    split at h
    · cases h
    rename_i text
    split at h
    · cases h
    split at h
    · cases h
    rename_i time hText
    split at h
    · rename_i hAware
      cases h
      exact ⟨⟨text, rfl, hText⟩, hAware⟩
    · cases h
  · rintro ⟨⟨text, rfl, hText⟩, hAware⟩
    have hSome : text ≠ "" := by
      rintro rfl
      rw [hEmpty] at hText
      cases hText
    simp only [hSome, hText, hAware, ↓reduceIte]

theorem fault_of_timeOf (h : timeOf name raw = .error failure) :
    ∃ fault, failure = .window fault := by
  rw [timeOf.eq_def] at h
  split at h
  · exact ⟨_, (Except.error.inj h).symm⟩
  split at h
  · exact ⟨_, (Except.error.inj h).symm⟩
  split at h
  · exact ⟨_, (Except.error.inj h).symm⟩
  split at h
  · cases h
  · exact ⟨_, (Except.error.inj h).symm⟩

/-- Two times that know their offsets are a window if they are in order and the limit allows it. -/
theorem ofTexts_of_times {first last : Timestamp}
    (hFirst : timeOf (label ++ "start") start = .ok first)
    (hLast : timeOf (label ++ "end") stop = .ok last) :
    (ofTexts start stop limit label = .ok ⟨first, last⟩ ∧ first.position ≤ last.position ∧
        ∀ longest ∈ limit, last.position - first.position ≤ longest) ∨
      (∃ fault, ofTexts start stop limit label = .error (.window fault)) ∧
        ¬(first.position ≤ last.position ∧
          ∀ longest ∈ limit, last.position - first.position ≤ longest) := by
  have hAware : last.isAware = first.isAware :=
    (timeOf_eq_ok_iff.mp hLast).aware.trans (timeOf_eq_ok_iff.mp hFirst).aware.symm
  rw [ofTexts, hFirst, hLast]
  simp only [Timestamp.before_eq hAware, Timestamp.minus_eq hAware, bind, Except.bind,
    decide_eq_true_eq]
  by_cases hOrder : last.position < first.position
  · rw [if_pos hOrder]
    exact .inr ⟨⟨_, rfl⟩, fun h => by omega⟩
  rw [if_neg hOrder]
  cases limit with
  | none => exact .inl ⟨rfl, by omega, nofun⟩
  | some longest =>
      by_cases hLength : longest < last.position - first.position
      · refine .inr ⟨⟨_, if_pos hLength⟩, fun h => ?_⟩
        have hShort := h.2 longest rfl
        omega
      · refine .inl ⟨if_neg hLength, by omega, ?_⟩
        rintro _ ⟨⟩
        omega

theorem ofTexts_eq_ok_iff :
    ofTexts start stop limit label = .ok window ↔ window.Given start stop limit := by
  constructor
  · intro h
    cases hFirst : timeOf (label ++ "start") start with
    | error failure =>
        rw [ofTexts, hFirst] at h
        cases h
    | ok first =>
        cases hLast : timeOf (label ++ "end") stop with
        | error failure =>
            rw [ofTexts, hFirst, hLast] at h
            cases h
        | ok last =>
            rcases ofTexts_of_times hFirst hLast with
              ⟨hOk, hOrdered, hShort⟩ | ⟨⟨fault, hError⟩, -⟩
            · cases hOk.symm.trans h
              exact ⟨timeOf_eq_ok_iff.mp hFirst, timeOf_eq_ok_iff.mp hLast, hOrdered, hShort⟩
            · cases hError.symm.trans h
  · rintro ⟨hStart, hStop, hOrdered, hShort⟩
    rcases ofTexts_of_times (timeOf_eq_ok_iff.mpr hStart) (timeOf_eq_ok_iff.mpr hStop) with
      ⟨hOk, -⟩ | ⟨-, hNot⟩
    · exact hOk
    · exact absurd ⟨hOrdered, hShort⟩ hNot

/-- A window is refused for what is wrong with it. -/
theorem fault_of_ofTexts (h : ofTexts start stop limit label = .error failure) :
    ∃ fault, failure = .window fault := by
  cases hFirst : timeOf (label ++ "start") start with
  | error cause =>
      rw [ofTexts, hFirst] at h
      cases h
      exact fault_of_timeOf hFirst
  | ok first =>
      cases hLast : timeOf (label ++ "end") stop with
      | error cause =>
          rw [ofTexts, hFirst, hLast] at h
          cases h
          exact fault_of_timeOf hLast
      | ok last =>
          rcases ofTexts_of_times hFirst hLast with ⟨hOk, -⟩ | ⟨⟨fault, hError⟩, -⟩
          · cases hOk.symm.trans h
          · exact ⟨fault, (Except.error.inj (hError.symm.trans h)).symm⟩

end Window

namespace Duration

theorem arithmetic_of_checkedSpan {micros : Int} (h : checkedSpan micros = .error failure) :
    ∃ fault, failure = .arithmetic fault := by
  rw [checkedSpan] at h
  split at h
  · cases h
  · exact ⟨_, (Except.error.inj h).symm⟩

theorem arithmetic_of_span {part : Part} (h : part.span = .error failure) :
    ∃ fault, failure = .arithmetic fault := by
  rw [Part.span] at h
  split at h
  · exact ⟨_, (Except.error.inj h).symm⟩
  · exact arithmetic_of_checkedSpan h

/-- Parts are added up unless a sum is too large to be calculated. -/
theorem arithmetic_of_total {parts : List Part} (h : total parts = .error failure) :
    ∃ fault, failure = .arithmetic fault := by
  have hFold : ∀ sum : Int,
      parts.foldlM (fun sum part => do checkedSpan (sum + (← part.span))) sum = .error failure →
        ∃ fault, failure = .arithmetic fault := by
    clear h
    induction parts with
    | nil => exact nofun
    | cons part rest ih =>
        intro sum h
        rw [List.foldlM_cons] at h
        cases hSpan : part.span with
        | error cause =>
            rw [hSpan] at h
            cases h
            exact arithmetic_of_span hSpan
        | ok span =>
            rw [hSpan] at h
            change (checkedSpan (sum + span) >>= _) = _ at h
            cases hSum : checkedSpan (sum + span) with
            | error cause =>
                rw [hSum] at h
                cases h
                exact arithmetic_of_checkedSpan hSum
            | ok next =>
                rw [hSum] at h
                exact ih next h
  exact hFold 0 h

/-- Parts that cannot be added up give no duration. -/
theorem ofText_of_total {parts : List Part} (hParts : parts? (Text.strip text.toList) = some parts)
    (h : total parts = .error failure) : ofText text = .error failure := by
  simp only [ofText, hParts, h]
  rfl

theorem ofText_eq_ok_iff : ofText text = .ok span ↔ Given text span := by
  rw [ofText.eq_def]
  constructor
  · intro h
    split at h
    · cases h
    rename_i parts hParts
    obtain ⟨sum, hTotal, h⟩ := exists_of_bind_eq_ok h
    split at h
    · cases h
    rename_i hPositive
    cases h
    exact ⟨⟨parts, hParts, hTotal⟩, by omega⟩
  · rintro ⟨⟨parts, hParts, hTotal⟩, hPositive⟩
    have hNot : ¬span ≤ 0 := by omega
    simp only [hParts, hTotal, bind, Except.bind, hNot, ↓reduceIte]

/-- A text that gives no duration is at fault, or its parts cannot be added up. -/
theorem fault_of_ofText (h : ofText text = .error failure) :
    (∃ fault, failure = .window fault) ∨ ∃ fault, failure = .arithmetic fault := by
  rw [ofText.eq_def] at h
  split at h
  · exact .inl ⟨_, (Except.error.inj h).symm⟩
  rename_i parts hParts
  cases hTotal : total parts with
  | ok sum =>
      rw [hTotal] at h
      change (if sum ≤ 0 then _ else _) = _ at h
      split at h
      · exact .inl ⟨_, (Except.error.inj h).symm⟩
      · cases h
  | error cause =>
      rw [hTotal] at h
      cases h
      exact .inr (arithmetic_of_total hTotal)

end Duration

end Rollup
