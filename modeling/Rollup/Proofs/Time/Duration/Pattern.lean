import Mathlib
import Rollup.Time.Duration

/-!
Texts that consist of duration parts. The search takes the first way in which a part can be matched
where it stands, so it finds every part of a text that is made of parts, and no text is made of parts
in two ways.
-/
namespace Rollup.Duration

open Text (isDigit)

/-- The rows of digits that a text starts with, the longest first. -/
def runs : List Char → List (List Char)
  | [] => []
  | c :: rest => if isDigit c then (runs rest).map (c :: ·) ++ [[c]] else []

/-- What may follow the digits before the point, in the order in which it is tried. -/
def fractions : List Char → List (Option (List Char))
  | '.' :: rest => (runs rest).map some ++ [none]
  | _ => [none]

/-- The units that a text starts with, in the order in which they are tried. -/
def units (cs : List Char) : List Unit :=
  [.milliseconds, .hours, .minutes, .seconds].filter fun unit => unit.text.isPrefixOf cs

/-- The ways in which a part with these digits before the point can go on. -/
def attemptsAfter (whole rest : List Char) : List Part :=
  (fractions rest).flatMap fun fraction =>
    (units (rest.drop (fractionText fraction).length)).map fun unit => ⟨whole, fraction, unit⟩

/-- The ways in which a part can be matched at the start of a text, in the order in which they are
tried: the digits are given back one after another until a unit follows. -/
def attempts (cs : List Char) : List Part :=
  (runs cs).flatMap fun whole => attemptsAfter whole (cs.drop whole.length)

/-- One or more digits. -/
structure Digits (cs : List Char) : Prop where
  ne_nil : cs ≠ []
  all : ∀ c ∈ cs, isDigit c = true

/-- A part with digits before the point, and behind it if there is one. -/
structure Part.Proper (part : Part) : Prop where
  whole : Digits part.whole
  fraction : ∀ digits ∈ part.fraction, Digits digits

/-- A text is one or more parts, written one after another. -/
structure Spells (parts : List Part) (cs : List Char) : Prop where
  ne_nil : parts ≠ []
  proper : ∀ part ∈ parts, part.Proper
  text : parts.flatMap Part.text = cs

variable {c : Char} {cs rest digits : List Char} {part : Part} {parts : List Part}

theorem ne_of_isDigit (h : isDigit c = true) : c ≠ '.' ∧ c ≠ 'h' ∧ c ≠ 'm' ∧ c ≠ 's' := by
  refine ⟨?_, ?_, ?_, ?_⟩ <;> (rintro rfl; revert h; decide)

section Attempts

theorem units_cons_of_isDigit (h : isDigit c = true) (rest : List Char) : units (c :: rest) = [] := by
  obtain ⟨-, hHour, hMinute, hSecond⟩ := ne_of_isDigit h
  simp [units, Unit.text, List.isPrefixOf, hHour.symm, hMinute.symm, hSecond.symm]

/-- The unit that is tried first is the one that the text is read with. -/
theorem head?_units (cs : List Char) : (units cs).head? = unitAt? cs := by
  rw [unitAt?.eq_def]
  split
  · rfl
  · simp [units, Unit.text, List.isPrefixOf]
  · rename_i tail hMillisecond
    have hNext : ['s'].isPrefixOf tail = false := by
      rw [Bool.eq_false_iff, ne_eq, List.isPrefixOf_iff_prefix]
      rintro ⟨rest, rfl⟩
      exact hMillisecond rest rfl
    simp [units, Unit.text, List.isPrefixOf, hNext]
  · simp [units, Unit.text, List.isPrefixOf]
  · rename_i hMillisecond hHour hMinute hSecond
    have hNone : ∀ unit : Unit, unit.text.isPrefixOf cs = false := by
      intro unit
      rw [Bool.eq_false_iff, ne_eq, List.isPrefixOf_iff_prefix]
      rintro ⟨tail, rfl⟩
      cases unit
      · exact hHour tail rfl
      · exact hMinute tail rfl
      · exact hSecond tail rfl
      · exact hMillisecond tail rfl
    simp [units, hNone]

/-- The longest row of digits is tried first. Behind each shorter one stands another digit. -/
theorem runs_cases (cs : List Char) :
    (cs.takeWhile isDigit = [] ∧ runs cs = []) ∨
      (cs.takeWhile isDigit ≠ [] ∧ ∃ shorter, runs cs = cs.takeWhile isDigit :: shorter ∧
        ∀ run ∈ shorter, ∃ c rest, cs.drop run.length = c :: rest ∧ isDigit c = true) := by
  induction cs with
  | nil => exact .inl ⟨rfl, rfl⟩
  | cons c rest ih =>
      by_cases hDigit : isDigit c = true
      · refine .inr ⟨by simp [hDigit], ?_⟩
        rcases ih with ⟨hTake, hRuns⟩ | ⟨hTake, shorter, hRuns, hShorter⟩
        · exact ⟨[], by simp [runs, hDigit, hTake, hRuns], nofun⟩
        · refine ⟨shorter.map (c :: ·) ++ [[c]], by simp [runs, hDigit, hRuns], ?_⟩
          intro run hMem
          rcases List.mem_append.mp hMem with hMem | hMem
          · obtain ⟨tail, hTail, rfl⟩ := List.mem_map.mp hMem
            exact hShorter tail hTail
          · rw [List.mem_singleton.mp hMem]
            cases rest with
            | nil => exact absurd rfl hTake
            | cons d tail =>
                refine ⟨d, tail, rfl, ?_⟩
                by_contra hNot
                exact hTake (by simp [hNot])
      · exact .inl (by simp [runs, hDigit])

theorem fractions_of_ne (h : ∀ tail, rest ≠ '.' :: tail) :
    fractions rest = [none] ∧ fractionAt? rest = none := by
  constructor
  · rw [fractions.eq_def]
    split
    · exact absurd rfl (h _)
    · rfl
  · rw [fractionAt?.eq_def]
    split
    · exact absurd rfl (h _)
    · rfl

/-- No unit follows a fraction that was cut short, nor a point without digits. -/
theorem fractions_cases (rest : List Char) :
    ∃ others, fractions rest = fractionAt? rest :: others ∧
      ∀ other ∈ others, units (rest.drop (fractionText other).length) = [] := by
  by_cases hPoint : ∃ tail, rest = '.' :: tail
  · obtain ⟨tail, rfl⟩ := hPoint
    rcases runs_cases tail with ⟨hTake, hRuns⟩ | ⟨hTake, shorter, hRuns, hShorter⟩
    · exact ⟨[], by simp [fractions, hRuns, fractionAt?, hTake], nofun⟩
    · refine ⟨shorter.map some ++ [none], by simp [fractions, hRuns, fractionAt?, hTake], ?_⟩
      intro other hMem
      rcases List.mem_append.mp hMem with hMem | hMem
      · obtain ⟨run, hRun, rfl⟩ := List.mem_map.mp hMem
        obtain ⟨c, rest, hDrop, hDigit⟩ := hShorter run hRun
        rw [fractionText, List.length_cons, List.drop_succ_cons, hDrop,
          units_cons_of_isDigit hDigit]
      · rw [List.mem_singleton.mp hMem]
        simp [fractionText, units, Unit.text, List.isPrefixOf]
  · obtain ⟨hFractions, hFraction⟩ := fractions_of_ne fun tail hTail => hPoint ⟨tail, hTail⟩
    exact ⟨[], by rw [hFractions, hFraction], nofun⟩

theorem attemptsAfter_cons_of_isDigit (h : isDigit c = true) (whole rest : List Char) :
    attemptsAfter whole (c :: rest) = [] := by
  obtain ⟨hPoint, -⟩ := ne_of_isDigit h
  have hNot : ∀ tail, c :: rest ≠ '.' :: tail := fun tail hTail => hPoint (List.cons.inj hTail).1
  rw [attemptsAfter, (fractions_of_ne hNot).1, List.flatMap_singleton, fractionText,
    List.length_nil, List.drop_zero, units_cons_of_isDigit h, List.map_nil]

theorem head?_attemptsAfter (whole rest : List Char) :
    (attemptsAfter whole rest).head? =
      (unitAt? (rest.drop (fractionText (fractionAt? rest)).length)).map fun unit =>
        ⟨whole, fractionAt? rest, unit⟩ := by
  obtain ⟨others, hFractions, hOthers⟩ := fractions_cases rest
  have hNothing : (others.flatMap fun fraction =>
      (units (rest.drop (fractionText fraction).length)).map fun unit =>
        (⟨whole, fraction, unit⟩ : Part)) = [] := by
    rw [List.flatMap_eq_nil_iff]
    intro other hMem
    rw [hOthers other hMem, List.map_nil]
  rw [attemptsAfter, hFractions, List.flatMap_cons, hNothing, List.append_nil, List.head?_map,
    head?_units]

/-- The part that a text is read with is the first one that is tried and fits: nothing is gained by
giving digits back. -/
theorem partAt?_eq_head?_attempts (cs : List Char) : partAt? cs = (attempts cs).head? := by
  rw [attempts]
  rcases runs_cases cs with ⟨hTake, hRuns⟩ | ⟨hTake, shorter, hRuns, hShorter⟩
  · simp [partAt?, hTake, hRuns]
  · have hNothing :
        (shorter.flatMap fun whole => attemptsAfter whole (cs.drop whole.length)) = [] := by
      rw [List.flatMap_eq_nil_iff]
      intro run hMem
      obtain ⟨c, rest, hDrop, hDigit⟩ := hShorter run hMem
      rw [hDrop, attemptsAfter_cons_of_isDigit hDigit]
    rw [hRuns, List.flatMap_cons, hNothing, List.append_nil, head?_attemptsAfter, List.drop_drop]
    simp [partAt?, hTake]

end Attempts

section Spells

theorem Digits.takeWhile_append (h : Digits digits) (hRest : ∀ c ∈ rest.head?, isDigit c = false) :
    (digits ++ rest).takeWhile isDigit = digits := by
  have hNone : rest.takeWhile isDigit = [] := by
    cases rest with
    | nil => rfl
    | cons c tail => simp [hRest c rfl]
  rw [List.takeWhile_append_of_pos h.all, hNone, List.append_nil]

theorem Digits.isEmpty_eq_false (h : Digits digits) : digits.isEmpty = false := by
  rw [List.isEmpty_eq_false_iff]
  exact h.ne_nil

/-- A unit starts with a letter. -/
theorem head?_text_append (unit : Unit) (rest : List Char) :
    ∀ c ∈ (unit.text ++ rest).head?, isDigit c = false ∧ c ≠ '.' := by
  cases unit <;> (rintro _ ⟨⟩; decide)

theorem unitAt?_text_append (unit : Unit) (hRest : ∀ c ∈ rest.head?, isDigit c = true) :
    unitAt? (unit.text ++ rest) = some unit := by
  cases unit with
  | hours | seconds | milliseconds => rfl
  | minutes =>
      rw [Unit.text, List.singleton_append, unitAt?.eq_def]
      split
      · rename_i hCons
        rw [(List.cons.inj hCons).2] at hRest
        exact absurd (hRest 's' rfl) (by decide)
      · rename_i hCons
        cases hCons
      · rfl
      · rename_i hCons
        cases hCons
      · rename_i hMinute _
        exact absurd rfl (hMinute rest)

theorem fractionAt?_append {fraction : Option (List Char)}
    (hFraction : ∀ digits ∈ fraction, Digits digits)
    (hRest : ∀ c ∈ rest.head?, isDigit c = false ∧ c ≠ '.') :
    fractionAt? (fractionText fraction ++ rest) = fraction := by
  cases fraction with
  | none =>
      refine (fractions_of_ne ?_).2
      rintro tail rfl
      exact (hRest '.' rfl).2 rfl
  | some digits =>
      have hDigits := hFraction digits rfl
      have hTake : (digits ++ rest).takeWhile isDigit = digits :=
        hDigits.takeWhile_append fun c hHead => (hRest c hHead).1
      simp [fractionText, fractionAt?, hTake, hDigits.ne_nil]

/-- A part is read where it is written, if a digit or nothing follows. -/
theorem partAt?_text_append (h : part.Proper) (hRest : ∀ c ∈ rest.head?, isDigit c = true) :
    partAt? (part.text ++ rest) = some part := by
  obtain ⟨whole, fraction, unit⟩ := part
  have hUnit := head?_text_append unit rest
  have hBehind : ∀ c ∈ (fractionText fraction ++ (unit.text ++ rest)).head?, isDigit c = false := by
    cases fraction with
    | none => exact fun c hHead => (hUnit c hHead).1
    | some digits =>
        rintro _ ⟨⟩
        decide
  have hWhole := h.whole.takeWhile_append hBehind
  have hFraction := fractionAt?_append h.fraction hUnit
  rw [Part.text, List.append_assoc, List.append_assoc]
  simp only [partAt?, hWhole, h.whole.isEmpty_eq_false, List.drop_left, hFraction,
    ← List.drop_drop, unitAt?_text_append unit hRest, Option.map_some, Bool.false_eq_true, ↓reduceIte]

theorem Digits.takeWhile (h : (cs.takeWhile isDigit).isEmpty = false) :
    Digits (cs.takeWhile isDigit) :=
  ⟨List.isEmpty_eq_false_iff.mp h, fun _ => List.mem_takeWhile_imp⟩

theorem digits_of_fractionAt? (h : fractionAt? rest = some digits) : Digits digits := by
  rw [fractionAt?.eq_def] at h
  split at h
  · dsimp only at h
    split at h
    · cases h
    · rename_i hSome
      cases h
      exact .takeWhile (Bool.eq_false_iff.mpr hSome)
  · cases h

theorem proper_of_partAt? (h : partAt? cs = some part) : part.Proper := by
  rw [partAt?] at h
  dsimp only at h
  split at h
  · cases h
  · rename_i hSome
    obtain ⟨unit, -, rfl⟩ := Option.map_eq_some_iff.mp h
    exact ⟨.takeWhile (Bool.eq_false_iff.mpr hSome), fun digits => digits_of_fractionAt?⟩

theorem proper_of_mem_partsAfter {skip : Nat} (h : part ∈ partsAfter skip cs) : part.Proper := by
  fun_induction partsAfter skip cs with
  | case1 => cases h
  | case2 skip c rest ih => exact ih h
  | case3 c rest found hFound ih =>
      rcases List.mem_cons.mp h with rfl | hMem
      · exact proper_of_partAt? hFound
      · exact ih hMem
  | case4 c rest hNone ih => exact ih h

theorem partsAfter_length_append (skipped rest : List Char) :
    partsAfter skipped.length (skipped ++ rest) = partsAfter 0 rest := by
  induction skipped with
  | nil => rfl
  | cons c skipped ih => exact ih

/-- The search goes on behind a part that it finds. -/
theorem partsAfter_text_append (h : part.Proper) (hRest : ∀ c ∈ rest.head?, isDigit c = true) :
    partsAfter 0 (part.text ++ rest) = part :: partsAfter 0 rest := by
  have hFound := partAt?_text_append h hRest
  cases hText : part.text with
  | nil =>
      rw [Part.text, List.append_assoc] at hText
      exact absurd (List.append_eq_nil_iff.mp hText).1 h.whole.ne_nil
  | cons c tail =>
      rw [hText, List.cons_append] at hFound
      rw [List.cons_append, partsAfter, hFound]
      dsimp only
      rw [hText, List.length_cons, Nat.add_sub_cancel, partsAfter_length_append]

theorem isDigit_of_mem_head? (h : ∀ part ∈ parts, part.Proper) :
    ∀ c ∈ (parts.flatMap Part.text).head?, isDigit c = true := by
  cases parts with
  | nil => exact nofun
  | cons part rest =>
      obtain ⟨hPart, -⟩ := List.forall_mem_cons.mp h
      obtain ⟨d, tail, hWhole⟩ := List.exists_cons_of_ne_nil hPart.whole.ne_nil
      intro c hHead
      rw [List.flatMap_cons, Part.text, hWhole] at hHead
      cases hHead
      exact hPart.whole.all d (hWhole ▸ List.mem_cons_self)

/-- The search finds the parts that a text is made of. -/
theorem partsAfter_flatMap_text (h : ∀ part ∈ parts, part.Proper) :
    partsAfter 0 (parts.flatMap Part.text) = parts := by
  induction parts with
  | nil => rfl
  | cons part rest ih =>
      obtain ⟨hPart, hRest⟩ := List.forall_mem_cons.mp h
      rw [List.flatMap_cons, partsAfter_text_append hPart (isDigit_of_mem_head? hRest), ih hRest]

theorem Spells.partsAfter_eq (h : Spells parts cs) : partsAfter 0 cs = parts :=
  h.text ▸ partsAfter_flatMap_text h.proper

/-- A text is made of parts in one way at most. -/
theorem Spells.unique {others : List Part} (h : Spells parts cs) (hOthers : Spells others cs) :
    others = parts :=
  hOthers.partsAfter_eq.symm.trans h.partsAfter_eq

theorem Spells.append {others : List Part} (h : Spells parts cs) (hOthers : Spells others rest) :
    Spells (parts ++ others) (cs ++ rest) where
  ne_nil := List.append_ne_nil_of_left_ne_nil h.ne_nil others
  proper := List.forall_mem_append.mpr ⟨h.proper, hOthers.proper⟩
  text := by rw [List.flatMap_append, h.text, hOthers.text]

theorem Spells.text_ne_nil (h : Spells parts cs) : cs ≠ [] := by
  rintro rfl
  exact h.ne_nil h.partsAfter_eq.symm

/-- The check by which a text is accepted: it is made of parts. -/
theorem parts?_eq_some_iff : parts? cs = some parts ↔ Spells parts cs := by
  rw [parts?]
  constructor
  · intro h
    split at h
    · cases h
    · rename_i hFound
      rw [not_or, List.isEmpty_iff, not_not] at hFound
      cases h
      exact ⟨hFound.1, fun part => proper_of_mem_partsAfter, hFound.2⟩
  · intro h
    rw [h.partsAfter_eq, if_neg]
    rw [not_or, List.isEmpty_iff, not_not]
    exact ⟨h.ne_nil, h.text⟩

theorem parts?_eq_none_iff : parts? cs = none ↔ ¬∃ parts, Spells parts cs := by
  simp only [Option.eq_none_iff_forall_ne_some, ne_eq, parts?_eq_some_iff, not_exists]

end Spells

end Rollup.Duration
