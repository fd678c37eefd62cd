import Mathlib
import Rollup.Proofs.Http.Parameters
import Rollup.Proofs.Number.Decimal
import Rollup.Proofs.Time.Duration.Pattern

/-!
Durations as the sums of their parts. Each part lasts its unit times the value that its number is read
as, rounded to a microsecond. A text that is made of parts gives the sum, unless the sum is nothing or
more than can be counted; so the durations of two texts are added by writing one behind the other.
-/
namespace Rollup

open Number

/-- A span of no more whole days, either way, than can be counted. -/
def SpanFits (micros : ℤ) : Prop :=
  -(maxSpanDays : ℤ) ≤ micros / day ∧ micros / day ≤ maxSpanDays

instance (micros : ℤ) : Decidable (SpanFits micros) := inferInstanceAs (Decidable (_ ∧ _))

variable {n span sum : ℤ}

theorem checkedSpan_eq_ok_iff : checkedSpan n = .ok span ↔ span = n ∧ SpanFits n := by
  rw [checkedSpan]
  split
  · rename_i hFits
    rw [Except.ok.injEq, eq_comm]
    exact (and_iff_left hFits).symm
  · rename_i hNot
    refine iff_of_false ?_ fun h => hNot h.2
    intro h
    cases h

theorem SpanFits.of_le (h : SpanFits sum) (hNonneg : 0 ≤ span) (hLe : span ≤ sum) : SpanFits span := by
  have hDay : (0 : ℤ) < day := by decide
  have hDays := Int.ediv_le_ediv hDay hLe
  have hPositive := Int.ediv_nonneg hNonneg hDay.le
  exact ⟨by omega, hDays.trans h.2⟩

theorem SpanFits.lt (h : SpanFits span) : span < 2 ^ 67 := by
  have hDay : (0 : ℤ) < day := by decide
  have hDays : span < (maxSpanDays + 1) * day := (Int.ediv_lt_iff_lt_mul hDay).mp (by have := h.2; omega)
  exact hDays.trans (by decide)

namespace Duration

variable {part : Part} {parts : List Part} {cs : List Char} {text : String}

/-- The number of a part, as it is written. -/
def Part.number (part : Part) : ℚ :=
  Text.numeral (part.whole ++ part.fraction.getD []) / 10 ^ (part.fraction.getD []).length

/-- A part lasts its unit times the value that its number is read as, to the nearest microsecond. -/
def Part.Lasts (part : Part) (span : ℤ) : Prop :=
  ∃ value, NearestEven part.number value ∧ RoundsToWhole (value * part.unit.micros) span

theorem Unit.one_le_micros (unit : Unit) : 1 ≤ unit.micros := by
  cases unit <;> decide

namespace Part

theorem Lasts.unique {other : ℤ} (h : part.Lasts span) (hOther : part.Lasts other) : span = other := by
  obtain ⟨value, hValue, hSpan⟩ := h
  obtain ⟨same, hSame, hOther⟩ := hOther
  obtain rfl := hValue.unique hSame
  exact hSpan.unique hOther

theorem Lasts.nonneg (h : part.Lasts span) : 0 ≤ span := by
  obtain ⟨value, hValue, hSpan⟩ := h
  have hNumber : 0 ≤ part.number := by
    rw [number]
    positivity
  have hNonneg := hValue.le_of_le isBinary64_zero hNumber
  refine hSpan.le_of_le ?_
  rw [Int.cast_zero]
  positivity

/-- A part that lasts no longer than can be counted has a number of moderate size. -/
theorem Lasts.number_lt (h : part.Lasts span) (hFits : SpanFits span) : part.number < 2 ^ 100 := by
  obtain ⟨value, hValue, hSpan⟩ := h
  by_contra hLarge
  have hReach := hValue.le_of_le (isBinary64_two_pow (by decide)) (not_lt.mp hLarge)
  have hUnit : (1 : ℚ) ≤ part.unit.micros := by exact_mod_cast part.unit.one_le_micros
  have hProduct : ((2 ^ 100 : ℤ) : ℚ) ≤ value * part.unit.micros := by
    push_cast
    calc (2 : ℚ) ^ 100 ≤ value := hReach
      _ = value * 1 := (mul_one value).symm
      _ ≤ value * part.unit.micros :=
        mul_le_mul_of_nonneg_left hUnit (le_trans (by positivity) hReach)
  have hSpanReach := hSpan.le_of_le hProduct
  have hSmall := hFits.lt
  omega

/-- The digits of a part, those behind the point included. -/
def digits (part : Part) : Nat := Text.numeral (part.whole ++ part.fraction.getD [])

/-- The places behind the point. -/
def decimals (part : Part) : Nat := (part.fraction.getD []).length

/-- The value that the number of a part is read as, in multiples of the least positive value. -/
def units (part : Part) : Nat := Binary64.nearestUnits part.digits (Nat.pow 10 part.decimals)

/-- The microseconds of a part. -/
def micros (part : Part) : ℤ :=
  divNearest (part.units * part.unit.micros : Nat) (Nat.pow 2 Binary64.places)

theorem span_eq (part : Part) :
    part.span = if Binary64.tooLarge part.units then .error (.arithmetic .infiniteNumber)
      else checkedSpan part.micros := rfl

theorem number_lt_iff (part : Part) :
    part.number < 2 ^ 100 ↔ part.digits < 10 ^ part.decimals * 2 ^ 100 := by
  rw [number, div_lt_iff₀' (by positivity)]
  exact_mod_cast Iff.rfl

theorem nearestEven_units (h : part.number < 2 ^ 100) :
    NearestEven part.number (part.units / 2 ^ Binary64.places) := by
  have hNearest := nearestEven_nearestUnits (by positivity) (part.number_lt_iff.mp h)
  rw [Nat.cast_pow] at hNearest
  exact hNearest

/-- A number of moderate size is read as a finite value. -/
theorem tooLarge_units (h : part.number < 2 ^ 100) : Binary64.tooLarge part.units = false := by
  have hValue := (nearestEven_units h).le_of_ge (isBinary64_two_pow (by decide)) h.le
  rw [div_le_iff₀ (by positivity), ← pow_add] at hValue
  have hUnits : part.units ≤ 2 ^ (100 + Binary64.places) := by exact_mod_cast hValue
  have hLess : 100 + Binary64.places < 1024 + Binary64.places := by omega
  rw [← Bool.not_eq_true, tooLarge_iff, not_le]
  exact hUnits.trans_lt (Nat.pow_lt_pow_right Nat.one_lt_two hLess)

theorem lasts_micros (h : part.number < 2 ^ 100) : part.Lasts part.micros := by
  refine ⟨_, nearestEven_units h, ?_⟩
  rw [micros, natPow_eq]
  generalize Binary64.places = places
  have hQuotient : (part.units : ℚ) / 2 ^ places * part.unit.micros =
      ((part.units * part.unit.micros : Nat) : ℤ) / (2 ^ places : Nat) := by
    push_cast
    ring
  rw [hQuotient]
  exact roundsToWhole_divNearest _ (by positivity)

/-- A span that can be counted comes from a number of moderate size. -/
theorem number_lt_of_fits (h : SpanFits part.micros) : part.number < 2 ^ 100 := by
  have hSpan := h.lt
  rw [micros, units, nearestUnits_eq, natPow_eq, natPow_eq] at hSpan
  generalize Binary64.places = places at hSpan
  have hUnits := lt_of_divNearest_lt 67 places part.unit.one_le_micros hSpan
  have hMore : 2 ^ (67 + places) < 2 ^ (100 + places) :=
    Nat.pow_lt_pow_right Nat.one_lt_two (by omega)
  exact part.number_lt_iff.mpr (lt_of_round53_lt 100 places (by positivity) (hUnits.trans hMore))

/-- The span of a part is how long it lasts, if that can be counted. -/
theorem span_eq_ok_iff : part.span = .ok span ↔ part.Lasts span ∧ SpanFits span := by
  rw [span_eq]
  constructor
  · intro h
    split at h
    · cases h
    · obtain ⟨hSpan, hFits⟩ := checkedSpan_eq_ok_iff.mp h
      rw [hSpan]
      exact ⟨lasts_micros (number_lt_of_fits hFits), hFits⟩
  · rintro ⟨hLasts, hFits⟩
    have hNumber := hLasts.number_lt hFits
    have hSpan := hLasts.unique (lasts_micros hNumber)
    rw [tooLarge_units hNumber, if_neg Bool.false_ne_true]
    exact checkedSpan_eq_ok_iff.mpr ⟨hSpan, hSpan ▸ hFits⟩

end Part

section Total

variable {spans : List ℤ}

theorem sum_nonneg_of_lasts (h : List.Forall₂ Part.Lasts parts spans) : 0 ≤ spans.sum := by
  induction h with
  | nil => exact le_rfl
  | cons hPart _ ih =>
      rw [List.sum_cons]
      exact Int.add_nonneg hPart.nonneg ih

theorem lasts_unique {others : List ℤ} (h : List.Forall₂ Part.Lasts parts spans)
    (hOthers : List.Forall₂ Part.Lasts parts others) : spans = others := by
  induction h generalizing others with
  | nil => exact (List.forall₂_nil_left_iff.mp hOthers).symm
  | cons hPart _ ih =>
      obtain ⟨other, rest, hOther, hRest, rfl⟩ := List.forall₂_cons_left_iff.mp hOthers
      rw [hPart.unique hOther, ih hRest]

/-- Adding the spans of parts to a sum, none of the sums being more than can be counted. A sum only
grows, so it is enough to look at the last one. -/
theorem foldlM_span_eq_ok_iff {start : ℤ} (hStart : 0 ≤ start) (hFits : SpanFits start) :
    parts.foldlM (fun sum part => do checkedSpan (sum + (← part.span))) start = .ok sum ↔
      ∃ spans, List.Forall₂ Part.Lasts parts spans ∧ start + spans.sum = sum ∧ SpanFits sum := by
  induction parts generalizing start sum with
  | nil =>
      constructor
      · rintro ⟨⟩
        exact ⟨[], .nil, Int.add_zero sum, hFits⟩
      · rintro ⟨spans, hSpans, rfl, -⟩
        rw [List.forall₂_nil_left_iff.mp hSpans, List.sum_nil, Int.add_zero]
        rfl
  | cons part rest ih =>
      rw [List.foldlM_cons]
      constructor
      · intro h
        obtain ⟨next, hNext, hRest⟩ := exists_of_bind_eq_ok h
        obtain ⟨span, hSpan, hNext⟩ := exists_of_bind_eq_ok hNext
        obtain ⟨hLasts, -⟩ := Part.span_eq_ok_iff.mp hSpan
        obtain ⟨rfl, hNextFits⟩ := checkedSpan_eq_ok_iff.mp hNext
        obtain ⟨spans, hSpans, rfl, hSum⟩ :=
          (ih (Int.add_nonneg hStart hLasts.nonneg) hNextFits).mp hRest
        exact ⟨span :: spans, .cons hLasts hSpans, by rw [List.sum_cons, Int.add_assoc], hSum⟩
      · rintro ⟨_, hSpans, rfl, hSum⟩
        obtain ⟨span, spans, hLasts, hRest, rfl⟩ := List.forall₂_cons_left_iff.mp hSpans
        have hSpan := hLasts.nonneg
        have hLater := sum_nonneg_of_lasts hRest
        rw [List.sum_cons] at hSum ⊢
        have hPart := Part.span_eq_ok_iff.mpr ⟨hLasts, hSum.of_le hSpan (by omega)⟩
        have hNext : SpanFits (start + span) := hSum.of_le (by omega) (by omega)
        rw [hPart, ok_bind, checkedSpan_eq_ok_iff.mpr ⟨rfl, hNext⟩, ok_bind, ih (by omega) hNext]
        exact ⟨spans, hRest, Int.add_assoc .., hSum⟩

/-- The parts are added up if their sum can be counted. -/
theorem total_eq_ok_iff : total parts = .ok sum ↔
    ∃ spans, List.Forall₂ Part.Lasts parts spans ∧ spans.sum = sum ∧ SpanFits sum := by
  rw [total, foldlM_span_eq_ok_iff (le_refl 0) (by decide)]
  simp only [Int.zero_add]

end Total

section Strip

variable {rest : List Char}

theorem dropWhile_isBlank_eq_self_iff :
    cs.dropWhile Text.isBlank = cs ↔ ∀ c ∈ cs.head?, Text.isBlank c = false := by
  rw [List.dropWhile_eq_self_iff]
  cases cs <;> simp

/-- A text is stripped of nothing if it neither starts nor ends with a blank. -/
theorem strip_eq_self_iff : Text.strip cs = cs ↔
    (∀ c ∈ cs.head?, Text.isBlank c = false) ∧ ∀ c ∈ cs.getLast?, Text.isBlank c = false := by
  have hEnd : Text.stripEnd cs = cs ↔ ∀ c ∈ cs.getLast?, Text.isBlank c = false := by
    rw [← List.head?_reverse, ← dropWhile_isBlank_eq_self_iff, Text.stripEnd,
      List.reverse_eq_iff]
  rw [← hEnd, ← dropWhile_isBlank_eq_self_iff, Text.strip]
  constructor
  · intro h
    have hLength : (Text.stripEnd (cs.dropWhile Text.isBlank)).length ≤
        (cs.dropWhile Text.isBlank).length := by
      have hSuffix := (cs.dropWhile Text.isBlank).reverse.dropWhile_suffix Text.isBlank
      rw [Text.stripEnd, List.length_reverse]
      exact hSuffix.length_le.trans_eq List.length_reverse
    rw [h] at hLength
    have hSame := (List.dropWhile_suffix Text.isBlank).eq_of_length_le hLength
    rw [hSame] at h
    exact ⟨hSame, h⟩
  · rintro ⟨hStart, hStop⟩
    rw [hStart, hStop]

theorem strip_append (hText : Text.strip cs = cs) (hRest : Text.strip rest = rest) (hSome : cs ≠ [])
    (hMore : rest ≠ []) : Text.strip (cs ++ rest) = cs ++ rest := by
  obtain ⟨hStart, -⟩ := strip_eq_self_iff.mp hText
  obtain ⟨-, hEnd⟩ := strip_eq_self_iff.mp hRest
  rw [strip_eq_self_iff, List.head?_append_of_ne_nil _ hSome, List.getLast?_append_of_ne_nil _ hMore]
  exact ⟨hStart, hEnd⟩

end Strip

/-- A text amounts to the sum of the spans of its parts, blanks around it aside. -/
def Amounts (text : String) (sum : ℤ) : Prop :=
  ∃ parts spans, Spells parts (Text.strip text.toList) ∧ List.Forall₂ Part.Lasts parts spans ∧
    spans.sum = sum ∧ SpanFits sum

theorem amounts_iff : Amounts text sum ↔
    ∃ parts, parts? (Text.strip text.toList) = some parts ∧ total parts = .ok sum := by
  simp only [Amounts, parts?_eq_some_iff, total_eq_ok_iff, exists_and_left]

theorem Amounts.nonneg (h : Amounts text sum) : 0 ≤ sum := by
  obtain ⟨parts, spans, -, hSpans, rfl, -⟩ := h
  exact sum_nonneg_of_lasts hSpans

theorem Amounts.ofText_eq (h : Amounts text sum) :
    ofText text = if sum = 0 then .error (.window .noDuration) else .ok sum := by
  have hNonneg := h.nonneg
  obtain ⟨parts, hParts, hTotal⟩ := amounts_iff.mp h
  have hNothing : sum ≤ 0 ↔ sum = 0 := by omega
  simp only [ofText, hParts, hTotal, ok_bind, hNothing]

theorem Amounts.exists_spells (h : Amounts text sum) :
    ∃ parts, Spells parts (Text.strip text.toList) :=
  let ⟨parts, _, hParts, _⟩ := h
  ⟨parts, hParts⟩

theorem Amounts.unique {other : ℤ} (h : Amounts text sum) (hOther : Amounts text other) :
    sum = other := by
  obtain ⟨parts, spans, hParts, hSpans, rfl, -⟩ := h
  obtain ⟨others, later, hOthers, hLater, rfl, -⟩ := hOther
  obtain rfl := hParts.unique hOthers
  rw [lasts_unique hSpans hLater]

/-- The ways in which the reading of a text ends. -/
inductive Ending (text : String) : Prop
  | malformed (hParts : ¬∃ parts, Spells parts (Text.strip text.toList))
      (h : ofText text = .error (.window .invalidDuration))
  | overlong {fault : ArithmeticFault} (hParts : ∃ parts, Spells parts (Text.strip text.toList))
      (hSum : ∀ sum, ¬Amounts text sum) (h : ofText text = .error (.arithmetic fault))
  | summed {sum : ℤ} (hSum : Amounts text sum)

theorem ending (text : String) : Ending text := by
  cases hParts : parts? (Text.strip text.toList) with
  | none => exact .malformed (parts?_eq_none_iff.mp hParts) (by simp only [ofText, hParts])
  | some parts =>
      cases hTotal : total parts with
      | ok sum => exact .summed (amounts_iff.mpr ⟨parts, hParts, hTotal⟩)
      | error failure =>
          obtain ⟨fault, rfl⟩ := arithmetic_of_total hTotal
          refine .overlong ⟨parts, parts?_eq_some_iff.mp hParts⟩ ?_ (ofText_of_total hParts hTotal)
          intro sum hSum
          obtain ⟨others, hOthers, hSum⟩ := amounts_iff.mp hSum
          cases hParts.symm.trans hOthers
          cases hTotal.symm.trans hSum

theorem Amounts.append {more : String} {rest : ℤ} (h : Amounts text span) (hMore : Amounts more rest)
    (hText : Text.strip text.toList = text.toList) (hRest : Text.strip more.toList = more.toList)
    (hFits : SpanFits (span + rest)) : Amounts (text ++ more) (span + rest) := by
  obtain ⟨parts, spans, hParts, hSpans, rfl, -⟩ := h
  obtain ⟨others, later, hOthers, hLater, rfl, -⟩ := hMore
  rw [hText] at hParts
  rw [hRest] at hOthers
  refine ⟨parts ++ others, spans ++ later, ?_, List.rel_append hSpans hLater, List.sum_append, hFits⟩
  rw [String.toList_append, strip_append hText hRest hParts.text_ne_nil hOthers.text_ne_nil]
  exact hParts.append hOthers

theorem malformed_iff : ofText text = .error (.window .invalidDuration) ↔
    ¬∃ parts, Spells parts (Text.strip text.toList) := by
  cases ending text with
  | malformed hParts h => exact iff_of_true h hParts
  | overlong hParts hSum h => exact iff_of_false (by simp [h]) (not_not.mpr hParts)
  | summed hSum =>
      refine iff_of_false ?_ (not_not.mpr hSum.exists_spells)
      rw [hSum.ofText_eq]
      split <;> simp

theorem ok_iff_amounts : ofText text = .ok span ↔ Amounts text span ∧ 0 < span := by
  rw [ofText_eq_ok_iff]
  constructor
  · rintro ⟨hTotal, hPositive⟩
    exact ⟨amounts_iff.mpr hTotal, hPositive⟩
  · rintro ⟨hSum, hPositive⟩
    exact ⟨amounts_iff.mp hSum, hPositive⟩

theorem nothing_iff : ofText text = .error (.window .noDuration) ↔ Amounts text 0 := by
  cases ending text with
  | malformed hParts h => exact iff_of_false (by simp [h]) fun hSum => hParts hSum.exists_spells
  | overlong hParts hSum h => exact iff_of_false (by simp [h]) (hSum 0)
  | @summed sum hSum =>
      rw [hSum.ofText_eq]
      by_cases hZero : sum = 0
      · rw [if_pos hZero]
        exact iff_of_true rfl (hZero ▸ hSum)
      · rw [if_neg hZero]
        exact iff_of_false nofun fun hNothing => hZero (hSum.unique hNothing)

theorem overlong_iff_amounts : (∃ fault, ofText text = .error (.arithmetic fault)) ↔
    (∃ parts, Spells parts (Text.strip text.toList)) ∧ ∀ sum, ¬Amounts text sum := by
  cases ending text with
  | malformed hParts h => exact iff_of_false (by simp [h]) fun hOverlong => hParts hOverlong.1
  | @overlong fault hParts hSum h => exact iff_of_true ⟨fault, h⟩ ⟨hParts, hSum⟩
  | @summed sum hSum =>
      refine iff_of_false ?_ fun hOverlong => hOverlong.2 sum hSum
      rw [hSum.ofText_eq]
      split <;> simp

/-- How a text is read as a duration. Where a part is looked for, it is the first one that the pattern
matches when it tries its repetitions from the longest on. A text that is not made of parts is
malformed; one that is made of them is made of those that are found and of no others, and it amounts to
the sum of what they last, where nothing at all is refused and too much is a fault of arithmetic. Texts
without blanks around them, written one behind the other, amount to the sum of both. -/
structure ReadInParts (text : String) : Prop where
  tried : ∀ rest, rest <:+ Text.strip text.toList → partAt? rest = (attempts rest).head?
  malformed : ofText text = .error (.window .invalidDuration) ↔
    ¬∃ parts, Spells parts (Text.strip text.toList)
  found : ∀ parts, Spells parts (Text.strip text.toList) →
    partsAfter 0 (Text.strip text.toList) = parts ∧
      ∀ others, Spells others (Text.strip text.toList) → others = parts
  sum : ∀ parts spans, Spells parts (Text.strip text.toList) →
    List.Forall₂ Part.Lasts parts spans → SpanFits spans.sum →
      ofText text = if spans.sum = 0 then .error (.window .noDuration) else .ok spans.sum
  result : ∀ span, ofText text = .ok span ↔ Amounts text span ∧ 0 < span
  nothing : ofText text = .error (.window .noDuration) ↔ Amounts text 0
  overlong : (∃ fault, ofText text = .error (.arithmetic fault)) ↔
    (∃ parts, Spells parts (Text.strip text.toList)) ∧ ∀ sum, ¬Amounts text sum
  added : ∀ more span rest, Text.strip text.toList = text.toList →
    Text.strip more.toList = more.toList → ofText text = .ok span → ofText more = .ok rest →
      SpanFits (span + rest) → ofText (text ++ more) = .ok (span + rest)

/-- Every text is read as the sum of the parts that it is made of. -/
theorem readInParts (text : String) : ReadInParts text := by
  constructor
  · exact fun rest _ => partAt?_eq_head?_attempts rest
  · exact malformed_iff
  · exact fun parts hParts => ⟨hParts.partsAfter_eq, fun others => hParts.unique⟩
  · intro parts spans hParts hSpans hFits
    exact Amounts.ofText_eq ⟨parts, spans, hParts, hSpans, rfl, hFits⟩
  · exact fun span => ok_iff_amounts
  · exact nothing_iff
  · exact overlong_iff_amounts
  · intro more span rest hText hMore hSpan hRest hFits
    obtain ⟨hSum, hPositive⟩ := ok_iff_amounts.mp hSpan
    obtain ⟨hRestSum, hRestPositive⟩ := ok_iff_amounts.mp hRest
    have hBoth : 0 < span + rest := Int.add_pos hPositive hRestPositive
    exact ok_iff_amounts.mpr ⟨hSum.append hRestSum hText hMore hFits, hBoth⟩

theorem ofText_eq_of_toOption (h : (ofText text).toOption = some span) : ofText text = .ok span := by
  cases hSpan : ofText text with
  | error failure =>
      rw [hSpan] at h
      cases h
  | ok result =>
      rw [hSpan] at h
      exact congrArg Except.ok (Option.some.inj h)

/-- An hour and half a second, and behind them a quarter of a second. -/
theorem readInParts_quarter :
    Text.strip "1h0.5s".toList = "1h0.5s".toList ∧ Text.strip "250ms".toList = "250ms".toList ∧
      ofText "1h0.5s" = .ok 3600500000 ∧ ofText "250ms" = .ok 250000 ∧ SpanFits 3600750000 ∧
        ofText ("1h0.5s" ++ "250ms") = .ok 3600750000 := by
  have hText : Text.strip "1h0.5s".toList = "1h0.5s".toList := by decide
  have hMore : Text.strip "250ms".toList = "250ms".toList := by decide
  have hSpan : ofText "1h0.5s" = .ok 3600500000 :=
    ofText_eq_of_toOption (by decide +kernel)
  have hRest : ofText "250ms" = .ok 250000 := ofText_eq_of_toOption (by decide +kernel)
  have hFits : SpanFits 3600750000 := by decide
  exact ⟨hText, hMore, hSpan, hRest, hFits,
    (readInParts "1h0.5s").added "250ms" 3600500000 250000 hText hMore hSpan hRest hFits⟩

end Duration

end Rollup
