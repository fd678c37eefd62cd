import Mathlib
import Rollup.Proofs.Number.Padded
import Rollup.Proofs.Time.Calendar
import Rollup.Time.IsoReader

/-!
How written parts are read. Each part of the grammar is read off the bytes at its place, whatever
stands around them.
-/
namespace Rollup.Iso

open Number (digits length_digits mem_digits)

variable {b xs ys : List Nat} {place stop : Nat}

/-- The bytes at a place are these. -/
def Shows (b : List Nat) (place : Nat) (xs : List Nat) : Prop := xs <+: b.drop place

namespace Shows

theorem refl (b : List Nat) : Shows b 0 b := by
  rw [Shows, List.drop_zero]

theorem append_iff :
    Shows b place (xs ++ ys) ↔ Shows b place xs ∧ Shows b (place + xs.length) ys := by
  constructor
  · rintro ⟨rest, hRest⟩
    rw [List.append_assoc] at hRest
    refine ⟨⟨ys ++ rest, hRest⟩, rest, ?_⟩
    rw [← List.drop_drop, ← hRest, List.drop_left]
  · rintro ⟨⟨rest, hRest⟩, hLater⟩
    rw [Shows, ← List.drop_drop, ← hRest, List.drop_left] at hLater
    rw [Shows, ← hRest]
    exact (List.prefix_append_right_inj xs).mpr hLater

theorem at_eq {x : Nat} (h : Shows b place (x :: xs)) : at? b place = x := by
  obtain ⟨rest, hRest⟩ := h
  have hHere : (b.drop place)[0]? = some x := by rw [← hRest]; rfl
  rw [List.getElem?_drop, Nat.add_zero] at hHere
  rw [at?, List.getD_eq_getElem?_getD, hHere, Option.getD_some]

theorem tail {x : Nat} (h : Shows b place (x :: xs)) : Shows b (place + 1) xs := by
  have hSplit : Shows b place ([x] ++ xs) := h
  exact (append_iff.mp hSplit).2

theorem length_le (h : Shows b place xs) : xs.length ≤ b.length - place := by
  rw [← List.length_drop]
  exact List.IsPrefix.length_le h

end Shows

theorem at_end (h : b.length ≤ place) : at? b place = 0 := by
  rw [at?, List.getD_eq_default _ _ h]

theorem isDigit_digit {d : Nat} (h : d < 10) : isDigit (0x30 + d) = true := by
  rw [isDigit, Bool.and_eq_true, decide_eq_true_eq, decide_eq_true_eq]
  omega

/-- Digits are read as the number that they write. -/
theorem number?_digits {width n : Nat} (h : Shows b place (digits width n))
    (hFits : n < 10 ^ width) : number? b place width = some n := by
  induction width generalizing n with
  | zero =>
      rw [Nat.pow_zero, Nat.lt_one_iff] at hFits
      rw [number?, hFits]
  | succ width ih =>
      rw [digits] at h
      obtain ⟨hFront, hLast⟩ := Shows.append_iff.mp h
      rw [length_digits] at hLast
      have hLess : n / 10 < 10 ^ width := by
        rw [Nat.pow_succ] at hFits
        omega
      rw [number?, ih hFront hLess, hLast.at_eq]
      change (if isDigit (0x30 + n % 10) = true then some _ else none) = some n
      rw [if_pos (isDigit_digit (Nat.mod_lt n (by decide))), Nat.add_sub_cancel_left,
        Nat.div_add_mod]

section Fields

variable {left value : Nat} {colons : Option Bool} {fields : List Nat}

/-- A field that a colon follows is read, and the reader goes on behind the colon. -/
theorem fields?_colon (hColons : colons.getD true = true) (hValue : value < 100)
    (h : Shows b place (digits 2 value ++ [colon])) (hMore : place + 3 < stop) :
    fields? b stop (left + 1) colons fields place =
      fields? b stop left (some true) (fields ++ [value]) (place + 3) := by
  obtain ⟨hDigits, hColon⟩ := Shows.append_iff.mp h
  rw [length_digits] at hColon
  rw [fields?, number?_digits hDigits hValue, Option.bind_eq_bind, Option.bind_some]
  simp only [hColon.at_eq, decide_true, hColons, Bool.true_and, ↓reduceIte]
  rw [if_neg (by omega)]

/-- A field at the end is the last one. -/
theorem fields?_last (hValue : value < 100) (h : Shows b place (digits 2 value))
    (hStop : stop ≤ place + 3) :
    fields? b stop (left + 1) colons fields place =
      some ⟨fields ++ [value], 0, at? b (place + 2) != 0⟩ := by
  rw [fields?, number?_digits h hValue, Option.bind_eq_bind, Option.bind_some, if_pos hStop]

/-- A field that a point follows is the last one before the fraction. -/
theorem fields?_dot {micros : Nat} (hValue : value < 100)
    (h : Shows b place (digits 2 value ++ dot :: digits 6 micros)) (hMicros : micros < 10 ^ 6)
    (hStop : stop = place + 9) :
    ∃ rest, fields? b stop (left + 1) colons fields place =
      some ⟨fields ++ [value], micros, rest⟩ := by
  obtain ⟨hDigits, hDot⟩ := Shows.append_iff.mp h
  rw [length_digits] at hDot
  have hNot : (dot = colon) = False := by decide
  have hCount : min 6 (stop - (place + 3)) = 6 := by omega
  refine ⟨at? b (skipDigits b (place + 3 + 6) b.length) != 0, ?_⟩
  rw [fields?, number?_digits hDigits hValue, Option.bind_eq_bind, Option.bind_some]
  simp only [hDot.at_eq, hNot, decide_false, Bool.and_false]
  rw [if_neg (by omega), if_neg (by decide), if_pos (.inl trivial), fraction?, hCount,
    number?_digits hDot.tail hMicros]
  change some (Clock.mk _ (micros * 1) _) = _
  rw [Nat.mul_one]

end Fields

/-- The place of the offset is the first one where a byte starts one. -/
theorem offsetPlace_eq {mark fuel : Nat} (h : Shows b place (xs ++ [mark]))
    (hBefore : ∀ x ∈ xs, startsOffset x = false) (hMark : startsOffset mark = true)
    (hFuel : xs.length < fuel) : offsetPlace b place fuel = place + xs.length := by
  induction xs generalizing place fuel with
  | nil =>
      obtain ⟨fuel, rfl⟩ := Nat.exists_eq_succ_of_ne_zero hFuel.ne'
      rw [offsetPlace, h.at_eq, if_pos hMark]
      rfl
  | cons x xs ih =>
      obtain ⟨fuel, rfl⟩ := Nat.exists_eq_succ_of_ne_zero (Nat.zero_lt_of_lt hFuel).ne'
      obtain ⟨hHere, hLater⟩ := List.forall_mem_cons.mp hBefore
      have hLength := h.length_le
      rw [List.length_append, List.length_cons, List.length_singleton] at hLength
      have hInside : place + 1 < b.length := by omega
      rw [offsetPlace, Shows.at_eq h, hHere, if_neg (by decide), if_pos hInside,
        ih (Shows.tail h) hLater (Nat.lt_of_succ_lt_succ hFuel), List.length_cons]
      omega

/-- No digit marks a week. -/
theorem ne_weekMark {n : Nat} (h : Shows b place (digits 2 n)) : at? b place ≠ weekMark := by
  have hTwo : Shows b place [0x30 + n / 10 % 10, 0x30 + n % 10] := h
  rw [hTwo.at_eq, weekMark]
  omega

/-- The bytes of a date. -/
def dateBytes (date : Calendar.Date) : List Nat :=
  digits 4 date.year ++ [hyphen] ++ (digits 2 date.month ++ [hyphen] ++ digits 2 date.day)

@[simp] theorem length_dateBytes (date : Calendar.Date) : (dateBytes date).length = 10 := by
  simp [dateBytes]

/-- The bytes of a date in front of a text end at the tenth place and are read as the date. -/
theorem date?_dateBytes {date : Calendar.Date} (hValid : date.isValid = true)
    (h : Shows b 0 (dateBytes date)) (hLength : 7 < b.length) :
    separator? b = some 10 ∧ date? b 10 = some date := by
  obtain ⟨hYearFits, hMonthFits, hDayFits⟩ := Calendar.Date.isValid_bounds hValid
  rw [dateBytes, Shows.append_iff, Shows.append_iff, Shows.append_iff, Shows.append_iff] at h
  simp only [List.length_append, length_digits, List.length_singleton] at h
  obtain ⟨⟨hYear, hFirst⟩, ⟨hMonth, hSecond⟩, hDay⟩ := h
  have hHyphen : at? b 4 = hyphen := hFirst.at_eq
  have hHyphen' : at? b 7 = hyphen := hSecond.at_eq
  have hNoWeek : at? b 5 ≠ weekMark := ne_weekMark hMonth
  constructor
  · rw [separator?]
    simp only [hHyphen, hNoWeek, ↓reduceIte]
    rw [if_neg (by omega), if_neg (by omega)]
  · rw [date?, number?_digits hYear hYearFits]
    simp only [Option.bind_eq_bind, Option.bind_some, hHyphen, hHyphen', hNoWeek, ↓reduceIte,
      number?_digits hMonth hMonthFits, number?_digits hDay hDayFits, hValid]

/-- The bytes of hours and minutes, parted by a colon. -/
def hourMinuteBytes (micros : Nat) : List Nat :=
  digits 2 (micros / hour) ++ colon :: digits 2 (micros / (60 * second) % 60)

@[simp] theorem length_hourMinuteBytes (micros : Nat) : (hourMinuteBytes micros).length = 5 := by
  simp [hourMinuteBytes]

/-- The bytes of seconds behind a colon. -/
def secondBytes (micros : Nat) : List Nat := colon :: digits 2 (micros / second % 60)

@[simp] theorem length_secondBytes (micros : Nat) : (secondBytes micros).length = 3 := by
  simp [secondBytes]

/-- The bytes of a fraction, none for zero. -/
def fractionBytes (micros : Nat) : List Nat :=
  if micros = 0 then [] else dot :: digits 6 micros

/-- The bytes of a time of day. -/
def timeBytes (time : Nat) : List Nat :=
  hourMinuteBytes time ++ secondBytes time ++ fractionBytes (time % second)

/-- Minutes and seconds have two digits. -/
theorem mod_sixty_lt (n : Nat) : n % 60 < 100 :=
  (Nat.mod_lt n (by decide)).trans (by decide)

/-- The parts of a time add up to it. -/
theorem total_parts (time : Nat) :
    time / hour * hour + time / (60 * second) % 60 * (60 * second) + time / second % 60 * second +
      time % second = time := by
  simp only [hour, second]
  omega

section Clocks

variable {time : Nat} (hTime : time < day)
include hTime

theorem hours_lt : time / hour < 24 := by
  rw [Nat.div_lt_iff_lt_mul (by decide)]
  exact hTime

/-- Hours are read, and the reader goes on behind their colon. -/
theorem clock?_hours (h : Shows b place (hourMinuteBytes time)) (hMore : place + 3 < stop) :
    clock? b place stop = fields? b stop 2 (some true) [time / hour] (place + 3) ∧
      Shows b (place + 3) (digits 2 (time / (60 * second) % 60)) := by
  have hParts : Shows b place
      (digits 2 (time / hour) ++ [colon] ++ digits 2 (time / (60 * second) % 60)) := by
    rw [List.append_assoc]
    exact h
  obtain ⟨hHours, hMinutes⟩ := Shows.append_iff.mp hParts
  rw [List.length_append, length_digits, List.length_singleton] at hMinutes
  have hFits : time / hour < 100 := (hours_lt hTime).trans (by decide)
  rw [clock?, fields?_colon rfl hFits hHours hMore]
  exact ⟨rfl, hMinutes⟩

/-- Hours and minutes are read, and the reader goes on behind their colons. -/
theorem clock?_minutes (h : Shows b place (hourMinuteBytes time ++ colon :: xs))
    (hMore : place + 6 < stop) :
    clock? b place stop =
        fields? b stop 1 (some true) [time / hour, time / (60 * second) % 60] (place + 6) ∧
      Shows b (place + 6) xs := by
  obtain ⟨hFront, hColon⟩ := Shows.append_iff.mp h
  rw [length_hourMinuteBytes] at hColon
  obtain ⟨hClock, hMinutes⟩ := clock?_hours hTime hFront (show place + 3 < stop by omega)
  have hBoth : Shows b (place + 3) (digits 2 (time / (60 * second) % 60) ++ [colon]) := by
    refine Shows.append_iff.mpr ⟨hMinutes, ?_⟩
    rw [length_digits]
    exact (Shows.append_iff.mp (show Shows b (place + 5) ([colon] ++ xs) from hColon)).1
  rw [hClock, fields?_colon rfl (mod_sixty_lt _) hBoth hMore]
  exact ⟨rfl, hColon.tail⟩

/-- The bytes of a time of day are read as the time. -/
theorem clock?_timeOfDay
    (h : Shows b place (timeBytes time)) (hStop : stop = place + (timeBytes time).length) :
    ∃ rest, clock? b place stop = some
      ⟨[time / hour, time / (60 * second) % 60, time / second % 60], time % second, rest⟩ := by
  rw [timeBytes, List.length_append, List.length_append, length_hourMinuteBytes,
    length_secondBytes] at hStop
  rw [timeBytes, List.append_assoc, secondBytes, List.cons_append] at h
  obtain ⟨hClock, hSeconds⟩ := clock?_minutes hTime h (show place + 6 < stop by omega)
  have hMicros : time % second < 10 ^ 6 := Nat.mod_lt _ (by decide)
  rw [hClock]
  by_cases hZero : time % second = 0
  · rw [fractionBytes, if_pos hZero] at hSeconds hStop
    rw [List.append_nil] at hSeconds
    refine ⟨at? b (place + 6 + 2) != 0, ?_⟩
    rw [fields?_last (mod_sixty_lt _) hSeconds (hStop.trans_le (by simp)), hZero]
    rfl
  · rw [fractionBytes, if_neg hZero] at hSeconds hStop
    exact fields?_dot (mod_sixty_lt _) hSeconds hMicros (hStop.trans (by simp))

/-- The bytes of whole seconds, none if there are none. -/
def wholeBytes (micros : Nat) : List Nat :=
  if micros / second % 60 = 0 then [] else secondBytes micros

/-- The bytes of whole seconds at the end of a text are read as they are. -/
theorem clock?_wholeSeconds (hWhole : time % second = 0)
    (h : Shows b place (hourMinuteBytes time ++ wholeBytes time))
    (hEnd : b.length = place + (hourMinuteBytes time ++ wholeBytes time).length) :
    ∃ clock, clock? b place b.length = some clock ∧ clock.rest = false ∧ clock.total = time := by
  have hTotal := total_parts time
  rw [wholeBytes] at h hEnd
  by_cases hZero : time / second % 60 = 0
  · rw [if_pos hZero, List.append_nil] at h hEnd
    rw [length_hourMinuteBytes] at hEnd
    obtain ⟨hClock, hMinutes⟩ := clock?_hours hTime h (show place + 3 < b.length by omega)
    rw [hClock, fields?_last (mod_sixty_lt _) hMinutes (by omega), at_end (by omega)]
    refine ⟨_, rfl, rfl, ?_⟩
    rw [hZero, hWhole] at hTotal
    exact hTotal
  · rw [if_neg hZero, secondBytes] at h hEnd
    rw [List.length_append, length_hourMinuteBytes, List.length_cons, length_digits] at hEnd
    obtain ⟨hClock, hSeconds⟩ := clock?_minutes hTime h (show place + 6 < b.length by omega)
    rw [hClock, fields?_last (mod_sixty_lt _) hSeconds (by omega), at_end (by omega)]
    refine ⟨_, rfl, rfl, ?_⟩
    rw [hWhole] at hTotal
    exact hTotal

/-- What a time of day is read as is a time of day, and the same. -/
theorem isTimeOfDay_parts (rest : Bool) :
    let clock : Clock :=
      ⟨[time / hour, time / (60 * second) % 60, time / second % 60], time % second, rest⟩
    clock.isTimeOfDay = true ∧ clock.total = time := by
  intro clock
  refine ⟨decide_eq_true ⟨hours_lt hTime, Nat.mod_lt _ (by decide), Nat.mod_lt _ (by decide)⟩, ?_⟩
  exact total_parts time

end Clocks

/-- The bytes of an offset of whole seconds. -/
def offsetBytes (offset : Offset) : List Nat :=
  if offset.micros.natAbs = 0 then [zuluMark]
  else
    (if offset.micros < 0 then hyphen else plus) ::
      (hourMinuteBytes offset.micros.natAbs ++ wholeBytes offset.micros.natAbs)

theorem natAbs_offset_lt (offset : Offset) : offset.micros.natAbs < day := by
  have hLow := offset.lower
  have hHigh := offset.upper
  omega

/-- The bytes of an offset at the end of a text are read as the offset. -/
theorem offset?_offsetBytes {offset : Offset} (hWhole : (second : Int) ∣ offset.micros)
    (h : Shows b place (offsetBytes offset))
    (hEnd : b.length = place + (offsetBytes offset).length) : offset? b place = some offset := by
  have hRest : offset.micros.natAbs % second = 0 := by
    rw [← Nat.dvd_iff_mod_eq_zero]
    exact Int.natCast_dvd.mp hWhole
  rw [offsetBytes] at h hEnd
  by_cases hZero : offset.micros.natAbs = 0
  · rw [if_pos hZero] at h hEnd
    rw [List.length_singleton] at hEnd
    have hSame : Offset.zero = offset := by
      obtain ⟨micros, hLow, hHigh⟩ := offset
      cases Int.natAbs_eq_zero.mp hZero
      rfl
    rw [offset?, if_pos h.at_eq, if_pos (at_end hEnd.le), hSame]
  · rw [if_neg hZero] at h hEnd
    rw [List.length_cons] at hEnd
    obtain ⟨clock, hClock, hNoRest, hTotal⟩ := clock?_wholeSeconds (natAbs_offset_lt offset) hRest
      h.tail (by omega)
    have hMark : at? b place ≠ zuluMark := by
      rw [h.at_eq]
      split <;> decide
    have hSigned : (if at? b place = hyphen then -(clock.total : Int) else clock.total) =
        offset.micros := by
      rw [h.at_eq, hTotal]
      by_cases hNegative : offset.micros < 0
      · rw [if_pos hNegative, if_pos rfl]
        omega
      · rw [if_neg hNegative, if_neg (by decide)]
        omega
    have hSecond : ¬clock.total < second := by
      rw [hTotal, not_lt]
      exact Nat.le_of_dvd (Nat.pos_of_ne_zero hZero) (Nat.dvd_of_mod_eq_zero hRest)
    rw [offset?, if_neg hMark, hClock]
    simp only [Option.bind_eq_bind, Option.bind_some, hNoRest, Bool.false_eq_true, ↓reduceIte,
      hSecond, hSigned]
    exact dif_pos ⟨offset.lower, offset.upper⟩

/-- Digits, points and colons start no offset. -/
theorem startsOffset_timeBytes (time : Nat) : ∀ x ∈ timeBytes time, startsOffset x = false := by
  have hOther : ∀ x, dot ≤ x ∧ x ≤ colon → startsOffset x = false := by
    intro x hBetween
    simp only [dot, colon] at hBetween
    simp only [startsOffset, Bool.or_eq_false_iff, beq_eq_false_iff_ne, plus, hyphen, zuluMark]
    omega
  have hDigits : ∀ width n, ∀ x ∈ digits width n, dot ≤ x ∧ x ≤ colon := by
    intro width n x hMem
    obtain ⟨hLow, hHigh⟩ := mem_digits hMem
    exact ⟨hLow.trans' (by decide), hHigh.trans (by decide)⟩
  have hFraction : ∀ x ∈ fractionBytes (time % second), dot ≤ x ∧ x ≤ colon := by
    rw [fractionBytes]
    split
    · exact nofun
    · exact List.forall_mem_cons.mpr ⟨by decide, hDigits 6 _⟩
  have hColon : dot ≤ colon ∧ colon ≤ colon := by decide
  have hAll : ∀ x ∈ timeBytes time, dot ≤ x ∧ x ≤ colon := by
    simp only [timeBytes, hourMinuteBytes, secondBytes, List.forall_mem_append,
      List.forall_mem_cons]
    exact ⟨⟨⟨hDigits 2 _, hColon, hDigits 2 _⟩, hColon, hDigits 2 _⟩, hFraction⟩
  exact fun x hMem => hOther x (hAll x hMem)

theorem exists_offsetBytes (offset : Offset) :
    ∃ mark rest, offsetBytes offset = mark :: rest ∧ startsOffset mark = true := by
  rw [offsetBytes]
  split
  · exact ⟨_, _, rfl, rfl⟩
  · refine ⟨_, _, rfl, ?_⟩
    split <;> rfl

/-- The bytes of a time of day and an offset at the end of a text are read as both. -/
theorem time?_eq {b : List Nat} {separator : Nat} (hTime : time < day)
    (hWhole : (second : Int) ∣ offset.micros)
    (h : Shows b separator (0x54 :: (timeBytes time ++ offsetBytes offset)))
    (hEnd : b.length = separator + 1 + (timeBytes time).length + (offsetBytes offset).length) :
    ∃ clock, time? b separator = some (clock, some offset) ∧ clock.isTimeOfDay = true ∧
      clock.total = time := by
  obtain ⟨mark, rest, hBytes, hStarts⟩ := exists_offsetBytes offset
  obtain ⟨hClockBytes, hOffsetBytes⟩ := Shows.append_iff.mp h.tail
  have hMark : Shows b (separator + 1) (timeBytes time ++ [mark]) := by
    refine Shows.append_iff.mpr ⟨hClockBytes, ?_⟩
    rw [hBytes] at hOffsetBytes
    exact (Shows.append_iff.mp (show Shows b _ ([mark] ++ rest) from hOffsetBytes)).1
  have hSome : 0 < (offsetBytes offset).length := by
    rw [hBytes]
    exact Nat.succ_pos _
  have hPlace : afterSeparator b separator = separator + 1 := by
    rw [afterSeparator, h.at_eq]
    rfl
  have hStop := offsetPlace_eq hMark (startsOffset_timeBytes time) hStarts
    (show (timeBytes time).length < b.length by omega)
  obtain ⟨more, hClock⟩ := clock?_timeOfDay hTime hClockBytes rfl
  refine ⟨_, ?_, isTimeOfDay_parts hTime more⟩
  rw [time?, if_neg (by omega)]
  dsimp only
  rw [hPlace, hStop, hClock, Option.bind_eq_bind, Option.bind_some, if_neg (by omega),
    offset?_offsetBytes hWhole hOffsetBytes hEnd]
  rfl

end Rollup.Iso
