import Mathlib
import Rollup.Proofs.Http.Parameters
import Rollup.Proofs.Time.IsoReader
import Rollup.Time.Iso
import Rollup.Value

/-!
Written timestamps are read back. A timestamp whose offset has whole seconds is written with every
part that its reading needs and no other, and the reader finds each part at its place.
-/
namespace Rollup

open Number (padded digits bytes_padded length_digits)
open Text (bytes bytes_append)
open Iso

variable {micros time : Nat}

theorem bytes_fractionText (h : micros < 10 ^ 6) :
    bytes (fractionText micros) = fractionBytes micros := by
  rw [fractionText, fractionBytes]
  split
  · rfl
  · rw [bytes_append, bytes_padded (by decide) h]
    rfl

theorem bytes_hourMinuteText (h : time < day) :
    bytes (hourMinuteText time) = hourMinuteBytes time := by
  have hHours : time / hour < 10 ^ 2 := (hours_lt h).trans (by decide)
  rw [hourMinuteText, bytes_append, bytes_append, bytes_padded (by decide) hHours,
    bytes_padded (by decide) (mod_sixty_lt _), List.append_assoc]
  rfl

theorem bytes_secondText (time : Nat) :
    bytes (":" ++ padded 2 (time / second % 60)) = secondBytes time := by
  rw [bytes_append, bytes_padded (by decide) (mod_sixty_lt _)]
  rfl

/-- An offset of whole seconds is written without a fraction. -/
theorem Offset.bytes_toText {offset : Offset} (hWhole : offset.micros.natAbs % second = 0) :
    bytes offset.toText = offsetBytes offset := by
  have hMark : bytes (if offset.micros < 0 then "-" else "+") =
      [if offset.micros < 0 then hyphen else plus] := by
    split <;> rfl
  have hSeconds : bytes (if offset.micros.natAbs / second % 60 = 0 then "" else
      ":" ++ padded 2 (offset.micros.natAbs / second % 60) ++ fractionText 0) =
        wholeBytes offset.micros.natAbs := by
    rw [wholeBytes]
    split
    · rfl
    · rw [bytes_append, bytes_secondText]
      exact List.append_nil _
  simp only [toText, offsetBytes, hWhole, and_true]
  split
  · rfl
  · rw [bytes_append, bytes_append, hMark, hSeconds, bytes_hourMinuteText (natAbs_offset_lt offset),
      List.append_assoc, List.singleton_append]

namespace Timestamp

variable {t : Timestamp} {offset : Offset}

theorem timeOfDay_lt (t : Timestamp) : t.timeOfDay < day := Nat.mod_lt _ (by decide)

theorem day_lt (t : Timestamp) : t.wall / day < Calendar.dayCount := by
  rw [Nat.div_lt_iff_lt_mul (by decide)]
  exact t.wall_lt

/-- The reading of a timestamp lies in the calendar. -/
theorem ofWall?_wall (t : Timestamp) : ofWall? t.wall t.offset = some t := by
  simp [ofWall?, t.wall_lt]

/-- The bytes of a timestamp are those of its parts. -/
theorem bytes_toText (hOffset : t.offset = some offset)
    (hWhole : offset.micros.natAbs % second = 0) :
    bytes t.toText = dateBytes t.date ++ 0x54 :: (timeBytes t.timeOfDay ++ offsetBytes offset) := by
  obtain ⟨hYear, hMonth, hDay⟩ :=
    Calendar.Date.isValid_bounds (Calendar.ofDay_spec t.day_lt).1
  have hFraction : t.timeOfDay % second < 10 ^ 6 := Nat.mod_lt _ (by decide)
  have hSeconds := bytes_secondText t.timeOfDay
  have hHyphen : bytes "-" = [hyphen] := rfl
  have hMark : bytes "T" = [0x54] := rfl
  rw [bytes_append] at hSeconds
  simp only [toText, hOffset, bytes_append, bytes_hourMinuteText t.timeOfDay_lt, hHyphen, hMark,
    bytes_fractionText hFraction, Offset.bytes_toText hWhole, dateBytes, timeBytes, ← hSeconds,
    List.append_assoc, List.cons_append, List.nil_append]
  rw [date, bytes_padded (by decide) hYear, bytes_padded (by decide) hMonth,
    bytes_padded (by decide) hDay]

/-- A timestamp is read back from its text as it is. -/
theorem ofText?_toText (hOffset : t.offset = some offset)
    (hWhole : (second : Int) ∣ offset.micros) : ofText? t.toText = some t := by
  have hRest : offset.micros.natAbs % second = 0 :=
    Nat.mod_eq_zero_of_dvd (Int.natCast_dvd.mp hWhole)
  obtain ⟨hValid, hNumber⟩ := Calendar.ofDay_spec t.day_lt
  have hBytes := bytes_toText hOffset hRest
  have hLength := congrArg List.length hBytes
  have hShows : Shows (bytes t.toText) 0
      (dateBytes t.date ++ 0x54 :: (timeBytes t.timeOfDay ++ offsetBytes offset)) := by
    rw [← hBytes]
    exact Shows.refl _
  rw [List.length_append, length_dateBytes, List.length_cons, List.length_append] at hLength
  obtain ⟨hDateBytes, hTimeBytes⟩ := Shows.append_iff.mp hShows
  rw [length_dateBytes] at hTimeBytes
  obtain ⟨hSeparator, hDate⟩ := date?_dateBytes hValid hDateBytes (by omega)
  obtain ⟨clock, hTime, hClock, hTotal⟩ := time?_eq t.timeOfDay_lt hWhole hTimeBytes (by omega)
  have hWall : t.date.dayNumber * day + clock.total = t.wall := by
    rw [hTotal, date, hNumber, timeOfDay]
    exact Nat.div_add_mod' t.wall day
  rw [ofText?]
  dsimp only
  rw [hSeparator, Option.bind_eq_bind, Option.bind_some, hDate, Option.bind_eq_bind,
    Option.bind_some, hTime]
  change (if clock.isTimeOfDay = true then
    ofWall? (t.date.dayNumber * day + clock.total : Nat) (some offset) else none) = some t
  rw [if_pos hClock, hWall, ← hOffset, ofWall?_wall]

end Timestamp

/-- The clock of a timestamp runs ahead of universal time by whole seconds. -/
def Timestamp.WholeOffset (t : Timestamp) : Prop :=
  ∃ offset, t.offset = some offset ∧ (second : Int) ∣ offset.micros

namespace Window

variable {t : Timestamp}

theorem given_toText (h : t.WholeOffset) : t.Given (some t.toText) := by
  obtain ⟨offset, hOffset, hWhole⟩ := h
  refine ⟨⟨t.toText, rfl, Timestamp.ofText?_toText hOffset hWhole⟩, ?_⟩
  rw [Timestamp.isAware, hOffset, Option.isSome_some]

/-- Timestamps that are given out are accepted as they are: alone, and as the ends of a window that
the limit allows. -/
theorem accepts_written :
    (∀ t : Timestamp, t.WholeOffset →
      (Value.time t).plain = .text t.toText ∧ ∀ name, timeOf name (some t.toText) = .ok t) ∧
      ∀ a b : Timestamp, a.WholeOffset → b.WholeOffset → a.position ≤ b.position →
        ∀ (limit : Option Int) (label : String),
          (∀ longest ∈ limit, b.position - a.position ≤ longest) →
            ofTexts (some a.toText) (some b.toText) limit label = .ok ⟨a, b⟩ := by
  constructor
  · intro t hOffset
    refine ⟨by rw [Value.plain], fun name => ?_⟩
    exact timeOf_eq_ok_iff.mpr (given_toText hOffset)
  · intro a b hA hB hOrder limit label hLimit
    exact ofTexts_eq_ok_iff.mpr ⟨given_toText hA, given_toText hB, hOrder, hLimit⟩

/-- A clock that is three and a half hours and some seconds late, and one of universal time. -/
theorem accepts_written_late :
    let late : Offset := ⟨-(12615 * second), by decide, by decide⟩
    let a : Timestamp := ⟨738000 * day + 1234567, some late, by decide⟩
    let b : Timestamp := .universal (738000 * day + 6 * hour)
    a.WholeOffset ∧ b.WholeOffset ∧ a.position ≤ b.position ∧
      (∀ longest ∈ some defaultLimit, b.position - a.position ≤ longest) ∧
        (Value.time a).plain = .text a.toText ∧ timeOf "start" (some a.toText) = .ok a ∧
          ofTexts (some a.toText) (some b.toText) (some defaultLimit) "" = .ok ⟨a, b⟩ := by
  intro late a b
  have hA : a.WholeOffset := ⟨late, rfl, by decide⟩
  have hB : b.WholeOffset := ⟨.zero, rfl, by decide⟩
  have hOrder : a.position ≤ b.position := by decide
  have hLimit : ∀ longest ∈ some defaultLimit, b.position - a.position ≤ longest := by
    rintro _ ⟨⟩
    decide
  obtain ⟨hAlone, hWindow⟩ := accepts_written
  exact ⟨hA, hB, hOrder, hLimit, (hAlone a hA).1, (hAlone a hA).2 "start",
    hWindow a b hA hB hOrder _ _ hLimit⟩

end Window

end Rollup
