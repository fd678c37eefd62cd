import Rollup.Time.Timestamp
import Rollup.Text.Utf8

/-!
Reads a timestamp from ISO 8601 text: a date in calendar or week form, with or without hyphens, then
any one character, a time of day with or without colons, and an offset. The reader works on bytes;
behind the end of the text it sees zero bytes, which belong to no part of the grammar.
-/
namespace Rollup
namespace Iso

/-- The byte at a place, zero behind the end. -/
def at? (b : List Nat) (place : Nat) : Nat := b.getD place 0

/-- Whether a byte is an ASCII digit. -/
def isDigit (byte : Nat) : Bool := 0x30 ≤ byte && byte ≤ 0x39

/-- The number written by `count` digits from a place on, if they are all digits. -/
def number? (b : List Nat) (place : Nat) : (count : Nat) → Option Nat
  | 0 => some 0
  | count + 1 => do
    let front ← number? b place count
    let last := at? b (place + count)
    if isDigit last then some (10 * front + (last - 0x30)) else none

/-- The first place from `place` on whose byte is no digit, at most `fuel` places further. -/
def skipDigits (b : List Nat) (place : Nat) : (fuel : Nat) → Nat
  | 0 => place
  | fuel + 1 => if isDigit (at? b place) then skipDigits b (place + 1) fuel else place

def hyphen : Nat := 0x2d
def colon : Nat := 0x3a
def dot : Nat := 0x2e
def comma : Nat := 0x2c
def plus : Nat := 0x2b
def weekMark : Nat := 0x57
def zuluMark : Nat := 0x5a

/-- Where the date ends. A week date without a day is told from one with a day by what follows its
digits; where both readings are possible, by whether the number of digits is even. -/
def separator? (b : List Nat) : Option Nat :=
  let n := b.length
  if n < 7 then none
  else if n = 7 then some 7
  else if at? b 4 = hyphen then
    if at? b 5 = weekMark then
      if 8 < n ∧ at? b 8 = hyphen then
        if n = 9 then none
        else if 10 < n ∧ isDigit (at? b 10) then some 8
        else some 10
      else some 8
    else some 10
  else if at? b 4 = weekMark then
    let stop := skipDigits b 7 (n - 7)
    if stop < 9 then some stop
    else if stop % 2 = 0 then some 7
    else some 8
  else some 8

/-- The date in front of the separator. Its parts are divided by hyphens iff one follows the
year. -/
def date? (b : List Nat) (separator : Nat) : Option Calendar.Date := do
  let year ← number? b 0 4
  let hyphened := at? b 4 = hyphen
  let place := if hyphened then 5 else 4
  if at? b place = weekMark then
    let week ← number? b (place + 1) 2
    let place := place + 3
    if place < separator then
      if hyphened then
        if at? b place = hyphen then
          let weekday ← number? b (place + 1) 1
          Calendar.ofWeek? year week weekday
        else none
      else
        let weekday ← number? b place 1
        Calendar.ofWeek? year week weekday
    else Calendar.ofWeek? year week 1
  else
    let month ← number? b place 2
    let place := place + 2
    if hyphened then
      if at? b place = hyphen then
        let day ← number? b (place + 1) 2
        let date : Calendar.Date := ⟨year, month, day⟩
        if date.isValid then some date else none
      else none
    else
      let day ← number? b place 2
      let date : Calendar.Date := ⟨year, month, day⟩
      if date.isValid then some date else none

/-- A time of day or the size of an offset: hours, minutes and seconds as far as they are written,
microseconds, and whether anything follows. -/
structure Clock where
  fields : List Nat
  micros : Nat
  rest : Bool

/-- One of the fields by its place, zero if it is not written. -/
def Clock.field (c : Clock) (place : Nat) : Nat := c.fields.getD place 0

/-- The fraction from a place on: up to six digits count and further ones are skipped. -/
def fraction? (b : List Nat) (fields : List Nat) (place stop : Nat) : Option Clock := do
  let count := min 6 (stop - place)
  let digits ← number? b place count
  let after := skipDigits b (place + count) b.length
  some ⟨fields, digits * Nat.pow 10 (6 - count), at? b after != 0⟩

/-- The two-digit fields from a place on, `left` of them at most. Whether colons divide them is
settled by the byte after the first. After the last field, or a dot or comma, comes a fraction. -/
def fields? (b : List Nat) (stop : Nat) :
    (left : Nat) → (colons : Option Bool) → (fields : List Nat) → (place : Nat) → Option Clock
  | 0, _, fields, place => fraction? b fields place stop
  | left + 1, colons, fields, place => do
    let value ← number? b place 2
    let next := at? b (place + 2)
    let colons := colons.getD (next = colon)
    let fields := fields ++ [value]
    if stop ≤ place + 3 then some ⟨fields, 0, next != 0⟩
    else if colons && next = colon then fields? b stop left (some colons) fields (place + 3)
    else if next = dot ∨ next = comma then fraction? b fields (place + 3) stop
    else if colons then none
    else fields? b stop left (some colons) fields (place + 2)

/-- A time of day or the size of an offset between two places. -/
def clock? (b : List Nat) (place stop : Nat) : Option Clock :=
  fields? b stop 3 none [] place

/-- Whether a byte starts an offset. -/
def startsOffset (byte : Nat) : Bool :=
  byte == plus || byte == hyphen || byte == zuluMark

/-- The first place after `place` that starts an offset, or the end of the text; `place` itself
counts first. -/
def offsetPlace (b : List Nat) (place : Nat) : (fuel : Nat) → Nat
  | 0 => place
  | fuel + 1 =>
    if startsOffset (at? b place) then place
    else if place + 1 < b.length then offsetPlace b (place + 1) fuel
    else place + 1

/-- The microseconds of hours, minutes, seconds and a fraction. -/
def Clock.total (c : Clock) : Nat :=
  c.field 0 * hour + c.field 1 * (60 * second) + c.field 2 * second + c.micros

/-- The offset from a place on. One of no whole second is universal time. -/
def offset? (b : List Nat) (place : Nat) : Option Offset :=
  if at? b place = zuluMark then
    if at? b (place + 1) = 0 then some .zero else none
  else do
    let size ← clock? b (place + 1) b.length
    if size.rest then none
    else if size.total < second then some .zero
    else Offset.ofMicros? (if at? b place = hyphen then -(size.total : Int) else size.total)

/-- The place after the separator, which is one character of any length. -/
def afterSeparator (b : List Nat) (separator : Nat) : Nat :=
  let byte := at? b separator
  if byte < 0x80 then separator + 1
  else if byte / 16 = 0xe then separator + 3
  else if byte / 16 = 0xf then separator + 4
  else separator + 2

/-- The time of day and the offset after the separator; midnight if the text ends there. -/
def time? (b : List Nat) (separator : Nat) : Option (Clock × Option Offset) :=
  if b.length ≤ separator then some (⟨[], 0, false⟩, none)
  else do
    let place := afterSeparator b separator
    let stop := offsetPlace b place b.length
    let clock ← clock? b place stop
    if stop = b.length then
      if clock.rest then none else some (clock, none)
    else
      let offset ← offset? b stop
      some (clock, some offset)

/-- Whether the fields show a time of day. -/
def Clock.isTimeOfDay (c : Clock) : Bool :=
  decide (c.field 0 < 24 ∧ c.field 1 < 60 ∧ c.field 2 < 60)

end Iso

/-- The timestamp that a text writes, if it writes one. -/
def Timestamp.ofText? (text : String) : Option Timestamp := do
  let b := Text.bytes text
  let separator ← Iso.separator? b
  let date ← Iso.date? b separator
  let (clock, offset) ← Iso.time? b separator
  if clock.isTimeOfDay then
    Timestamp.ofWall? (date.dayNumber * day + clock.total : Nat) offset
  else none

end Rollup
