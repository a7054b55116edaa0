/-
# Calendar text of timestamps

A timestamp counts milliseconds since the start of 1970 in universal time. It is a
signed word of 64 bits, and so is a difference of two timestamps, which wraps around
where it does not fit one.

The text of a timestamp gives the date of the Gregorian calendar, extended to all years,
and the time of day down to the millisecond. Years of more than four digits are written
with their sign.
-/

import MessageBroker.Text.Digits

namespace MessageBroker

/-- Milliseconds since the start of 1970, universal time. -/
abbrev Timestamp := Int

namespace Timestamp

/-- The time from a start to now as a signed word of 64 bits: beyond its range the
difference wraps around. -/
def since (now start : Int) : Int := (now - start).bmod 0x10000000000000000

/-- Whether the time from a start to now fits a signed word of 64 bits. -/
def Fits (now start : Int) : Prop :=
  -0x8000000000000000 ≤ now - start ∧ now - start < 0x8000000000000000

instance (now start : Int) : Decidable (Fits now start) :=
  inferInstanceAs (Decidable (_ ∧ _))

variable {now start : Int}

theorem since_of_fits (h : Fits now start) : since now start = now - start := by
  obtain ⟨hlower, hupper⟩ := h
  exact Int.bmod_eq_of_le (by omega) (by omega)

@[simp] theorem since_self (t : Int) : since t t = 0 := by
  rw [since, Int.sub_self]
  rfl

/-- Wrapping around makes the time from an earlier start no longer. -/
theorem since_le (h : start ≤ now) : since now start ≤ now - start := by
  unfold since Int.bmod
  dsimp only
  split <;> omega

theorem fits_self (t : Int) : Fits t t := by
  unfold Fits
  omega

end Timestamp

namespace Calendar

/-- A date of the Gregorian calendar. -/
structure Date where
  year : Int
  month : Nat
  day : Nat
  deriving DecidableEq, Repr

/-- The date of a day counted from the start of 1970.

Years are taken to begin in March, so that the leap day is the last day of a year; then
eras of 400 years have equal lengths, and so have the five-month stretches of a year up
to its end. -/
def ofDays (days : Int) : Date :=
  let z := days + 719468
  let era := z.fdiv 146097
  let dayOfEra := (z.fmod 146097).toNat
  let yearOfEra := (dayOfEra - dayOfEra / 1460 + dayOfEra / 36524 - dayOfEra / 146096) / 365
  let dayOfYear := dayOfEra - (365 * yearOfEra + yearOfEra / 4 - yearOfEra / 100)
  let shifted := (5 * dayOfYear + 2) / 153
  let day := dayOfYear - (153 * shifted + 2) / 5 + 1
  let month := if shifted < 10 then shifted + 3 else shifted - 9
  let year := (yearOfEra : Int) + era * 400 + (if month ≤ 2 then 1 else 0)
  ⟨year, month, day⟩

/-- The text of a year: four digits, with a sign beyond them or below zero. -/
def yearText (year : Int) : String :=
  if year < 0 then "-" ++ Text.padded 4 (-year).toNat
  else if 9999 < year then "+" ++ toString year
  else Text.padded 4 year.toNat

/-- The text of a timestamp. -/
def render (t : Timestamp) : String :=
  let date := ofDays (t.fdiv 86400000)
  let ms := (t.fmod 86400000).toNat
  yearText date.year ++ "-" ++ Text.padded 2 date.month ++ "-" ++ Text.padded 2 date.day ++
    " " ++ Text.padded 2 (ms / 3600000) ++ ":" ++ Text.padded 2 (ms / 60000 % 60) ++
    ":" ++ Text.padded 2 (ms / 1000 % 60) ++ "." ++ Text.padded 3 (ms % 1000)

/-- The last year of the calendar. -/
def lastYear : Int := 262142

/-- The text of the time of an event; empty when there was none, which a timestamp of
zero or less says, and when the time lies beyond the calendar. -/
def ofTimestamp (t : Timestamp) : String :=
  if t ≤ 0 then ""
  else if lastYear < (ofDays (t.fdiv 86400000)).year then ""
  else render t

example : render 0 = "1970-01-01 00:00:00.000" := by decide +kernel
example : render 951782400007 = "2000-02-29 00:00:00.007" := by decide +kernel

end Calendar

end MessageBroker
