/-
# Spans of time

Settings give spans of time as a whole number of milliseconds, or as a text that adds
up amounts of days, hours, minutes, seconds and milliseconds, such as `1m30s`. A span
is below 2^64 milliseconds; a text whose sum is not is no span.
-/

import MessageBroker.Document.Reading
import MessageBroker.Text.Blank
import MessageBroker.Text.Digits

namespace MessageBroker

/-- A span of time in whole milliseconds. -/
structure Span where
  ms : Nat
  deriving DecidableEq, Repr, Inhabited

namespace Span

/-- The span of no length. -/
def zero : Span := ⟨0⟩

/-- A number of whole seconds. -/
def ofSeconds (s : Nat) : Span := ⟨s * 1000⟩

/-- Whether a span has no length. -/
def isZero (d : Span) : Bool := d.ms = 0

/-- The units of amounts, with their lengths in milliseconds. -/
def unitLength? : List Char → Option Nat
  | ['m', 's'] => some 1
  | ['s'] => some 1000
  | ['m'] => some 60000
  | ['h'] => some 3600000
  | ['d'] => some 86400000
  | _ => none

/-- A number as long as it fits a 64-bit word. -/
def word? (n : Nat) : Option Nat := if n < Text.word64 then some n else none

/-- The sum of the amounts of a text, after a sum already made. An amount is a run of
digits and the run of other characters after it, which names the unit. The fuel is the
number of characters. -/
def sumAmounts? : Nat → Nat → List Char → Option Nat
  | _, total, [] => some total
  | 0, _, _ => none
  | fuel + 1, total, cs => do
    let digits := cs.takeWhile Char.isDigit
    let rest := cs.dropWhile Char.isDigit
    let amount ← (Text.readDigits? digits).bind word?
    let length ← unitLength? (rest.takeWhile fun c => !c.isDigit)
    let part ← word? (amount * length)
    let total ← word? (total + part)
    sumAmounts? fuel total (rest.dropWhile fun c => !c.isDigit)

/-- The characters of a text without blanks around them and in lower case. -/
def normalize (s : String) : List Char := (Text.trimChars s.toList).map Char.toLower

/-- Reads a span from a text. A number without unit counts milliseconds. -/
def ofText? (s : String) : Option Span :=
  let cs := normalize s
  if cs.isEmpty then none
  else
    match (Text.readUnsigned? cs).bind word? with
    | some n => some ⟨n⟩
    | none => (sumAmounts? cs.length 0 cs).map fun n => ⟨n⟩

/-- Reads a span from a text, taking anything that is none as no time at all. -/
def ofTextOrZero (s : String) : Span := (ofText? s).getD zero

/-- The text of a span in the largest fitting of the units second and millisecond. -/
def toText (d : Span) : String :=
  if d.ms = 0 then "0ns"
  else if d.ms < 1000 then toString d.ms ++ "ms"
  else
    let places := (Text.padded 3 (d.ms % 1000)).toList.reverse.dropWhile (· = '0')
    let fraction := if places.isEmpty then "" else "." ++ String.ofList places.reverse
    toString (d.ms / 1000) ++ fraction ++ "s"

/-- Reads a span from a document: a number of milliseconds or a text. Neither manner
converts anything else. -/
def ofDocument : Document → Read.Result Span
  | .int i => if 0 ≤ i ∧ i < 0x10000000000000000 then .ok ⟨i.toNat⟩ else .error .shape
  | .text s =>
    match ofText? s with
    | some d => .ok d
    | none => .error (.unknownDuration s)
  | _ => .error .shape

/-- A span as a number of milliseconds. -/
def toDocument (d : Span) : Document := .int d.ms

/-- The milliseconds of a span as a signed 64-bit word: beyond its range the number
wraps around. -/
def signedMs (d : Span) : Int := (d.ms : Int).bmod 0x10000000000000000

theorem signedMs_of_lt (d : Span) (h : d.ms < 0x8000000000000000) : d.signedMs = d.ms :=
  Int.bmod_eq_of_le (by omega) (by omega)

/-- The milliseconds of a span, or the largest signed 64-bit word if there are more. -/
def clampedMs (d : Span) : Int := min d.ms (0x8000000000000000 - 1)

end Span

end MessageBroker
