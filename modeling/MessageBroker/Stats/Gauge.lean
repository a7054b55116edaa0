/-
# Gauges

A gauge follows a number that goes up and down, and the highest value it has had since
it was created or reset. Operators read both: the present load and the peak.
-/

import MessageBroker.Document.Reading

namespace MessageBroker

/-- A current value with the highest value seen. -/
structure Gauge where
  count : Int
  max : Int
  deriving DecidableEq, Repr, Inhabited

namespace Gauge

/-- A gauge at a value whose peak is the given one, or the value if that is higher. -/
def ofCount (count peak : Int) : Gauge := ⟨count, Max.max peak count⟩

/-- A gauge at zero. -/
def zero : Gauge := ofCount 0 0

/-- Raises the value; a negative amount lowers it. -/
def add (g : Gauge) (n : Int) : Gauge := ⟨g.count + n, Max.max g.max (g.count + n)⟩

/-- Raises the value by one. -/
def inc (g : Gauge) : Gauge := g.add 1

/-- Lowers the value, but not below zero. The peak stays. -/
def sub (g : Gauge) (n : Int) : Gauge := ⟨Max.max (g.count - n) 0, g.max⟩

/-- Lowers the value by one, but not below zero. -/
def dec (g : Gauge) : Gauge := g.sub 1

/-- Sets the value. -/
def set (g : Gauge) (n : Int) : Gauge := ⟨n, Max.max g.max n⟩

/-- Clears the value and starts the peak from zero. -/
def reset (_ : Gauge) : Gauge := ⟨0, 0⟩

/-- A second gauge with the same readings. -/
def copy (g : Gauge) : Gauge := ofCount g.count g.max

/-- The readings as a table. -/
def toDocument (g : Gauge) : Document :=
  .ofMembers [("count", .int g.count), ("max", .int g.max)]

/-- The fields of the readings. -/
def fields : List (Read.Field (Option Int × Option Int)) :=
  [⟨"count", fun d g => do return (some (← Read.int64 d), g.2)⟩,
   ⟨"max", fun d g => do return (g.1, some (← Read.int64 d))⟩]

/-- Reads a gauge from its readings, both of which have to be given. -/
def ofDocument (d : Document) : Read.Result Gauge := do
  let (count, peak) ← Read.record .strict fields (none, none) d
  return ofCount (← Read.required count) (← Read.required peak)

/-- The readings as a line of text. -/
def toText (g : Gauge) : String :=
  "\x7b \"count\":" ++ toString g.count ++ ", \"max\":" ++ toString g.max ++ " \x7d"

end Gauge

end MessageBroker
