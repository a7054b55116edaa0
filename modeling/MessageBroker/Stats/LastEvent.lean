/-
# Time of the last event

The time at which something last happened. Zero stands for "never", so an event at
time zero is not told from none.
-/

import MessageBroker.Document
import MessageBroker.Time.Calendar

namespace MessageBroker

/-- The time of the latest event of some kind. -/
structure LastEvent where
  stamp : Timestamp
  deriving DecidableEq, Repr, Inhabited

namespace LastEvent

/-- No event so far. -/
def never : LastEvent := ⟨0⟩

/-- The time of the latest event, if there was one. -/
def get? (e : LastEvent) : Option Timestamp := if e.stamp = 0 then none else some e.stamp

/-- The calendar text of the time, or null. -/
def toDocument (e : LastEvent) : Document :=
  .ofText? (e.get?.map Calendar.ofTimestamp)

end LastEvent

end MessageBroker
