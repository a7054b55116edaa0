/-
# Limiting message rates

A limiter counts the messages that pass a destination. Time is divided into windows of
one length; a window of a counter begins with the first check at or after the end of
the one before. A check asks the counter of the destination first and the counter of
the client second, and a message is counted only when neither refuses it: a slot that was
taken from the destination is given back when the client's counter refuses.

Counters of clients come into being with their first check. Refusals are recorded for
management, by direction and by the counter that refused.
-/

import Std.Data.ExtTreeMap
import MessageBroker.Stats.LastEvent
import MessageBroker.Throttle.Settings
import MessageBroker.Time.Span

open Std

namespace MessageBroker

/-- The name of a client. -/
abbrev ClientId := String

/-- The answer of a limiter. -/
inductive Verdict where
  | allow
  /-- Refused, and the sender sees an error. -/
  | denyError
  /-- Refused silently. -/
  | denyIgnore
  deriving DecidableEq, Repr, Inhabited

namespace Verdict

/-- Whether a message may pass. -/
def isAllowed : Verdict → Bool
  | allow => true
  | _ => false

/-- The verdict that counts when two disagree: an error before a silent refusal, and
either before an admission. -/
def stricter : Verdict → Verdict → Verdict
  | denyError, _ => denyError
  | _, denyError => denyError
  | denyIgnore, _ => denyIgnore
  | _, denyIgnore => denyIgnore
  | allow, allow => allow

/-- The refusal that a policy asks for. -/
def refusal : Policy → Verdict
  | .none => allow
  | .error => denyError
  | .ignore => denyIgnore

end Verdict

/-- The counter that refused a message. -/
inductive Level where
  | client
  | destination
  deriving DecidableEq, Repr

/-- The messages counted since the start of the current window. -/
structure Window where
  start : Timestamp
  count : Nat
  lastViolation : Option Timestamp
  deriving DecidableEq, Repr, Inhabited

namespace Window

/-- A counter that was never used. -/
def fresh : Window := ⟨0, 0, none⟩

/-- Begins a new window at a time, if the current one has lasted its length. -/
def roll (w : Window) (length : Int) (now : Timestamp) : Window :=
  if length ≤ Timestamp.since now w.start then { w with start := now, count := 0 } else w

/-- Counts one message, unless the window holds `ceiling` messages already. -/
def acquire (w : Window) (length : Int) (ceiling : Nat) (now : Timestamp) : Window × Bool :=
  let w := w.roll length now
  if ceiling ≤ w.count then ({ w with lastViolation := some now }, false)
  else ({ w with count := w.count + 1 }, true)

/-- Gives one slot back. -/
def release (w : Window) : Window := { w with count := w.count - 1 }

end Window

/-- The counters of both directions. -/
abbrev Windows := PerDirection Window

/-- Counters that were never used. -/
def Windows.fresh : Windows := ⟨.fresh, .fresh⟩

/-- How often a counter refused, and when it last did. -/
structure Refusals where
  count : Nat
  last : LastEvent
  deriving DecidableEq, Repr, Inhabited

namespace Refusals

/-- No refusal so far. -/
def none : Refusals := ⟨0, .never⟩

/-- Records one more refusal. -/
def record (r : Refusals) (now : Timestamp) : Refusals := ⟨r.count + 1, ⟨now⟩⟩

end Refusals

/-- The refusals of one direction by the counter that refused. -/
structure RefusalsByLevel where
  client : Refusals
  destination : Refusals
  deriving DecidableEq, Repr, Inhabited

namespace RefusalsByLevel

/-- No refusals so far. -/
def none : RefusalsByLevel := ⟨.none, .none⟩

/-- The refusals at a level. -/
def get (r : RefusalsByLevel) : Level → Refusals
  | .client => r.client
  | .destination => r.destination

/-- Records one more refusal at a level. -/
def record (r : RefusalsByLevel) (now : Timestamp) : Level → RefusalsByLevel
  | .client => { r with client := r.client.record now }
  | .destination => { r with destination := r.destination.record now }

/-- The refusals for management. -/
def toDocument (r : RefusalsByLevel) : Document :=
  .ofMembers
    [("client_throttled", .ofNat r.client.count),
     ("client_last_throttled", .ofInt? r.client.last.get?),
     ("destination_throttled", .ofNat r.destination.count),
     ("destination_last_throttled", .ofInt? r.destination.last.get?)]

end RefusalsByLevel

/-- The counters of a destination with its settings. -/
structure Limiter where
  window : Span
  settings : ThrottleSettings
  destination : Windows
  clients : ExtTreeMap ClientId Windows
  refusals : PerDirection RefusalsByLevel

namespace Limiter

/-- A limiter with unused counters; the settings have to be valid. -/
def create (settings : ThrottleSettings) (window : Span) :
    Except ThrottleSettings.Error Limiter := do
  settings.validate
  return ⟨window, settings, .fresh, ∅, ⟨.none, .none⟩⟩

/-- Replaces the settings, which have to be valid; the counters stay. -/
def configure (l : Limiter) (settings : ThrottleSettings) :
    Except ThrottleSettings.Error Limiter := do
  settings.validate
  return { l with settings }

/-- Clears every counter and all records of refusals. -/
def reset (l : Limiter) : Limiter :=
  { l with destination := .fresh, clients := ∅, refusals := ⟨.none, .none⟩ }

/-- Clears the records of refusals of a direction. -/
def resetRefusals (l : Limiter) (d : Direction) : Limiter :=
  { l with refusals := l.refusals.set d .none }

/-- The number of messages that a frequency allows in one window: a fraction counts as
a whole message, and at least one message is allowed. -/
def ceiling (l : Limiter) (frequency : Nat) : Nat :=
  max 1 ((frequency * l.window.ms + 999) / 1000)

/-- The length of a window as the counters measure it. -/
def windowLength (l : Limiter) : Int := l.window.signedMs

/-- The limit of a client that may ask for a lower one itself. Zero is no limit. -/
def clientFrequency (configured : Nat) (requested : Option Nat) : Nat :=
  match configured, requested.filter (0 < ·) with
  | 0, some r => r
  | n, some r => min n r
  | n, none => n

/-- The counters of a client; unused ones for a client without any. -/
def windowsOf (l : Limiter) (c : ClientId) : Windows := l.clients[c]?.getD .fresh

/-- Records a refusal and answers it as the policy says. -/
def refuse (l : Limiter) (d : Direction) (level : Level) (now : Timestamp) : Limiter × Verdict :=
  ({ l with refusals := l.refusals.set d ((l.refusals.get d).record now level) },
    .refusal (l.settings.get d).policy)

/-- Asks the counter of the destination. -/
def acquireDestination (l : Limiter) (d : Direction) (frequency : Nat) (now : Timestamp) :
    Limiter × Bool :=
  let (w, admitted) := (l.destination.get d).acquire l.windowLength (l.ceiling frequency) now
  ({ l with destination := l.destination.set d w }, admitted)

/-- Asks the counter of a client. -/
def acquireClient (l : Limiter) (d : Direction) (c : ClientId) (frequency : Nat)
    (now : Timestamp) : Limiter × Bool :=
  let ws := l.windowsOf c
  let (w, admitted) := (ws.get d).acquire l.windowLength (l.ceiling frequency) now
  ({ l with clients := l.clients.insert c (ws.set d w) }, admitted)

/-- Gives back a slot of the destination. -/
def releaseDestination (l : Limiter) (d : Direction) : Limiter :=
  { l with destination := l.destination.set d (l.destination.get d).release }

/-- Checks one message of a client. `requested` is a limit that the client asked for
itself; it can only lower the configured one. -/
def check (l : Limiter) (d : Direction) (c : ClientId) (requested : Option Nat)
    (now : Timestamp) : Limiter × Verdict :=
  let limits := l.settings.get d
  let frequency := clientFrequency limits.client requested
  if limits.policy = .none then (l, .allow)
  else if limits.destination = 0 ∧ frequency = 0 then (l, .allow)
  else
    let (l, admitted) :=
      if limits.destination = 0 then (l, true) else l.acquireDestination d limits.destination now
    if !admitted then l.refuse d .destination now
    else if frequency = 0 then (l, .allow)
    else
      let (l, admitted) := l.acquireClient d c frequency now
      if admitted then (l, .allow)
      else
        let l := if limits.destination = 0 then l else l.releaseDestination d
        l.refuse d .client now

/-- Gives back the slots that an admitted message took, when it fails later on. -/
def releaseInbound (l : Limiter) (c : ClientId) : Limiter :=
  let limits := l.settings.inbound
  if limits.policy = .none then l
  else
    let l := if limits.destination = 0 then l else l.releaseDestination .inbound
    if limits.client = 0 then l
    else
      match l.clients[c]? with
      | none => l
      | some ws => { l with clients := l.clients.insert c (ws.set .inbound ws.inbound.release) }

/-- Drops the counters of a client. -/
def removeClient (l : Limiter) (c : ClientId) : Limiter :=
  { l with clients := l.clients.erase c }

/-- The number of clients with counters. -/
def clientCount (l : Limiter) : Nat := l.clients.size

end Limiter

end MessageBroker
