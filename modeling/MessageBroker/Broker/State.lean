/-
# The state of a broker

All that a node remembers: its destinations with their subscriptions, counters and
totals, the sessions of its clients, which destination each subscription belongs to,
the hooks, and the journal of what it did to the world around it. A broker is a value;
operations make new ones.
-/

import Std.Data.ExtTreeMap
import MessageBroker.Environment
import MessageBroker.Error
import MessageBroker.Settings.Basic
import MessageBroker.Stats.Gauge
import MessageBroker.Subscription.Registry
import MessageBroker.Subscription.Remote

open Std

namespace MessageBroker

/-- What happened at a destination, in numbers. -/
structure Totals where
  subscriptions : Gauge
  received : Nat
  fromPeers : Nat
  fromAdapter : Nat
  delivered : Nat
  deliveryFailures : Nat
  inboundThrottled : Nat
  outboundThrottled : Nat
  expired : Nat
  forwarded : Nat
  lastExpired : LastEvent
  deriving DecidableEq, Repr, Inhabited

/-- Nothing has happened. -/
def Totals.zero : Totals := ⟨.zero, 0, 0, 0, 0, 0, 0, 0, 0, 0, .never⟩

/-- A destination with all that changes about it. -/
structure Destination where
  id : DestinationId
  settings : DestinationSettings
  adapter : Adapter
  limiter : Limiter
  registry : Registry
  remote : RemoteKeys
  totals : Totals
  sendConstraint : Option Constraint
  subscribeConstraint : Option Constraint
  started : Bool
  /-- Whether queued changes of keys are being told to the cluster. -/
  announcing : Bool

/-- Refuses a destination that is not started. -/
def Destination.requireStarted (d : Destination) : Except BrokerError Unit :=
  if d.started then .ok () else .error (.notStarted d.id)

/-- The session of a client. -/
structure Session where
  connectedAt : Timestamp
  principal : Option Principal
  subscriptions : ExtTreeMap SubscriptionId DestinationId
  lastActivity : Timestamp

/-- A session that begins. -/
def Session.begin (now : Timestamp) : Session := ⟨now, none, ∅, now⟩

/-- Records activity; time never goes back. -/
def Session.touch (s : Session) (now : Timestamp) : Session :=
  { s with lastActivity := max s.lastActivity now }

/-- A node. -/
structure Broker where
  settings : Settings
  /-- In ascending order of their names. -/
  destinations : List Destination
  sessions : ExtTreeMap ClientId Session
  /-- The destination of each subscription. -/
  owners : ExtTreeMap SubscriptionId DestinationId
  hooks : HookTable
  sessionGauge : Gauge
  subscriptionGauge : Gauge
  nextSubscription : SubscriptionId
  /-- The timer of the sweeper: milliseconds since its start or its last run. -/
  sweeper : Option Nat
  /-- What the broker did to the world around it, oldest first. -/
  journal : List Event

namespace Broker

/-- The names of the destinations, in ascending order. -/
def destinationIds (b : Broker) : List DestinationId := b.destinations.map (·.id)

/-- The destination of a name. -/
def destination? (b : Broker) (id : DestinationId) : Option Destination :=
  b.destinations.find? fun d => d.id == id

/-- The destination of a name, which has to exist. -/
def requireDestination (b : Broker) (id : DestinationId) : Except BrokerError Destination :=
  match b.destination? id with
  | some d => .ok d
  | none => .error (.unknownDestination id)

/-- The destination of a name, which has to exist and to be started. -/
def requireStarted (b : Broker) (id : DestinationId) : Except BrokerError Destination := do
  let d ← b.requireDestination id
  d.requireStarted
  return d

/-- Changes the destination of a name. -/
def onDestination (b : Broker) (id : DestinationId) (change : Destination → Destination) :
    Broker :=
  { b with destinations := b.destinations.map fun d => if d.id = id then change d else d }

/-- Changes the totals of a destination. -/
def onTotals (b : Broker) (id : DestinationId) (change : Totals → Totals) : Broker :=
  b.onDestination id fun d => { d with totals := change d.totals }

/-- Changes the session of a client, if there is one. -/
def onSession (b : Broker) (c : ClientId) (change : Session → Session) : Broker :=
  match b.sessions[c]? with
  | none => b
  | some s => { b with sessions := b.sessions.insert c (change s) }

/-- Adds an event to the journal. -/
def record (b : Broker) (e : Event) : Broker := { b with journal := b.journal ++ [e] }

/-- Writes a log line. -/
def log (b : Broker) (level : LogLevel) (text : String) : Broker := b.record (.log level text)

/-- The principal of a client. -/
def principal? (b : Broker) (c : ClientId) : Option Principal :=
  (b.sessions[c]?).bind (·.principal)

/-- Records activity of a client; nothing happens for an unknown one. -/
def touch (b : Broker) (c : ClientId) (now : Timestamp) : Broker := b.onSession c (·.touch now)

/-- The subscription with a number. -/
def subscription? (b : Broker) (id : SubscriptionId) : Option Subscription := do
  let owner ← b.owners[id]?
  let d ← b.destination? owner
  d.registry.get? id

/-- A broker as a line of text. -/
def toText (b : Broker) : String :=
  "ServerContext \x7b node: " ++ toString b.settings.node ++
    ", destinations: " ++ toString b.destinations.length ++
    ", sessions: " ++ toString b.sessions.size ++
    ", subscriptions: " ++ toString b.owners.size ++ " \x7d"

/-- The broker with an empty journal, and the journal. -/
def takeJournal (b : Broker) : Broker × List Event := ({ b with journal := [] }, b.journal)

end Broker

/-- A destination as a line of text. -/
def Destination.toText (d : Destination) : String :=
  "Destination \x7b id: " ++ d.id ++ ", adapter: " ++ d.adapter.kind.toText ++
    ", started: " ++ toString d.started ++
    ", subscriptions: " ++ toString d.registry.size ++ " \x7d"

end MessageBroker
