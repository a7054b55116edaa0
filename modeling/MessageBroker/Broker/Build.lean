/-
# Building a broker

A broker is built from accepted settings and from what it will work with. Messages can
only be delivered with a transport, destinations that share messages between nodes need
a cluster, and every bridge and every adapter of the application that a destination
names must be there. Nothing is started yet.
-/

import MessageBroker.Broker.State

open Std

namespace MessageBroker

/-- What a broker is built to work with. -/
structure Equipment where
  transport : Bool
  cluster : Bool
  bridges : List String
  customs : List String
  deriving DecidableEq, Repr, Inhabited

namespace Equipment

/-- The adapter that a destination is configured with. -/
def adapterFor (e : Equipment) (s : DestinationSettings) : Except BrokerError Adapter :=
  match s.adapter, s.adapterRef.getD "" with
  | .plain, _ => .ok .plain
  | kind, "" => .error (.missingAdapterRef s.id kind)
  | .jms, name => if name ∈ e.bridges then .ok (.bridge name) else .error (.unknownBridge s.id name)
  | .custom, name =>
    if name ∈ e.customs then .ok (.custom name) else .error (.unknownAdapter s.id name)

end Equipment

/-- Makes an error of the settings one of the broker. -/
def ofSettings (r : Except SettingsError α) : Except BrokerError α := r.mapError .settings

/-- Makes an error of throttle settings one of the broker. -/
def ofThrottle (r : Except ThrottleSettings.Error α) : Except BrokerError α :=
  r.mapError fun e => .settings (.throttle e)

namespace Destination

/-- A destination that is not started, from its settings. Only a destination whose
subscriptions are shared between nodes tracks its keys. -/
def create (settings : Settings) (equipment : Equipment) (s : DestinationSettings) :
    Except BrokerError Destination := do
  ofSettings (s.validate settings.constraints)
  let adapter ← equipment.adapterFor s
  let limiter ← ofThrottle (Limiter.create s.throttle settings.window)
  return {
    id := s.id
    settings := s
    adapter
    limiter
    registry := .empty s.separator (s.routingMode = .serverToServer)
    remote := .empty
    totals := .zero
    sendConstraint := s.sendConstraint.bind fun name => settings.constraints[name]?
    subscribeConstraint := s.subscribeConstraint.bind fun name => settings.constraints[name]?
    started := false
    announcing := false }

/-- The filter of a subscription request. -/
def parseFilter (d : Destination) (subtopic : String) : Except BrokerError Subtopic := do
  if !d.settings.allowSubtopics then throw (.filterDisallowed d.id subtopic)
  let t ← (Subtopic.parse subtopic d.settings.separator).mapError .subtopic
  if t.hasWildcard && d.settings.disallowWildcards then
    throw (.wildcardDisallowed d.id t.value)
  return t

/-- The subtopics that a message is sent to; empty texts are passed over. -/
def parseMessageSubtopics (d : Destination) (subtopics : List String) :
    Except BrokerError (List Subtopic) := do
  let given := subtopics.filter (· ≠ "")
  if !given.isEmpty && !d.settings.allowSubtopics then throw (.subtopicsDisallowed d.id)
  given.mapM fun s => (Subtopic.parseForMessage s d.settings.separator).mapError .subtopic

end Destination

namespace Broker

/-- The destination of a broker, from its settings. -/
def buildDestination (settings : Settings) (equipment : Equipment) (s : DestinationSettings) :
    Except BrokerError Destination :=
  if s.routingMode ≠ .none ∧ !equipment.cluster then
    .error (.missingCluster s.id s.routingMode)
  else Destination.create settings equipment s

/-- A broker without sessions and subscriptions, none of its destinations started. -/
def build (settings : Settings) (equipment : Equipment) : Except BrokerError Broker := do
  if !equipment.transport then throw .missingTransport
  let destinations ← settings.destinations.values.mapM (buildDestination settings equipment)
  return {
    settings
    destinations
    sessions := ∅
    owners := ∅
    hooks := .empty
    sessionGauge := .zero
    subscriptionGauge := .zero
    nextSubscription := 1
    sweeper := none
    journal := [] }

/-- Registers a hook; answers the number of the registration. -/
def addHook (b : Broker) (kind : NoticeKind) (priority : Nat) (handler : Handler) :
    Broker × HandlerId :=
  let (hooks, id) := b.hooks.add kind priority handler
  ({ b with hooks }, id)

/-- Removes a hook; tells whether there was one. -/
def removeHook (b : Broker) (kind : NoticeKind) (id : HandlerId) : Broker × Bool :=
  let (hooks, removed) := b.hooks.remove kind id
  ({ b with hooks }, removed)

/-- Replaces the throttle settings of a destination; its counters stay. -/
def configureThrottle (b : Broker) (id : DestinationId) (s : ThrottleSettings) :
    Broker × Except BrokerError Unit :=
  match b.requireDestination id with
  | .error e => (b, .error e)
  | .ok d =>
    match ofThrottle (d.limiter.configure s) with
    | .error e => (b, .error e)
    | .ok limiter => (b.onDestination id fun d => { d with limiter }, .ok ())

/-- Clears the throttle counters of a destination. -/
def resetThrottle (b : Broker) (id : DestinationId) : Broker × Except BrokerError Unit :=
  match b.requireDestination id with
  | .error e => (b, .error e)
  | .ok _ => (b.onDestination id fun d => { d with limiter := d.limiter.reset }, .ok ())

end Broker

end MessageBroker
