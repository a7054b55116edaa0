/-
# Routing messages

A message of a client passes the gate, the inbound limiter and the adapter of its
destination, and fans out to the local subscribers and to other nodes. A message from
another node was checked there and stays here. A message from the adapter passes neither
gate nor limiter; it goes to everybody, or to the one client that it names.

A fan-out makes one copy per client, whatever the number of its matching subscriptions,
and of the limits they ask for the lowest holds. For each recipient, in ascending order,
it is settled whether the message is too old and whether the outbound limiter admits it;
then all copies are handed to the transport; then the handlers are told what became of
each.
-/

import MessageBroker.Broker.Build
import MessageBroker.Broker.Gate
import MessageBroker.Broker.Matching
import MessageBroker.Broker.Session

open Std

namespace MessageBroker

/-- What became of a message as a whole. -/
inductive RouteOutcome where
  /-- It fanned out; the counts tell who got it. -/
  | delivered
  /-- It was dropped before recipients were looked for. -/
  | dropped (reason : DropReason)
  /-- The adapter took it over. -/
  | handedOff
  deriving DecidableEq, Repr, Inhabited

/-- What became of a message, in numbers. -/
structure RouteResult where
  outcome : RouteOutcome
  /-- The number of different local clients that matched. -/
  recipients : Nat
  delivered : Nat
  throttled : Nat
  expired : Nat
  failed : Nat
  /-- Whether the cluster took it. -/
  forwarded : Bool
  deriving DecidableEq, Repr, Inhabited

namespace RouteResult

/-- A result without recipients. -/
def ofOutcome (outcome : RouteOutcome) : RouteResult := ⟨outcome, 0, 0, 0, 0, 0, false⟩

/-- Whether the message was dropped before recipients were looked for. -/
def isDropped (r : RouteResult) : Bool :=
  match r.outcome with
  | .dropped _ => true
  | _ => false

end RouteResult

namespace Broker

/-- The content of a message that selectors look at. -/
def contentOf (m : Message) : Content := ⟨m.headers, m.body⟩

/-- The lower of two limits, either of which may be missing. -/
def minFrequency : Option Nat → Option Nat → Option Nat
  | some a, some b => some (min a b)
  | a, none => a
  | none, b => b

/-- The recipients of a message with the lowest limit that their subscriptions ask
for. -/
def recipientsOf (subs : List Subscription) : ExtTreeMap ClientId (Option Nat) :=
  subs.foldl
    (fun recipients s =>
      recipients.insert s.client
        (match recipients[s.client]? with
          | none => s.maxFrequency
          | some f => minFrequency f s.maxFrequency))
    ∅

/-- Whether a message is too old for its destination. -/
def isExpired (d : Destination) (m : Message) (now : Timestamp) : Bool :=
  match d.settings.messageTtl? with
  | none => false
  | some ttl => ttl.signedMs < Timestamp.since now m.timestamp

/-- What settles whether recipients get a message, as far as it is known. -/
structure Screening where
  broker : Broker
  /-- Who gets a copy, in ascending order. -/
  targets : List ClientId
  expired : Nat
  throttled : Nat

/-- Settles whether one recipient gets a message. -/
def screen (ctx : Context) (id : DestinationId) (m : Message) (s : Screening)
    (recipient : ClientId × Option Nat) : Screening :=
  let b := s.broker
  match b.destination? id with
  | none => s
  | some d =>
    let (c, requested) := recipient
    let now := ctx.env.now
    if isExpired d m now then
      let b := b.onTotals id fun t => { t with expired := t.expired + 1, lastExpired := ⟨now⟩ }
      { s with broker := notify ctx (.messageExpired c m) b, expired := s.expired + 1 }
    else
      let (limiter, verdict) := d.limiter.check .outbound c requested now
      let b := b.onDestination id fun d => { d with limiter }
      if verdict.isAllowed then { s with broker := b, targets := s.targets ++ [c] }
      else
        let b := b.onTotals id fun t => { t with outboundThrottled := t.outboundThrottled + 1 }
        { s with
          broker := notify ctx (.messageDropped (some c) m .outboundThrottled) b
          throttled := s.throttled + 1 }

/-- The copies that were handed to the transport, as far as their outcome is told. -/
structure Handover where
  broker : Broker
  delivered : Nat
  failed : Nat

/-- Deals with the outcome of one copy. -/
def settle (ctx : Context) (id : DestinationId) (m : Message) (h : Handover) (c : ClientId) :
    Handover :=
  let b := h.broker
  match ctx.env.deliver c m with
  | .ok () =>
    let b := b.onTotals id fun t => { t with delivered := t.delivered + 1 }
    let b := b.touch c ctx.env.now
    { h with broker := notify ctx (.messageDelivered c m) b, delivered := h.delivered + 1 }
  | .error fault =>
    let b := b.onTotals id fun t => { t with deliveryFailures := t.deliveryFailures + 1 }
    let message := m.id.toText
    let b := b.log .warning s!"{id} delivery of {message} to {c} failed, {fault}"
    { h with
      broker := notify ctx (.messageDropped (some c) m .deliveryFailed) b
      failed := h.failed + 1 }

/-- Delivers a message to the matching local clients, or to one of them only. -/
def deliverLocal (ctx : Context) (d : Destination) (m : Message) (ts : List Subtopic)
    (only : Option ClientId) (b : Broker) : Broker × RouteResult :=
  let (b, subs) := matchingSubscriptions ctx.env d ts (contentOf m) b
  let subs := subs.filter fun s => only.all (· == s.client)
  let recipients := recipientsOf subs
  let s := recipients.toList.foldl (screen ctx d.id m) ⟨b, [], 0, 0⟩
  let b := s.targets.foldl (fun b c => b.record (.delivery c m)) s.broker
  let h := s.targets.foldl (settle ctx d.id m) ⟨b, 0, 0⟩
  (h.broker,
    { outcome := .delivered
      recipients := recipients.size
      delivered := h.delivered
      throttled := s.throttled
      expired := s.expired
      failed := h.failed
      forwarded := false })

/-- Hands a message to the cluster; tells whether the cluster took it. -/
def tellMessage (env : Environment) (id : DestinationId) (targets : Targets) (m : Message)
    (b : Broker) : Broker × Bool :=
  match env.cluster with
  | none => (b, false)
  | some cluster =>
    let b := b.record (.forward targets m)
    match cluster.forward targets m with
    | .ok () => (b.onTotals id fun t => { t with forwarded := t.forwarded + 1 }, true)
    | .error fault =>
      let message := m.id.toText
      let nodes := targets.toText
      (b.log .warning s!"{m.destination} propagate message {message} to {nodes} failed, {fault}",
        false)

/-- Forwards a message as the routing mode of its destination says; tells whether the
cluster took it. -/
def forward (env : Environment) (id : DestinationId) (m : Message) (ts : List Subtopic)
    (b : Broker) : Broker × Bool :=
  match b.destination? id with
  | none => (b, false)
  | some d =>
    match d.settings.routingMode with
    | .none => (b, false)
    | .broadcast => tellMessage env id .all m b
    | .serverToServer =>
      let (b, peers) := matchingPeers env d ts (contentOf m) b
      if peers.isEmpty then (b, false) else tellMessage env id (.peers peers) m b

/-- Fans a message out. -/
def fanout (ctx : Context) (d : Destination) (m : Message) (ts : List Subtopic)
    (only : Option ClientId) (propagate : Bool) (b : Broker) : Broker × RouteResult :=
  let (b, result) := deliverLocal ctx d m ts only b
  if propagate then
    let (b, forwarded) := forward ctx.env d.id m ts b
    (b, { result with forwarded })
  else (b, result)

/-- Calls the adapter of a destination with a message. -/
def invoke (env : Environment) (adapter : Adapter) (m : Message) (b : Broker) :
    Broker × Except BrokerError Invocation :=
  match adapter with
  | .plain => (b, .ok .fanout)
  | .bridge name =>
    (b.record (.bridge name (.send m.destination m)),
      (((env.bridge name).send m.destination m).mapError .collaborator).map fun _ => .consumed)
  | .custom name =>
    (b.record (.custom name (.send m.destination m)),
      ((env.custom name).invoke m).mapError .collaborator)

/-- Checks the subtopics of a message with the authorizer. -/
def checkSubtopics (env : Environment) (d : Destination) (principal : Option Principal)
    (ts : List Subtopic) : Except BrokerError Unit :=
  ts.forM (authorizeSubtopic env .send d principal)

/-- Checks a message of a client at the gate; answers where and to which subtopics it
goes. -/
def passGate (env : Environment) (m : Message) (b : Broker) :
    Broker × Except BrokerError (Destination × List Subtopic) :=
  match b.requireStarted m.destination with
  | .error e => (b, .error e)
  | .ok d =>
    let principal := b.principal? m.client
    match authorizeSend env .client d principal b with
    | (b, .error e) => (b, .error e)
    | (b, .ok ()) =>
      (b, do
        let ts ← d.parseMessageSubtopics m.subtopics
        checkSubtopics env d principal ts
        return (d, ts))

/-- Counts a message of a client at the inbound limiter. -/
def checkInbound (env : Environment) (d : Destination) (m : Message) (b : Broker) :
    Broker × Verdict :=
  let (limiter, verdict) := d.limiter.check .inbound m.client none env.now
  let b := b.onDestination d.id fun d => { d with limiter }
  if verdict.isAllowed then (b, verdict)
  else (b.onTotals d.id fun t => { t with inboundThrottled := t.inboundThrottled + 1 }, verdict)

/-- Passes an admitted message on to its adapter, and fans it out unless the adapter
takes it over. A failure of the adapter gives the inbound slot back. -/
def passOn (ctx : Context) (d : Destination) (m : Message) (ts : List Subtopic) (b : Broker) :
    Broker × Except BrokerError RouteResult :=
  match invoke ctx.env d.adapter m b with
  | (b, .error e) =>
    (b.onDestination d.id fun d => { d with limiter := d.limiter.releaseInbound m.client }, .error e)
  | (b, .ok .consumed) => (b, .ok (.ofOutcome .handedOff))
  | (b, .ok .fanout) =>
    let (b, result) := fanout ctx d m ts none true b
    (b, .ok result)

/-- Routes a message of a local client. -/
def routeMessage (env : Environment) (m : Message) (b : Broker) :
    Broker × Except BrokerError RouteResult :=
  match passGate env m b with
  | (b, .error e) => (b, .error e)
  | (b, .ok (d, ts)) =>
    let ctx := b.context env
    let b := b.onTotals d.id fun t => { t with received := t.received + 1 }
    let b := b.touch m.client env.now
    match checkInbound env d m b with
    | (b, .denyError) => (b, .error (.throttled m.client d.id))
    | (b, .denyIgnore) =>
      (notify ctx (.messageDropped none m .inboundThrottled) b,
        .ok (.ofOutcome (.dropped .inboundThrottled)))
    | (b, .allow) => passOn ctx d m ts b

/-- Where a message that needs no authorization goes, and to which subtopics. -/
def locate (m : Message) (b : Broker) : Except BrokerError (Destination × List Subtopic) := do
  let d ← b.requireStarted m.destination
  let ts ← d.parseMessageSubtopics m.subtopics
  return (d, ts)

/-- Delivers a message that another node forwarded to the local subscribers. -/
def routeFromPeer (env : Environment) (m : Message) (b : Broker) :
    Broker × Except BrokerError RouteResult :=
  match locate m b with
  | .error e => (b, .error e)
  | .ok (d, ts) =>
    let ctx := b.context env
    let b := b.onTotals d.id fun t => { t with fromPeers := t.fromPeers + 1 }
    let (b, result) := fanout ctx d m ts none false b
    (b, .ok result)

/-- Delivers a message that an adapter produced, to all matching subscribers and other
nodes or only to the client that the message names. -/
def routeFromAdapter (env : Environment) (m : Message) (toAll : Bool) (b : Broker) :
    Broker × Except BrokerError RouteResult :=
  match locate m b with
  | .error e => (b, .error e)
  | .ok (d, ts) =>
    let ctx := b.context env
    let b := b.onTotals d.id fun t => { t with fromAdapter := t.fromAdapter + 1 }
    let (b, result) :=
      if toAll then fanout ctx d m ts none true b
      else fanout ctx d m ts (some m.client) false b
    (b, .ok result)

end Broker

end MessageBroker
