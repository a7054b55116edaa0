/-
# Subscribing

A subscription request is checked in full before anything changes: the destination, the
constraint on subscribing, the filter, the authorizer's veto, and whether selectors can
be evaluated at all. Only then does the client get its session, and the subscription its
number. A client that asks again for a filter it has gets the old subscription back.

A handler may end the session or the subscription while it is told of them. Then the
request fails, since its subscription is gone.
-/

import MessageBroker.Broker.Build
import MessageBroker.Broker.Gate
import MessageBroker.Broker.Session
import MessageBroker.Text.Blank

open Std

namespace MessageBroker

/-- What a client asks for. -/
structure SubscribeRequest where
  destination : DestinationId
  client : ClientId
  subtopic : Option String
  selector : Option Selector
  maxFrequency : Option Nat
  deriving DecidableEq, Repr, Inhabited

namespace SubscribeRequest

/-- The subtopic asked for; an empty text asks for none. -/
def givenSubtopic (r : SubscribeRequest) : Option String := r.subtopic.filter (· ≠ "")

/-- The selector asked for; a blank text asks for none. -/
def givenSelector (r : SubscribeRequest) : Option Selector :=
  r.selector.filter fun s => !Text.isBlankText s

/-- The limit asked for; zero asks for none. -/
def givenFrequency (r : SubscribeRequest) : Option Nat := r.maxFrequency.filter (0 < ·)

end SubscribeRequest

namespace Broker

/-- Checks the subtopic of a request: first the text, then the authorizer's veto. -/
def checkFilter (env : Environment) (d : Destination) (principal : Option Principal) :
    Option String → Except BrokerError (Option Subtopic)
  | none => .ok none
  | some text => do
    let t ← d.parseFilter text
    authorizeSubtopic env .subscribe d principal t
    return some t

/-- Checks a request; answers its filter. Asking the authorizer is all that is done. -/
def checkRequest (env : Environment) (r : SubscribeRequest) (b : Broker) :
    Broker × Except BrokerError (Option Subtopic) :=
  match b.requireStarted r.destination with
  | .error e => (b, .error e)
  | .ok d =>
    let principal := b.principal? r.client
    match authorize env .subscribe d principal b with
    | (b, .error e) => (b, .error e)
    | (b, .ok ()) =>
      match checkFilter env d principal r.givenSubtopic with
      | .error e => (b, .error e)
      | .ok filter =>
        if r.givenSelector.isSome && env.evaluator.isNone then (b, .error (.missingEvaluator d.id))
        else (b, .ok filter)

/-- Enters a subscription in the registry of its destination. One that is new is also
entered with its owner, in the session of its client, if that is still there, and in the
gauges. -/
def enter (s : Subscription) (b : Broker) : Broker × Entered :=
  match b.destination? s.destination with
  | none => (b, ⟨s, true, false⟩)
  | some d =>
    let (registry, entered) := d.registry.insert s
    if entered.existing then (b, entered)
    else
      let b := b.onDestination d.id fun d => { d with registry }
      let b := { b with owners := b.owners.insert s.id d.id }
      let b := b.onSession s.client fun session =>
        { session with subscriptions := session.subscriptions.insert s.id d.id }
      let b := b.onTotals d.id fun t => { t with subscriptions := t.subscriptions.inc }
      ({ b with subscriptionGauge := b.subscriptionGauge.inc }, entered)

/-- Whether a subscription is in the registry of its destination. -/
def isRegistered (s : Subscription) (b : Broker) : Bool :=
  ((b.destination? s.destination).bind fun d => d.registry.get? s.id).isSome

/-- The error of a request whose subscription was ended before it was answered. -/
def removedError (s : Subscription) : BrokerError :=
  .removedWhileSubscribing s.id s.client s.destination

/-- Removes a subscription that was entered for a session that is no longer there. -/
def dropOrphan (ctx : Context) (s : Subscription) (b : Broker) : Broker :=
  if b.sessions.contains s.client then b
  else
    let (b, removed) :=
      takeOut s.destination (fun r => ((r.remove s.id).1, (r.remove s.id).2.toList)) b
    (removed.map (·.subscription)).foldl (detach ctx s.destination .disconnect) b

/-- Tells of a new subscription: first the other nodes, then the handlers. -/
def introduce (ctx : Context) (s : Subscription) (b : Broker) :
    Broker × Except BrokerError SubscriptionId :=
  let b := announce ctx s.destination (dropOrphan ctx s b)
  if !isRegistered s b then (b, .error (removedError s))
  else
    let b := notify ctx (.subscribed s) b
    if !isRegistered s b then (b, .error (removedError s)) else (b, .ok s.id)

/-- Subscribes a client; answers the number of the subscription. -/
def subscribe (env : Environment) (r : SubscribeRequest) (b : Broker) :
    Broker × Except BrokerError SubscriptionId :=
  match checkRequest env r b with
  | (b, .error e) => (b, .error e)
  | (b, .ok filter) =>
    let ctx := b.context env
    let (b, _) := connectIn ctx r.client b
    let b := b.touch r.client env.now
    let s : Subscription :=
      { id := b.nextSubscription
        destination := r.destination
        client := r.client
        subtopic := filter
        selector := r.givenSelector
        maxFrequency := r.givenFrequency
        createdAt := env.now }
    let b := { b with nextSubscription := b.nextSubscription + 1 }
    let (b, entered) := enter s b
    if entered.existing then (b, .ok entered.subscription.id) else introduce ctx s b

end Broker

end MessageBroker
