/-
# Telling handlers and other nodes

What happens in a broker is told to its hooks and, where keys of subscriptions are
shared, to the other nodes. Those who are told may call back into the broker before they
return, so an operation runs in a context that says what a call back does. The operations
are defined for any such context; the knot is tied where they are complete.

Changes of keys are told in the order of the queue. While that goes on for a destination,
a call back that changes its keys again leaves them to the round that is under way, so no
change overtakes another.
-/

import MessageBroker.Broker.State

namespace MessageBroker

/-- What a broker runs an operation in: its environment, and what a call back into the
broker does, with an answer whether anything was removed. -/
structure Context where
  env : Environment
  reenter : Callback → Broker → Broker × Bool

namespace Broker

/-- Calls one handler. -/
def callHandler (ctx : Context) (n : Notice) (b : Broker) (h : Handler) : Broker :=
  let b := b.record (.hook h.name n)
  match h.callback n with
  | none => b
  | some (.disconnect c) => (ctx.reenter (.disconnect c) b).1
  | some (.unsubscribe id) =>
    let (b, removed) := ctx.reenter (.unsubscribe id) b
    b.record (.hookUnsubscribed h.name removed)

/-- Tells the handlers of a notice. Who is told is settled before the first is called. -/
def notify (ctx : Context) (n : Notice) (b : Broker) : Broker :=
  (b.hooks.round n).foldl (callHandler ctx n) (b.record (.notice n))

/-- Tells the other nodes of a change; a failure is logged and goes no further. -/
def tellChange (ctx : Context) (id : DestinationId) (change : KeyChange) (b : Broker) : Broker :=
  match ctx.env.cluster with
  | none => b
  | some cluster =>
    let b := b.record (.change id change)
    let b := match cluster.callback id change with
      | none => b
      | some callback => (ctx.reenter callback b).1
    match cluster.tellChange id change with
    | .ok () => b
    | .error fault =>
      let kind := change.kind.name
      b.log .warning s!"{id} propagate subscription change {kind} failed, {fault}"

/-- Tells the queued changes of a destination, at most `fuel` of them. -/
def tellChanges (ctx : Context) (id : DestinationId) : Nat → Broker → Broker
  | 0, b => b
  | fuel + 1, b =>
    match (b.destination? id).bind fun d => d.registry.pending.head? with
    | none => b
    | some change =>
      let b := b.onDestination id fun d => { d with registry := d.registry.pop.1 }
      tellChanges ctx id fuel (tellChange ctx id change b)

/-- Tells all queued changes of a destination, unless a round of telling is under way.

A round ends with an empty queue: a call back only removes subscriptions, and each
removal adds at most one change, so no more changes are told than are queued and
registered at the start. -/
def announce (ctx : Context) (id : DestinationId) (b : Broker) : Broker :=
  match b.destination? id with
  | none => b
  | some d =>
    if d.announcing then b
    else
      let b := b.onDestination id fun d => { d with announcing := true }
      let b := tellChanges ctx id (d.registry.pending.length + d.registry.size) b
      b.onDestination id fun d => { d with announcing := false }

/-- Cleans up after a subscription that its registry has let go. -/
def detach (ctx : Context) (id : DestinationId) (reason : UnsubscribeReason) (b : Broker)
    (s : Subscription) : Broker :=
  let b := { b with owners := b.owners.erase s.id }
  let b := b.onSession s.client fun session =>
    { session with subscriptions := session.subscriptions.erase s.id }
  let b := b.onTotals id fun t => { t with subscriptions := t.subscriptions.dec }
  let b := { b with subscriptionGauge := b.subscriptionGauge.dec }
  announce ctx id (notify ctx (.unsubscribed s reason) b)

end Broker

end MessageBroker
