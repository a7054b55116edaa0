/-
# Sweeping idle subscriptions

A destination may end the subscriptions of clients that were not active for some time. A
sweep goes through all such destinations and evicts the subscriptions of idle clients;
clients that lost subscriptions and have none left lose their sessions too.

A started node sweeps in the background, on a timer of its own: once the interval has
passed since the start or the last run, it sweeps, and the interval begins anew.
-/

import MessageBroker.Broker.Session

open Std

namespace MessageBroker

namespace Broker

/-- When the client of a subscription was last active; without a session, when it
subscribed. -/
def lastActivity (s : Subscription) (b : Broker) : Timestamp :=
  match b.sessions[s.client]? with
  | some session => session.lastActivity
  | none => s.createdAt

/-- What a sweep has done so far. -/
structure Sweeping where
  broker : Broker
  evicted : Nat
  clients : ExtTreeSet ClientId

/-- Evicts a subscription if its client is idle. -/
def sweepOne (ctx : Context) (id : DestinationId) (timeout : Int) (now : Timestamp)
    (w : Sweeping) (s : Subscription) : Sweeping :=
  if Timestamp.since now (lastActivity s w.broker) ≤ timeout then w
  else
    match takeOut id (fun r => ((r.remove s.id).1, (r.remove s.id).2.toList)) w.broker with
    | (_, []) => w
    | (b, removed) =>
      { broker := (removed.map (·.subscription)).foldl (detach ctx id .idleTimeout) b
        evicted := w.evicted + 1
        clients := w.clients.insert s.client }

/-- Sweeps one destination, if it has a timeout. -/
def sweepDestination (ctx : Context) (now : Timestamp) (w : Sweeping) (id : DestinationId) :
    Sweeping :=
  match w.broker.destination? id with
  | none => w
  | some d =>
    match d.settings.subscriptionTimeout? with
    | none => w
    | some timeout => d.registry.toList.foldl (sweepOne ctx id timeout.clampedMs now) w

/-- Sweeps as if the clock showed `now`; answers the number of evicted subscriptions. -/
def sweepAt (env : Environment) (now : Timestamp) (b : Broker) : Broker × Nat :=
  let ctx := b.context env
  let w := b.destinationIds.foldl (sweepDestination ctx now) ⟨b, 0, ∅⟩
  let b := w.clients.toList.foldl (fun b c => terminate ctx c true b) w.broker
  if 0 < w.evicted then
    (b.log .info s!"idle sweep evicted {w.evicted} subscriptions", w.evicted)
  else (b, w.evicted)

/-- Lets the timer of the background sweeper run; once the interval is full, it sweeps
and the timer starts again. -/
def tick (env : Environment) (ms : Nat) (b : Broker) : Broker :=
  match b.sweeper with
  | none => b
  | some waited =>
    if b.settings.sweepInterval.ms ≤ waited + ms then
      { (sweepAt env env.now b).1 with sweeper := some 0 }
    else { b with sweeper := some (waited + ms) }

end Broker

end MessageBroker
