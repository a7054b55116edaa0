/-
# Sessions

A client has a session from its first contact until it disconnects, gives up all its
subscriptions, or loses the last of them to a sweep. A session remembers who is logged
in, what the client subscribed to, and when it was last active. With the session go the
client's throttle counters at every destination.

Disconnecting is the way out of everything, and with ending one subscription it is what
handlers ask for when they call back. Here the context for such calls back is made: they nest as
deep as there are things left to remove, since nothing is told of a call that removes
nothing.
-/

import MessageBroker.Broker.Notify

open Std

namespace MessageBroker

namespace Broker

/-- The session of a client, made on first contact. -/
def connectIn (ctx : Context) (c : ClientId) (b : Broker) : Broker × Session :=
  match b.sessions[c]? with
  | some s => (b, s)
  | none =>
    let s := Session.begin ctx.env.now
    let b := { b with sessions := b.sessions.insert c s, sessionGauge := b.sessionGauge.inc }
    (notify ctx (.sessionCreated c) b, s)

/-- Takes subscriptions out of the registry of a destination. -/
def takeOut (id : DestinationId) (take : Registry → Registry × List Removed) (b : Broker) :
    Broker × List Removed :=
  match b.destination? id with
  | none => (b, [])
  | some d =>
    let (registry, removed) := take d.registry
    (b.onDestination id fun d => { d with registry }, removed)

/-- Ends the subscriptions of a client at one destination; answers how many. -/
def unsubscribeAt (ctx : Context) (c : ClientId) (reason : UnsubscribeReason)
    (id : DestinationId) (b : Broker) : Broker × Nat :=
  let (b, removed) := takeOut id (·.removeClient c) b
  ((removed.map (·.subscription)).foldl (detach ctx id reason) b, removed.length)

/-- Ends the subscriptions of a client; answers how many. -/
def unsubscribeClient (ctx : Context) (c : ClientId) (reason : UnsubscribeReason) (b : Broker) :
    Broker × Nat :=
  b.destinationIds.foldl
    (fun (b, n) id =>
      let (b, k) := unsubscribeAt ctx c reason id b
      (b, n + k))
    (b, 0)

/-- Drops the throttle counters of a client at every destination. -/
def dropCounters (c : ClientId) (b : Broker) : Broker :=
  { b with destinations := b.destinations.map fun d =>
      { d with limiter := d.limiter.removeClient c } }

/-- Ends the session of a client and drops its throttle counters. With `onlyIfEmpty` a
session that still owns subscriptions is kept; without it the counters of a client that
never had a session are dropped too. -/
def terminate (ctx : Context) (c : ClientId) (onlyIfEmpty : Bool) (b : Broker) : Broker :=
  match b.sessions[c]? with
  | none => if onlyIfEmpty then b else dropCounters c b
  | some s =>
    if onlyIfEmpty && !s.subscriptions.isEmpty then b
    else
      let b := { b with sessions := b.sessions.erase c, sessionGauge := b.sessionGauge.dec }
      notify ctx (.sessionTerminated c) (dropCounters c b)

/-- Ends everything about a client; answers how many subscriptions it had. -/
def disconnectIn (ctx : Context) (c : ClientId) (b : Broker) : Broker × Nat :=
  let (b, n) := unsubscribeClient ctx c .disconnect b
  (terminate ctx c false b, n)

/-- Ends the subscriptions of a client, and with them its session; answers how many
there were. -/
def unsubscribeAllIn (ctx : Context) (c : ClientId) (b : Broker) : Broker × Nat :=
  let (b, n) := unsubscribeClient ctx c .client b
  (terminate ctx c true b, n)

/-- Ends one subscription; tells whether there was one. -/
def unsubscribeIn (ctx : Context) (id : SubscriptionId) (b : Broker) : Broker × Bool :=
  match b.owners[id]? with
  | none => (b, false)
  | some owner =>
    let b := { b with owners := b.owners.erase id }
    let (b, removed) := takeOut owner (fun r => ((r.remove id).1, (r.remove id).2.toList)) b
    ((removed.map (·.subscription)).foldl (detach ctx owner .client) b, !removed.isEmpty)

/-- What a call back does when calls back nest at most `depth` deep. -/
def reenter (env : Environment) : Nat → Callback → Broker → Broker × Bool
  | 0, _, b => (b, false)
  | depth + 1, callback, b =>
    let ctx : Context := ⟨env, reenter env depth⟩
    match callback with
    | .disconnect c =>
      let (b, n) := disconnectIn ctx c b
      (b, 0 < n)
    | .unsubscribe id => unsubscribeIn ctx id b

/-- How deep calls back can nest: each of them that leads to another has removed a
session or a subscription, and one operation adds at most one of each. -/
def depth (b : Broker) : Nat := b.sessions.size + b.owners.size + 4

/-- The context of an operation in an environment. -/
def context (env : Environment) (b : Broker) : Context := ⟨env, reenter env b.depth⟩

/-- Ends everything about a client; answers how many subscriptions it had. -/
def disconnect (env : Environment) (c : ClientId) (b : Broker) : Broker × Nat :=
  disconnectIn (b.context env) c b

/-- Ends the subscriptions of a client and its session; answers how many there were. -/
def unsubscribeAll (env : Environment) (c : ClientId) (b : Broker) : Broker × Nat :=
  unsubscribeAllIn (b.context env) c b

/-- Ends one subscription; tells whether there was one. -/
def unsubscribe (env : Environment) (id : SubscriptionId) (b : Broker) : Broker × Bool :=
  unsubscribeIn (b.context env) id b

/-- Makes sure that a client has a session. -/
def connect (env : Environment) (c : ClientId) (b : Broker) : Broker × Session :=
  connectIn (b.context env) c b

/-- Logs a principal in on the session of a client. The same principal may log in again,
another one only after a logout. A session that a handler ended at once takes the login
with it. -/
def login (env : Environment) (c : ClientId) (p : Principal) (b : Broker) :
    Broker × Except BrokerError Unit :=
  let (b, _) := connectIn (b.context env) c b
  match b.sessions[c]? with
  | none => (b, .ok ())
  | some s =>
    match s.principal with
    | some q =>
      if q.name ≠ p.name then (b, .error (.reauthentication c q.name))
      else (b.onSession c fun s => { s with principal := some p }.touch env.now, .ok ())
    | none => (b.onSession c fun s => { s with principal := some p }.touch env.now, .ok ())

/-- Logs the principal of a client out. -/
def logout (c : ClientId) (b : Broker) : Broker :=
  b.onSession c fun s => { s with principal := none }

end Broker

end MessageBroker
