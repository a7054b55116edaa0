/-
# Starting and stopping

Destinations accept traffic only while they are started. Starting a node starts its
destinations, one after the other, and the background sweeper; the first failure ends
the attempt. Stopping takes all subscriptions out of the registries at once, without
telling other nodes, and then cleans up after each of them. Sessions stay.
-/

import MessageBroker.Broker.Session

namespace MessageBroker

namespace Broker

/-- Asks an adapter to start or to stop. -/
def callAdapter (env : Environment) (adapter : Adapter) (isStart : Bool) (id : DestinationId)
    (b : Broker) : Broker × Answer :=
  let call := if isStart then AdapterCall.start id else .stop id
  match adapter with
  | .plain => (b, .ok ())
  | .bridge name =>
    let bridge := env.bridge name
    (b.record (.bridge name call), if isStart then bridge.start id else bridge.stop id)
  | .custom name =>
    let custom := env.custom name
    (b.record (.custom name call), if isStart then custom.start id else custom.stop id)

/-- Starts a destination; one that is started stays so. -/
def startDestination (env : Environment) (id : DestinationId) (b : Broker) :
    Broker × Except BrokerError Unit :=
  match b.requireDestination id with
  | .error e => (b, .error e)
  | .ok d =>
    if d.started then (b, .ok ())
    else
      match callAdapter env d.adapter true id b with
      | (b, .error fault) => (b, .error (.collaborator fault))
      | (b, .ok ()) =>
        let b := b.onDestination id fun d => { d with started := true }
        let kind := d.adapter.kind.toText
        (b.log .info s!"destination {id} started, adapter: {kind}", .ok ())

/-- Starts destinations up to the first failure. -/
def startAll (env : Environment) : List DestinationId → Broker → Broker × Except BrokerError Unit
  | [], b => (b, .ok ())
  | id :: ids, b =>
    match startDestination env id b with
    | (b, .error e) => (b, .error e)
    | (b, .ok ()) => startAll env ids b

/-- Starts a node. A background sweeper that runs already goes on. -/
def start (env : Environment) (b : Broker) : Broker × Except BrokerError Unit :=
  match startAll env b.destinationIds b with
  | (b, .error e) => (b, .error e)
  | (b, .ok ()) =>
    let b := { b with sweeper := some (b.sweeper.getD 0) }
    (b.log .info s!"node {b.settings.node} started, {b.destinations.length} destinations", .ok ())

/-- Stops a destination; answers the subscriptions that it had. They are out of its
registry, and nothing else about them has changed. -/
def stopDestination (env : Environment) (id : DestinationId) (b : Broker) :
    Broker × List Subscription :=
  match b.destination? id with
  | none => (b, [])
  | some d =>
    if !d.started then (b, [])
    else
      let (registry, detached) := d.registry.clear
      let b := b.onDestination id fun d => { d with started := false, registry }
      let (b, answer) := callAdapter env d.adapter false id b
      let b := match answer with
        | .ok () => b
        | .error fault =>
          b.log .warning s!"destination {id} adapter stop failed, Anyhow({fault})"
      (b.log .info s!"destination {id} stopped, {detached.length} subscriptions detached",
        detached)

/-- Stops a destination and cleans up after its subscriptions. -/
def stopAndDetach (ctx : Context) (b : Broker) (id : DestinationId) : Broker :=
  let (b, detached) := stopDestination ctx.env id b
  detached.foldl (detach ctx id .destinationStopped) b

/-- Stops a node. -/
def stop (env : Environment) (b : Broker) : Broker :=
  let ctx := b.context env
  let b := { b with sweeper := none }
  let b := b.destinationIds.foldl (stopAndDetach ctx) b
  b.log .info s!"node {b.settings.node} stopped"

end Broker

end MessageBroker
