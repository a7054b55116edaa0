/-
# Operations as data

Everything that changes a broker, as one type, with the answer that each operation gives.
Runs of a broker are lists of operations, each performed in an environment of its own;
what holds after every operation holds throughout a run.
-/

import MessageBroker.Broker.Lifecycle
import MessageBroker.Broker.Peers
import MessageBroker.Broker.Routing
import MessageBroker.Broker.Subscribing
import MessageBroker.Broker.Sweep

namespace MessageBroker

/-- Something that a broker is asked to do. -/
inductive Operation where
  | start
  | stop
  | startDestination (id : DestinationId)
  | stopDestination (id : DestinationId)
  | connect (client : ClientId)
  | disconnect (client : ClientId)
  | touch (client : ClientId) (time : Timestamp)
  | login (client : ClientId) (principal : Principal)
  | logout (client : ClientId)
  | subscribe (request : SubscribeRequest)
  | unsubscribe (id : SubscriptionId)
  | unsubscribeAll (client : ClientId)
  | find (id : DestinationId) (subtopics : List String) (content : Broker.Content)
  | route (message : Message)
  | routeFromPeer (message : Message)
  | routeFromAdapter (message : Message) (toAll : Bool)
  | receiveChange (peer : PeerId) (id : DestinationId) (change : KeyChange)
  | receiveState (peer : PeerId) (id : DestinationId) (keys : List SubscriptionKey)
  | removePeer (peer : PeerId)
  | sweep (time : Timestamp)
  /-- The timer of the background sweeper goes on. -/
  | tick (ms : Nat)
  | configureThrottle (id : DestinationId) (settings : ThrottleSettings)
  | resetThrottle (id : DestinationId)
  | addHook (kind : NoticeKind) (priority : Nat) (handler : Handler)
  | removeHook (kind : NoticeKind) (id : HandlerId)

/-- What an operation answers. -/
inductive Outcome where
  /-- There is nothing to tell. -/
  | done
  /-- It succeeded, or why it did not. -/
  | result (r : Except BrokerError Unit)
  | connected (session : Session)
  /-- How many subscriptions were ended. -/
  | ended (count : Nat)
  /-- Whether there was something to remove. -/
  | removed (any : Bool)
  | subscribed (r : Except BrokerError SubscriptionId)
  | found (r : Except BrokerError (List ClientId))
  | routed (r : Except BrokerError RouteResult)
  /-- The subscriptions that a destination had when it was stopped. -/
  | detached (r : Except BrokerError (List Subscription))
  | registered (id : HandlerId)

namespace Broker

/-- Stops a destination, which has to exist. -/
def stopNamed (env : Environment) (id : DestinationId) (b : Broker) :
    Broker × Except BrokerError (List Subscription) :=
  match b.requireDestination id with
  | .error e => (b, .error e)
  | .ok _ =>
    let (b, subs) := stopDestination env id b
    (b, .ok subs)

/-- Performs one operation. -/
def perform (env : Environment) (b : Broker) : Operation → Broker × Outcome
  | .start => (start env b).map id .result
  | .stop => (stop env b, .done)
  | .startDestination d => (startDestination env d b).map id .result
  | .stopDestination d => (stopNamed env d b).map id .detached
  | .connect c => (connect env c b).map id .connected
  | .disconnect c => (disconnect env c b).map id .ended
  | .touch c time => (b.touch c time, .done)
  | .login c p => (login env c p b).map id .result
  | .logout c => (logout c b, .done)
  | .subscribe r => (subscribe env r b).map id .subscribed
  | .unsubscribe n => (unsubscribe env n b).map id .removed
  | .unsubscribeAll c => (unsubscribeAll env c b).map id .ended
  | .find d subtopics content => (findMatching env d subtopics content b).map id .found
  | .route m => (routeMessage env m b).map id .routed
  | .routeFromPeer m => (routeFromPeer env m b).map id .routed
  | .routeFromAdapter m toAll => (routeFromAdapter env m toAll b).map id .routed
  | .receiveChange peer d change => (receiveChange peer d change b).map id .result
  | .receiveState peer d keys => (receiveState peer d keys b).map id .result
  | .removePeer peer => (removePeer peer b, .done)
  | .sweep time => (sweepAt env time b).map id .ended
  | .tick ms => (tick env ms b, .done)
  | .configureThrottle d s => (b.configureThrottle d s).map id .result
  | .resetThrottle d => (b.resetThrottle d).map id .result
  | .addHook kind priority handler => (b.addHook kind priority handler).map id .registered
  | .removeHook kind n => (b.removeHook kind n).map id .removed

end Broker

end MessageBroker
