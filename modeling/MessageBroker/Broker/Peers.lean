/-
# Other nodes

What other nodes tell of their subscriptions, and what they are told when they join.
-/

import MessageBroker.Broker.State

namespace MessageBroker

namespace Broker

/-- Changes the remote keys of a destination, which has to exist. -/
def onRemote (b : Broker) (id : DestinationId) (change : RemoteKeys → RemoteKeys) :
    Broker × Except BrokerError Unit :=
  match b.requireDestination id with
  | .error e => (b, .error e)
  | .ok _ => (b.onDestination id fun d => { d with remote := change d.remote }, .ok ())

/-- Another node announced or withdrew a key. -/
def receiveChange (peer : PeerId) (id : DestinationId) (change : KeyChange) (b : Broker) :
    Broker × Except BrokerError Unit :=
  b.onRemote id fun r =>
    match change.kind with
    | .added => r.add peer change.key
    | .removed => r.remove peer change.key

/-- Another node sent all of its keys. -/
def receiveState (peer : PeerId) (id : DestinationId) (keys : List SubscriptionKey) (b : Broker) :
    Broker × Except BrokerError Unit :=
  b.onRemote id fun r => r.replace peer keys

/-- Another node left the cluster. -/
def removePeer (peer : PeerId) (b : Broker) : Broker :=
  { b with destinations := b.destinations.map fun d =>
      { d with remote := d.remote.removePeer peer } }

/-- The keys of the subscriptions of a destination, for a node that joins. -/
def subscriptionState (id : DestinationId) (b : Broker) :
    Except BrokerError (List SubscriptionKey) := do
  return (← b.requireDestination id).registry.keys

end Broker

end MessageBroker
