/-
# Subscriptions of other nodes

For every other node of the cluster, the keys that it has announced for a destination.
A node without keys is not listed, however its last key went away.
-/

import Std.Data.ExtTreeMap
import Std.Data.ExtTreeSet
import MessageBroker.Subscription.Basic

open Std

namespace MessageBroker

/-- The number of a node in the cluster. -/
abbrev PeerId := Nat

/-- The keys announced by the other nodes; no set of keys is empty. -/
structure RemoteKeys where
  peers : ExtTreeMap PeerId (ExtTreeSet SubscriptionKey)

namespace RemoteKeys

/-- No keys of any node. -/
def empty : RemoteKeys := ⟨∅⟩

/-- The keys of a node. -/
def keys (r : RemoteKeys) (peer : PeerId) : ExtTreeSet SubscriptionKey := r.peers[peer]?.getD ∅

/-- Sets the keys of a node, which is forgotten when there are none. -/
def assign (r : RemoteKeys) (peer : PeerId) (keys : ExtTreeSet SubscriptionKey) : RemoteKeys :=
  if keys.isEmpty then ⟨r.peers.erase peer⟩ else ⟨r.peers.insert peer keys⟩

/-- A node announced a key. -/
def add (r : RemoteKeys) (peer : PeerId) (key : SubscriptionKey) : RemoteKeys :=
  ⟨r.peers.insert peer ((r.keys peer).insert key)⟩

/-- A node withdrew a key. -/
def remove (r : RemoteKeys) (peer : PeerId) (key : SubscriptionKey) : RemoteKeys :=
  match r.peers[peer]? with
  | none => r
  | some keys => r.assign peer (keys.erase key)

/-- A node sent all of its keys. -/
def replace (r : RemoteKeys) (peer : PeerId) (keys : List SubscriptionKey) : RemoteKeys :=
  r.assign peer (ExtTreeSet.ofList keys)

/-- A node left the cluster. -/
def removePeer (r : RemoteKeys) (peer : PeerId) : RemoteKeys := ⟨r.peers.erase peer⟩

/-- The nodes with keys, in ascending order. -/
def peerIds (r : RemoteKeys) : List PeerId := r.peers.keys

/-- The nodes with their keys, in ascending order. -/
def toList (r : RemoteKeys) : List (PeerId × List SubscriptionKey) :=
  r.peers.toList.map fun (peer, keys) => (peer, keys.toList)

end RemoteKeys

end MessageBroker
