/-
# The registry of a destination

The subscriptions of one destination, with the indexes that make them quick to find.
Subscriptions without subtopic, with a plain subtopic and with a pattern are kept apart,
so that a message is compared with the patterns only. A client's subscriptions are
indexed by client, and for every key the registry counts the subscriptions that have it.

A tracking registry also queues, oldest first, each appearance of a first subscription
of a key and each disappearance of a last one, for the other nodes of a cluster.
-/

import Std.Data.ExtTreeSet
import MessageBroker.Subscription.Basic

open Std

namespace MessageBroker

/-- A set of subscription numbers. -/
abbrev IdSet := ExtTreeSet SubscriptionId

/-- Sets of subscription numbers under the keys of an index; no set is empty. -/
abbrev IdIndex (κ : Type) [Ord κ] := ExtTreeMap κ IdSet

namespace IdIndex

variable {κ : Type} [Ord κ] [TransOrd κ]

/-- Adds a number under a key. -/
def add (index : IdIndex κ) (k : κ) (id : SubscriptionId) : IdIndex κ :=
  index.insert k ((index[k]?.getD ∅).insert id)

/-- Drops a number from under a key, and the key when it was the last one. -/
def drop (index : IdIndex κ) (k : κ) (id : SubscriptionId) : IdIndex κ :=
  match index[k]? with
  | none => index
  | some ids =>
    let ids := ids.erase id
    if ids.isEmpty then index.erase k else index.insert k ids

/-- The numbers under a key. -/
def under (index : IdIndex κ) (k : κ) : IdSet := index[k]?.getD ∅

end IdIndex

/-- The subscriptions that share one pattern. -/
structure PatternEntry where
  pattern : Subtopic
  ids : IdSet

/-- The subscriptions of one destination. -/
structure Registry where
  separator : Char
  /-- Whether changes of keys are queued for other nodes. -/
  tracking : Bool
  subscriptions : ExtTreeMap SubscriptionId Subscription
  unfiltered : IdSet
  /-- Subscriptions with a plain subtopic, by its text. -/
  plain : IdIndex String
  /-- Subscriptions with a pattern, by its text. -/
  patterns : ExtTreeMap String PatternEntry
  byClient : IdIndex ClientId
  keyCounts : ExtTreeMap SubscriptionKey Nat
  /-- Changes that other nodes were not told yet, oldest first. -/
  pending : List KeyChange

/-- What came of entering a subscription. -/
structure Entered where
  subscription : Subscription
  /-- The client had a subscription with the same filter, which stands for this one. -/
  existing : Bool
  /-- No other subscription of the destination had its key before. -/
  firstForKey : Bool

/-- What came of removing a subscription. -/
structure Removed where
  subscription : Subscription
  /-- No subscription of the destination has its key any more. -/
  lastForKey : Bool

namespace Registry

/-- A registry without subscriptions. -/
def empty (separator : Char) (tracking : Bool) : Registry :=
  ⟨separator, tracking, ∅, ∅, ∅, ∅, ∅, ∅, []⟩

/-- The number of subscriptions. -/
def size (r : Registry) : Nat := r.subscriptions.size

/-- The subscription with a number. -/
def get? (r : Registry) (id : SubscriptionId) : Option Subscription := r.subscriptions[id]?

/-- All subscriptions, in the order of their numbers. -/
def toList (r : Registry) : List Subscription := r.subscriptions.values

/-- The numbers of all subscriptions, in ascending order. -/
def ids (r : Registry) : List SubscriptionId := r.subscriptions.keys

/-- The clients with subscriptions, in ascending order. -/
def clients (r : Registry) : List ClientId := r.byClient.keys

/-- The keys of the subscriptions. -/
def keys (r : Registry) : List SubscriptionKey := r.keyCounts.keys

/-- The subscriptions of a client. -/
def ofClient (r : Registry) (c : ClientId) : List Subscription :=
  (r.byClient.under c).toList.filterMap r.get?

/-- Queues a change of a key, in a tracking registry. -/
def queue (r : Registry) (key : SubscriptionKey) (kind : ChangeKind) : Registry :=
  if r.tracking then { r with pending := r.pending ++ [⟨key, kind⟩] } else r

/-- Enters the number of a subscription in the index of its kind of subtopic. -/
def indexSubtopic (r : Registry) (s : Subscription) : Registry :=
  match s.subtopic with
  | none => { r with unfiltered := r.unfiltered.insert s.id }
  | some t =>
    if t.hasWildcard then
      let entry := (r.patterns[t.value]?).getD ⟨t, ∅⟩
      let entry := { entry with ids := entry.ids.insert s.id }
      { r with patterns := r.patterns.insert t.value entry }
    else { r with plain := r.plain.add t.value s.id }

/-- Removes the number of a subscription from the index of its kind of subtopic. -/
def unindexSubtopic (r : Registry) (s : Subscription) : Registry :=
  match s.subtopic with
  | none => { r with unfiltered := r.unfiltered.erase s.id }
  | some t =>
    if t.hasWildcard then
      match r.patterns[t.value]? with
      | none => r
      | some entry =>
        let ids := entry.ids.erase s.id
        if ids.isEmpty then { r with patterns := r.patterns.erase t.value }
        else { r with patterns := r.patterns.insert t.value { entry with ids } }
    else { r with plain := r.plain.drop t.value s.id }

/-- Counts one more subscription with a key; tells whether it is the first. -/
def countKey (r : Registry) (key : SubscriptionKey) : Registry × Bool :=
  let n := (r.keyCounts[key]?).getD 0 + 1
  ({ r with keyCounts := r.keyCounts.insert key n }, n = 1)

/-- Counts one subscription with a key less; tells whether it was the last. -/
def uncountKey (r : Registry) (key : SubscriptionKey) : Registry × Bool :=
  match r.keyCounts[key]? with
  | some (n + 2) => ({ r with keyCounts := r.keyCounts.insert key (n + 1) }, false)
  | _ => ({ r with keyCounts := r.keyCounts.erase key }, true)

/-- Enters a subscription, unless its client has one with the same filter. -/
def insert (r : Registry) (s : Subscription) : Registry × Entered :=
  match (r.ofClient s.client).find? s.sameFilter with
  | some old => (r, ⟨old, true, false⟩)
  | none =>
    let r := r.indexSubtopic s
    let r := { r with byClient := r.byClient.add s.client s.id }
    let (r, first) := r.countKey s.key
    let r := if first then r.queue s.key .added else r
    ({ r with subscriptions := r.subscriptions.insert s.id s }, ⟨s, false, first⟩)

/-- Removes the subscription with a number. -/
def remove (r : Registry) (id : SubscriptionId) : Registry × Option Removed :=
  match r.get? id with
  | none => (r, none)
  | some s =>
    let r := { r with subscriptions := r.subscriptions.erase id }
    let r := r.unindexSubtopic s
    let r := { r with byClient := r.byClient.drop s.client id }
    let (r, last) := r.uncountKey s.key
    let r := if last then r.queue s.key .removed else r
    (r, some ⟨s, last⟩)

/-- Removes subscriptions one after the other; numbers without one are passed over. -/
def removeAll : List SubscriptionId → Registry → Registry × List Removed
  | [], r => (r, [])
  | id :: ids, r =>
    let (r, removed) := r.remove id
    let (r, rest) := removeAll ids r
    (r, removed.toList ++ rest)

/-- Removes the subscriptions of a client. -/
def removeClient (r : Registry) (c : ClientId) : Registry × List Removed :=
  removeAll (r.byClient.under c).toList r

/-- Detaches all subscriptions at once. Other nodes are not told; what they were to be
told before stays queued. -/
def clear (r : Registry) : Registry × List Subscription :=
  ({ empty r.separator r.tracking with pending := r.pending }, r.toList)

/-- The numbers of the subscriptions whose subtopic filter admits a subtopic. -/
def admitting (r : Registry) (t : Subtopic) : IdSet :=
  r.patterns.foldl
    (fun ids _ entry => if t.matchedBy entry.pattern then ids ∪ entry.ids else ids)
    (r.plain.under t.value)

/-- The subtopics that a message counts as sent to: an empty list stands for the empty
subtopic. -/
def subtopicsOrEmpty (separator : Char) (ts : List Subtopic) : List Subtopic :=
  if ts.isEmpty then [.empty separator] else ts

/-- The subscriptions whose subtopic filter admits one of the subtopics of a message,
in the order of their numbers. Selectors are not looked at. -/
def candidates (r : Registry) (ts : List Subtopic) : List Subscription :=
  let ids := (subtopicsOrEmpty r.separator ts).foldl (fun ids t => ids ∪ r.admitting t)
    r.unfiltered
  ids.toList.filterMap r.get?

/-- Takes the oldest queued change. -/
def pop (r : Registry) : Registry × Option KeyChange :=
  match r.pending with
  | [] => (r, none)
  | change :: rest => ({ r with pending := rest }, some change)

end Registry

end MessageBroker
