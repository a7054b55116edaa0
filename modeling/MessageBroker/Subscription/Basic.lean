/-
# Subscriptions

A subscription says that a client wants the messages of a destination, all of them or
those that pass a filter: a subtopic pattern, a selector over headers and body, or both.
The key of a subscription is its filter. Other nodes of a cluster know subscriptions by
their keys only, since one copy of a message serves every subscriber behind a node.
-/

import Std.Data.ExtTreeMap
import MessageBroker.Message
import MessageBroker.Subtopic

open Std

namespace MessageBroker

/-- The number of a subscription, given out once. -/
abbrev SubscriptionId := Nat

/-- A condition on headers and body, in the language of the evaluator in use. -/
abbrev Selector := String

/-- The filter of a subscription. -/
structure SubscriptionKey where
  selector : Option Selector
  subtopic : Option String
  deriving DecidableEq, Repr, Inhabited

namespace SubscriptionKey

/-- Keys are ordered by selector first and subtopic second, none before any. -/
instance : Ord SubscriptionKey := ⟨compareLex (compareOn selector) (compareOn subtopic)⟩

instance : TransOrd SubscriptionKey :=
  inferInstanceAs (TransCmp (compareLex (compareOn selector) (compareOn subtopic)))

instance : LawfulEqOrd SubscriptionKey where
  compare_self := by
    intro a
    change compareLex (compareOn selector) (compareOn subtopic) a a = .eq
    simp [compareLex, compareOn]
  eq_of_compare := by
    intro a b h
    change compareLex (compareOn selector) (compareOn subtopic) a b = .eq at h
    simp only [compareLex, compareOn, Ordering.then_eq_eq, Std.compare_eq_iff_eq] at h
    cases a
    cases b
    simp_all

/-- A key as a line of text, a dash standing for a part that is not there. -/
def toText (k : SubscriptionKey) : String :=
  "sub=" ++ k.subtopic.getD "-" ++ " sel=" ++ k.selector.getD "-"

/-- A key as a table. -/
def toDocument (k : SubscriptionKey) : Document :=
  .ofMembers [("selector", .ofText? k.selector), ("subtopic", .ofText? k.subtopic)]

end SubscriptionKey

/-- A subscription of a client to a destination. -/
structure Subscription where
  id : SubscriptionId
  destination : DestinationId
  client : ClientId
  subtopic : Option Subtopic
  selector : Option Selector
  /-- A limit on messages per second that the client asked for itself. -/
  maxFrequency : Option Nat
  createdAt : Timestamp
  deriving DecidableEq, Repr, Inhabited

namespace Subscription

/-- The filter of a subscription as other nodes know it. -/
def key (s : Subscription) : SubscriptionKey := ⟨s.selector, s.subtopic.map (·.value)⟩

/-- Whether two subscriptions filter in the same way. -/
def sameFilter (s t : Subscription) : Bool :=
  s.subtopic = t.subtopic && s.selector = t.selector

/-- A subscription as a table. -/
def toDocument (s : Subscription) : Document :=
  .ofMembers
    [("id", .ofNat s.id),
     ("destination", .text s.destination),
     ("client_id", .text s.client),
     ("subtopic", .ofText? (s.subtopic.map (·.value))),
     ("selector", .ofText? s.selector),
     ("max_frequency", .ofInt? (s.maxFrequency.map fun n => (n : Int))),
     ("created_at", .int s.createdAt)]

end Subscription

/-- Why a subscription ended. -/
inductive UnsubscribeReason where
  | client
  | disconnect
  | idleTimeout
  | destinationStopped
  deriving DecidableEq, Repr, Inhabited

/-- The text of a reason. -/
def UnsubscribeReason.toText : UnsubscribeReason → String
  | client => "client request"
  | disconnect => "client disconnected"
  | idleTimeout => "idle timeout"
  | destinationStopped => "destination stopped"

/-- Whether the first subscription of a key appeared or the last one went away. -/
inductive ChangeKind where
  | added
  | removed
  deriving DecidableEq, Repr, Inhabited

/-- The name of a kind of change. -/
def ChangeKind.name : ChangeKind → String
  | added => "Added"
  | removed => "Removed"

/-- A change of the keys of a destination. -/
structure KeyChange where
  key : SubscriptionKey
  kind : ChangeKind
  deriving DecidableEq, Repr, Inhabited

end MessageBroker
