/-
# Management hooks

Handlers listen to what happens in a broker. Each is registered for one kind of notice
with a priority; handlers of higher priority are called first, and of two with the same
priority the later one. A handler that does not proceed ends the round.

A handler may call back into the broker before it returns, and nothing keeps it from asking
for any operation. Two kinds of calls back are modelled, those that end something: a handler
may disconnect a client or end a subscription. What is said of calls back is said of these.
-/

import MessageBroker.Subscription.Basic

namespace MessageBroker

/-- Why a message did not reach a recipient, or nobody at all. -/
inductive DropReason where
  | inboundThrottled
  | outboundThrottled
  | expired
  | deliveryFailed
  deriving DecidableEq, Repr, Inhabited

namespace DropReason

/-- The text of a reason. -/
def toText : DropReason → String
  | inboundThrottled => "inbound throttled"
  | outboundThrottled => "outbound throttled"
  | expired => "expired"
  | deliveryFailed => "delivery failed"

/-- The name of a reason in documents. -/
def name : DropReason → String
  | inboundThrottled => "InboundThrottled"
  | outboundThrottled => "OutboundThrottled"
  | expired => "Expired"
  | deliveryFailed => "DeliveryFailed"

end DropReason

/-- The kinds of notices. -/
inductive NoticeKind where
  | sessionCreated
  | sessionTerminated
  | subscribed
  | unsubscribed
  | messageDelivered
  | messageDropped
  | messageExpired
  deriving DecidableEq, Repr, Inhabited

namespace NoticeKind

/-- The name of a kind. -/
def name : NoticeKind → String
  | sessionCreated => "SessionCreated"
  | sessionTerminated => "SessionTerminated"
  | subscribed => "Subscribed"
  | unsubscribed => "Unsubscribed"
  | messageDelivered => "MessageDelivered"
  | messageDropped => "MessageDropped"
  | messageExpired => "MessageExpired"

/-- All kinds. -/
def all : List NoticeKind :=
  [sessionCreated, sessionTerminated, subscribed, unsubscribed, messageDelivered,
   messageDropped, messageExpired]

end NoticeKind

/-- Something that handlers are told. -/
inductive Notice where
  | sessionCreated (client : ClientId)
  | sessionTerminated (client : ClientId)
  | subscribed (subscription : Subscription)
  | unsubscribed (subscription : Subscription) (reason : UnsubscribeReason)
  | messageDelivered (client : ClientId) (message : Message)
  /-- No recipient is named when the message was dropped before any was looked for. -/
  | messageDropped (client : Option ClientId) (message : Message) (reason : DropReason)
  | messageExpired (client : ClientId) (message : Message)
  deriving Inhabited

namespace Notice

/-- The kind of a notice. -/
def kind : Notice → NoticeKind
  | sessionCreated _ => .sessionCreated
  | sessionTerminated _ => .sessionTerminated
  | subscribed _ => .subscribed
  | unsubscribed .. => .unsubscribed
  | messageDelivered .. => .messageDelivered
  | messageDropped .. => .messageDropped
  | messageExpired .. => .messageExpired

/-- The client that a notice is about. -/
def client? : Notice → Option ClientId
  | sessionCreated c => some c
  | sessionTerminated c => some c
  | subscribed s => some s.client
  | unsubscribed s _ => some s.client
  | messageDelivered c _ => some c
  | messageDropped c _ _ => c
  | messageExpired c _ => some c

/-- The subscription that a notice is about. -/
def subscription? : Notice → Option SubscriptionId
  | subscribed s => some s.id
  | unsubscribed s _ => some s.id
  | _ => none

end Notice

/-- What a handler, or another node being told of a change, asks of the broker before it returns.
It may ask for any operation; only the two that end something are modelled. -/
inductive Callback where
  | disconnect (client : ClientId)
  | unsubscribe (id : SubscriptionId)
  deriving DecidableEq, Repr

/-- A listener: its name, whether it lets the round go on, and how it calls back. -/
structure Handler where
  name : String
  proceeds : Notice → Bool
  callback : Notice → Option Callback

/-- The number of a registration. -/
abbrev HandlerId := Nat

/-- A handler in its place. -/
structure Registration where
  kind : NoticeKind
  priority : Nat
  id : HandlerId
  handler : Handler

/-- All registrations, in the order of calling. -/
structure HookTable where
  registrations : List Registration
  nextId : HandlerId

namespace HookTable

/-- No registrations. -/
def empty : HookTable := ⟨[], 0⟩

/-- Puts a registration before the first one that does not precede it. -/
def place (r : Registration) : List Registration → List Registration
  | [] => [r]
  | s :: rest => if s.priority ≤ r.priority then r :: s :: rest else s :: place r rest

/-- Registers a handler; answers the number of the registration. -/
def add (t : HookTable) (kind : NoticeKind) (priority : Nat) (handler : Handler) :
    HookTable × HandlerId :=
  (⟨place ⟨kind, priority, t.nextId, handler⟩ t.registrations, t.nextId + 1⟩, t.nextId)

/-- Removes a registration for a kind of notice; tells whether there was one. -/
def remove (t : HookTable) (kind : NoticeKind) (id : HandlerId) : HookTable × Bool :=
  let isIt := fun (r : Registration) => r.kind = kind && r.id = id
  ({ t with registrations := t.registrations.filter fun r => !isIt r },
    t.registrations.any isIt)

/-- The handlers for a kind of notice, in the order of calling. -/
def handlersFor (t : HookTable) (kind : NoticeKind) : List Handler :=
  (t.registrations.filter fun r => r.kind = kind).map (·.handler)

/-- The beginning of a list up to the first handler that ends the round, with it. -/
def upToLast (n : Notice) : List Handler → List Handler
  | [] => []
  | h :: rest => if h.proceeds n then h :: upToLast n rest else [h]

/-- The handlers that a notice reaches, in the order of calling. -/
def round (t : HookTable) (n : Notice) : List Handler := upToLast n (t.handlersFor n.kind)

end HookTable

end MessageBroker
