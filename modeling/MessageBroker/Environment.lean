/-
# The environment of a broker

A broker works with collaborators that it does not contain: a transport that pushes
messages to clients, the other nodes of a cluster, an authorizer, an evaluator of
selectors, bridges to other messaging systems and adapters of the application. For the
time of one operation, the environment says what the clock shows and what each of them
answers. What the broker asked of them, and in which order, is its journal.
-/

import MessageBroker.Hook
import MessageBroker.Log.Level
import MessageBroker.Security
import MessageBroker.Subscription.Remote

namespace MessageBroker

/-- The adapter behind a destination, with the name of what it leads to. -/
inductive Adapter where
  | plain
  | bridge (name : String)
  | custom (name : String)
  deriving DecidableEq, Repr, Inhabited

/-- The kind of an adapter. -/
def Adapter.kind : Adapter → AdapterKind
  | plain => .plain
  | bridge _ => .jms
  | custom _ => .custom

/-- An adapter as a word of text. -/
def Adapter.toText (a : Adapter) : String := "Adapter(" ++ a.kind.toText ++ ")"

/-- What becomes of a message that an adapter has seen. -/
inductive Invocation where
  | fanout
  /-- The adapter took the message over. -/
  | consumed
  deriving DecidableEq, Repr, Inhabited

/-- The nodes that a message is forwarded to. -/
inductive Targets where
  | all
  | peers (ids : List PeerId)
  deriving DecidableEq, Repr, Inhabited

/-- The targets as a line of text. -/
def Targets.toText : Targets → String
  | all => "All"
  | peers ids => "Peers([" ++ ", ".intercalate (ids.map toString) ++ "])"

/-- The answer of something that may fail. -/
abbrev Answer := Except Fault Unit

/-- Evaluates a selector on headers and body. -/
abbrev Evaluator := Selector → Headers → List UInt8 → Except Fault Bool

/-- The other nodes of a cluster. -/
structure Cluster where
  tellChange : DestinationId → KeyChange → Answer
  /-- What being told of a change asks of the broker before it is answered. -/
  callback : DestinationId → KeyChange → Option Callback
  forward : Targets → Message → Answer

/-- A bridge to another messaging system. -/
structure Bridge where
  start : DestinationId → Answer
  stop : DestinationId → Answer
  send : DestinationId → Message → Answer

/-- An adapter of the application. -/
structure CustomAdapter where
  start : DestinationId → Answer
  stop : DestinationId → Answer
  invoke : Message → Except Fault Invocation

/-- The collaborators during one operation, and the one reading of the clock that it goes by. A
real broker reads the clock again for each recipient of a message; here it stands still
meanwhile. -/
structure Environment where
  now : Timestamp
  deliver : ClientId → Message → Answer
  cluster : Option Cluster
  authorizer : Authorizer
  evaluator : Option Evaluator
  bridge : String → Bridge
  custom : String → CustomAdapter

/-- A call of an adapter. -/
inductive AdapterCall where
  | start (destination : DestinationId)
  | stop (destination : DestinationId)
  | send (destination : DestinationId) (message : Message)
  deriving Inhabited

/-- Something that the broker did to the world around it. -/
inductive Event where
  | delivery (client : ClientId) (message : Message)
  | change (destination : DestinationId) (change : KeyChange)
  | forward (targets : Targets) (message : Message)
  | evaluation (selector : Selector)
  | roleCheck (principal : Principal) (roles : List String)
  | bridge (name : String) (call : AdapterCall)
  | custom (name : String) (call : AdapterCall)
  /-- Something happened that handlers are told of, whether there are any or not. -/
  | notice (n : Notice)
  | hook (handler : String) (notice : Notice)
  /-- A handler ended a subscription; whether there was one. -/
  | hookUnsubscribed (handler : String) (removed : Bool)
  | log (level : LogLevel) (text : String)
  deriving Inhabited

end MessageBroker
