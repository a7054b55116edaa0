/-
# Destination settings

What is configured about one destination: the adapter that takes its messages, the
subtopics it allows, how long subscriptions and messages live, how its messages travel
between the nodes of a cluster, who may send and subscribe, and its throttle.
-/

import MessageBroker.Settings.Constraint
import MessageBroker.Throttle.Settings
import MessageBroker.Time.Span

namespace MessageBroker

/-- The name of a destination. -/
abbrev DestinationId := String

/-- The kind of adapter behind a destination. -/
inductive AdapterKind where
  /-- Messages go straight to the subscribers. -/
  | plain
  /-- Messages are handed to a bridge to another messaging system. -/
  | jms
  /-- An adapter of the application decides. -/
  | custom
  deriving DecidableEq, Repr, Inhabited

namespace AdapterKind

/-- The name of a kind. -/
def toText : AdapterKind → String
  | plain => "plain"
  | jms => "jms"
  | custom => "custom"

/-- Reads a kind from a document. -/
def ofDocument : Manner → Document → Read.Result AdapterKind :=
  Read.choice [("plain", plain), ("jms", jms), ("custom", custom)]

end AdapterKind

/-- How messages and subscriptions travel between the nodes of a cluster. -/
inductive RoutingMode where
  /-- Messages stay on their node. -/
  | none
  /-- Nodes share their subscriptions, and messages go to the nodes that match. -/
  | serverToServer
  /-- Every message goes to every node. -/
  | broadcast
  deriving DecidableEq, Repr, Inhabited

namespace RoutingMode

/-- The name of a mode. -/
def name : RoutingMode → String
  | none => "None"
  | serverToServer => "ServerToServer"
  | broadcast => "Broadcast"

/-- Reads a mode, in any case and with either kind of dash. No text at all means that
messages stay. -/
def ofText? (s : String) : Option RoutingMode :=
  match s.toLower.map fun c => if c = '_' then '-' else c with
  | "none" => some none
  | "" => some none
  | "server-to-server" => some serverToServer
  | "broadcast" => some broadcast
  | _ => Option.none

/-- The text that a mode is written as in documents. -/
def toDocument (m : RoutingMode) : Document := .text m.name

/-- Reads a mode from a document. -/
def ofDocument (manner : Manner) (d : Document) : Read.Result RoutingMode := do
  let s ← Read.text manner d
  match ofText? s with
  | some m => .ok m
  | Option.none => .error (.unknownRoutingMode s)

end RoutingMode

/-- The settings of one destination. -/
structure DestinationSettings where
  id : DestinationId
  adapter : AdapterKind
  /-- The name of the bridge or of the adapter of the application. -/
  adapterRef : Option String
  allowSubtopics : Bool
  disallowWildcards : Bool
  separator : Char
  /-- Minutes without activity after which subscriptions end; zero for never. -/
  timeoutMinutes : Nat
  /-- The age beyond which a message is not delivered; zero for none. -/
  messageTtl : Span
  routingMode : RoutingMode
  sendConstraint : Option String
  subscribeConstraint : Option String
  throttle : ThrottleSettings
  deriving DecidableEq, Repr, Inhabited

namespace DestinationSettings

/-- The settings that hold where nothing else is given. -/
def standard (id : DestinationId) : DestinationSettings where
  id := id
  adapter := .plain
  adapterRef := none
  allowSubtopics := false
  disallowWildcards := false
  separator := '.'
  timeoutMinutes := 0
  messageTtl := .zero
  routingMode := .none
  sendConstraint := none
  subscribeConstraint := none
  throttle := .unlimited

/-- The time without activity after which subscriptions end, if they do. The number of
seconds is cut at the largest 64-bit word. -/
def subscriptionTimeout? (s : DestinationSettings) : Option Span :=
  if s.timeoutMinutes = 0 then none
  else some (.ofSeconds (min (s.timeoutMinutes * 60) (0x10000000000000000 - 1)))

/-- The age beyond which messages are not delivered, if there is one. -/
def messageTtl? (s : DestinationSettings) : Option Span :=
  if s.messageTtl.isZero then none else some s.messageTtl

/-- The fields of the settings in documents, in their order; the name of the
destination is the key they stand under. -/
def fields (manner : Manner) : List (Read.Field DestinationSettings) :=
  [⟨"adapter", fun d s => do return { s with adapter := ← AdapterKind.ofDocument manner d }⟩,
   ⟨"adapter_ref", fun d s => do
      return { s with adapterRef := ← Read.optional (Read.text manner) d }⟩,
   ⟨"allow_subtopics", fun d s => do return { s with allowSubtopics := ← Read.bool manner d }⟩,
   ⟨"disallow_wildcard_subtopics", fun d s => do
      return { s with disallowWildcards := ← Read.bool manner d }⟩,
   ⟨"subtopic_separator", fun d s => do return { s with separator := ← Read.character d }⟩,
   ⟨"subscription_timeout_minutes", fun d s => do
      return { s with timeoutMinutes := ← Read.word64 manner d }⟩,
   ⟨"message_ttl", fun d s => do return { s with messageTtl := ← Span.ofDocument d }⟩,
   ⟨"routing_mode", fun d s => do
      return { s with routingMode := ← RoutingMode.ofDocument manner d }⟩,
   ⟨"send_security_constraint", fun d s => do
      return { s with sendConstraint := ← Read.optional (Read.text manner) d }⟩,
   ⟨"subscribe_security_constraint", fun d s => do
      return { s with subscribeConstraint := ← Read.optional (Read.text manner) d }⟩,
   ⟨"throttle", fun d s => do
      return { s with throttle := ← ThrottleSettings.ofDocument manner d }⟩]

/-- Reads the settings of a destination from a document. -/
def ofDocument (manner : Manner) (id : DestinationId) :
    Document → Read.Result DestinationSettings :=
  Read.record manner (fields manner) (standard id)

/-- The settings as a table, without the name of the destination. -/
def toDocument (s : DestinationSettings) : Document :=
  .ofMembers
    [("adapter", .text s.adapter.toText),
     ("adapter_ref", .ofText? s.adapterRef),
     ("allow_subtopics", .bool s.allowSubtopics),
     ("disallow_wildcard_subtopics", .bool s.disallowWildcards),
     ("subtopic_separator", .text s.separator.toString),
     ("subscription_timeout_minutes", .ofNat s.timeoutMinutes),
     ("message_ttl", s.messageTtl.toDocument),
     ("routing_mode", s.routingMode.toDocument),
     ("send_security_constraint", .ofText? s.sendConstraint),
     ("subscribe_security_constraint", .ofText? s.subscribeConstraint),
     ("throttle", s.throttle.toDocument)]

end DestinationSettings

end MessageBroker
