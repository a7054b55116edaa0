/-
# Throttle settings

A destination may limit how many messages per second pass it, in each direction, all
clients together and each client alone. Zero switches a limit off. What happens to a
message beyond a limit is the policy of the direction.

Two rules hold for settings in use: the limit of one client is not above a limit of the
whole destination in the same direction, and messages on their way to recipients are
never refused with an error, since nobody waits for the answer. The setters keep both
rules; settings that were read from a document are checked as a whole.
-/

import MessageBroker.Document.Reading
import MessageBroker.Text.Blank

namespace MessageBroker

/-- What happens to a message beyond a limit. -/
inductive Policy where
  /-- The direction is not limited at all. -/
  | none
  /-- The sender sees an error. -/
  | error
  /-- The message is dropped and counted. -/
  | ignore
  deriving DecidableEq, Repr, Inhabited

namespace Policy

/-- The name of a policy in texts. -/
def toText : Policy → String
  | none => "NONE"
  | error => "ERROR"
  | ignore => "IGNORE"

/-- The name of a policy in documents. -/
def name : Policy → String
  | none => "None"
  | error => "Error"
  | ignore => "Ignore"

/-- Reads the name of a policy, in any case and with blanks around it. -/
def ofText? (s : String) : Option Policy :=
  match (Text.trim s).toUpper with
  | "NONE" => some none
  | "ERROR" => some error
  | "IGNORE" => some ignore
  | _ => Option.none

/-- Reads a policy from a document. -/
def ofDocument (manner : Manner) (d : Document) : Read.Result Policy := do
  let s ← Read.text manner d
  match ofText? s with
  | some p => .ok p
  | Option.none => .error (.unknownPolicy s)

end Policy

/-- The direction in which a message passes a destination. -/
inductive Direction where
  | inbound
  | outbound
  deriving DecidableEq, Repr

/-- The name of a direction in texts. -/
def Direction.toText : Direction → String
  | inbound => "inbound"
  | outbound => "outbound"

/-- The same kind of thing once for each direction. -/
structure PerDirection (α : Type) where
  inbound : α
  outbound : α
  deriving DecidableEq, Repr, Inhabited

namespace PerDirection

/-- The part of a direction. -/
def get (p : PerDirection α) : Direction → α
  | .inbound => p.inbound
  | .outbound => p.outbound

/-- Replaces the part of a direction. -/
def set (p : PerDirection α) (d : Direction) (a : α) : PerDirection α :=
  match d with
  | .inbound => { p with inbound := a }
  | .outbound => { p with outbound := a }

@[simp] theorem get_set_self (p : PerDirection α) (d : Direction) (a : α) :
    (p.set d a).get d = a := by cases d <;> rfl

@[simp] theorem set_get_self (p : PerDirection α) (d : Direction) :
    p.set d (p.get d) = p := by cases d <;> rfl

@[simp] theorem set_set (p : PerDirection α) (d : Direction) (a b : α) :
    (p.set d a).set d b = p.set d b := by cases d <;> rfl

theorem get_set_of_ne (p : PerDirection α) {d e : Direction} (h : e ≠ d) (a : α) :
    (p.set d a).get e = p.get e := by cases d <;> cases e <;> simp_all [get, set]

end PerDirection

/-- The limits of one direction, in messages per second. -/
structure Limits where
  policy : Policy
  client : Nat
  destination : Nat
  deriving DecidableEq, Repr, Inhabited

/-- The limits of both directions. -/
abbrev ThrottleSettings := PerDirection Limits

namespace ThrottleSettings

/-- No limits. -/
def unlimited : ThrottleSettings := ⟨⟨.none, 0, 0⟩, ⟨.none, 0, 0⟩⟩

/-- Why settings are refused. -/
inductive Error where
  | outboundError
  | clientAboveDestination (direction : Direction) (client destination : Nat)
  deriving DecidableEq, Repr

/-- What is said about refused settings. -/
def Error.message : Error → String
  | outboundError => "outbound throttle policy must be NONE or IGNORE, ERROR is not supported"
  | clientAboveDestination d client destination =>
    let name := d.toText
    s!"{name} client frequency {client} exceeds {name} destination frequency {destination}"

/-- Refuses a client's limit above a limit of the destination. -/
def checkClient (d : Direction) (client destination : Nat) : Except Error Unit :=
  if destination ≠ 0 ∧ destination < client then
    .error (.clientAboveDestination d client destination)
  else .ok ()

/-- Refuses the error policy for messages on their way to recipients. -/
def checkPolicy : Direction → Policy → Except Error Unit
  | .outbound, .error => .error .outboundError
  | _, _ => .ok ()

/-- Checks settings as a whole. -/
def validate (s : ThrottleSettings) : Except Error Unit := do
  checkPolicy .outbound s.outbound.policy
  checkClient .inbound s.inbound.client s.inbound.destination
  checkClient .outbound s.outbound.client s.outbound.destination

/-- Whether some limit of a direction can ever stop a message. -/
def isEnabled (s : ThrottleSettings) (d : Direction) : Bool :=
  let l := s.get d
  l.policy ≠ .none && (0 < l.client || 0 < l.destination)

/-- Sets the policy of a direction. -/
def setPolicy (s : ThrottleSettings) (d : Direction) (p : Policy) :
    Except Error ThrottleSettings := do
  checkPolicy d p
  return s.set d { s.get d with policy := p }

/-- Sets the limit of one client in a direction. -/
def setClient (s : ThrottleSettings) (d : Direction) (n : Nat) :
    Except Error ThrottleSettings := do
  checkClient d n (s.get d).destination
  return s.set d { s.get d with client := n }

/-- Sets the limit of the whole destination in a direction. -/
def setDestination (s : ThrottleSettings) (d : Direction) (n : Nat) :
    Except Error ThrottleSettings := do
  checkClient d (s.get d).client n
  return s.set d { s.get d with destination := n }

/-- The fields of settings in documents. -/
def fields (manner : Manner) : List (Read.Field ThrottleSettings) :=
  [policy "inbound_policy" .inbound, policy "outbound_policy" .outbound,
   client "incoming_client_frequency" .inbound,
   destination "incoming_destination_frequency" .inbound,
   client "outgoing_client_frequency" .outbound,
   destination "outgoing_destination_frequency" .outbound]
where
  /-- The policy of a direction as a field. -/
  policy (name : String) (d : Direction) : Read.Field ThrottleSettings :=
    ⟨name, fun v s => do return s.set d { s.get d with policy := ← Policy.ofDocument manner v }⟩
  /-- The limit of one client as a field. -/
  client (name : String) (d : Direction) : Read.Field ThrottleSettings :=
    ⟨name, fun v s => do return s.set d { s.get d with client := ← Read.word32 manner v }⟩
  /-- The limit of the whole destination as a field. -/
  destination (name : String) (d : Direction) : Read.Field ThrottleSettings :=
    ⟨name, fun v s => do return s.set d { s.get d with destination := ← Read.word32 manner v }⟩

/-- Reads settings from a document, without checking them. -/
def ofDocument (manner : Manner) : Document → Read.Result ThrottleSettings :=
  Read.record manner (fields manner) unlimited

/-- Settings as a table. -/
def toDocument (s : ThrottleSettings) : Document :=
  .ofMembers
    [("inbound_policy", .text s.inbound.policy.name),
     ("outbound_policy", .text s.outbound.policy.name),
     ("incoming_client_frequency", .ofNat s.inbound.client),
     ("incoming_destination_frequency", .ofNat s.inbound.destination),
     ("outgoing_client_frequency", .ofNat s.outbound.client),
     ("outgoing_destination_frequency", .ofNat s.outbound.destination)]

/-- Settings as a line of text. -/
def toText (s : ThrottleSettings) : String :=
  "ThrottleSettings \x7b inbound_policy: " ++ s.inbound.policy.name ++
    ", outbound_policy: " ++ s.outbound.policy.name ++
    ", incoming_client_frequency: " ++ toString s.inbound.client ++
    ", incoming_destination_frequency: " ++ toString s.inbound.destination ++
    ", outgoing_client_frequency: " ++ toString s.outbound.client ++
    ", outgoing_destination_frequency: " ++ toString s.outbound.destination ++ " \x7d"

end ThrottleSettings

end MessageBroker
