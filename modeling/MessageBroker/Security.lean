/-
# Principals and authorization

A principal is who a client has authenticated as. Whether a principal satisfies a
constraint, and whether a subtopic may be sent or subscribed to at all, is decided by
an authorizer; the usual one looks for one of the required roles and vetoes nothing.
-/

import MessageBroker.Settings.Constraint
import MessageBroker.Settings.Destination
import MessageBroker.Subtopic

namespace MessageBroker

/-- The text of a failure outside the broker. -/
abbrev Fault := String

/-- An authenticated identity. -/
structure Principal where
  name : String
  roles : List String
  deriving DecidableEq, Repr, Inhabited

/-- Whether a principal carries a role. -/
def Principal.hasRole (p : Principal) (role : String) : Bool := p.roles.contains role

/-- What a client asks to do with a destination. -/
inductive Access where
  | send
  | subscribe
  deriving DecidableEq, Repr

/-- The verb for an access. -/
def Access.toText : Access → String
  | send => "send"
  | subscribe => "subscribe"

/-- Decides on access. -/
structure Authorizer where
  /-- Whether a principal satisfies a requirement of one of several roles. -/
  satisfies : Principal → List String → Except Fault Bool
  /-- Whether a subtopic may be used at all, asked after the constraint. -/
  permits : Access → DestinationId → Subtopic → Option Principal → Bool

namespace Authorizer

/-- Grants access to principals with at least one of the required roles. -/
def byRole : Authorizer where
  satisfies p roles := .ok (roles.any p.hasRole)
  permits _ _ _ _ := true

end Authorizer

end MessageBroker
