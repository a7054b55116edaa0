/-
# The security gate

Who may send to a destination, and who may subscribe. A destination without a constraint
admits everybody. Otherwise somebody has to be logged in, and, unless the constraint asks
for no roles, the authorizer must find the principal good enough. Afterwards the
authorizer may veto single subtopics. Messages from other nodes passed the gate there.
-/

import MessageBroker.Broker.State

namespace MessageBroker

/-- The constraint on an access to a destination. -/
def Destination.constraintOn (d : Destination) : Access → Option Constraint
  | .send => d.sendConstraint
  | .subscribe => d.subscribeConstraint

/-- Where a message entered the cluster. -/
inductive Origin where
  /-- A client of this node sent it. -/
  | client
  /-- Another node passed it on. -/
  | peer
  deriving DecidableEq, Repr

namespace Broker

/-- Checks an access of a principal to a destination. -/
def authorize (env : Environment) (access : Access) (d : Destination)
    (principal : Option Principal) (b : Broker) : Broker × Except BrokerError Unit :=
  match d.constraintOn access with
  | none => (b, .ok ())
  | some constraint =>
    match principal with
    | none => (b, .error (.noPrincipal access d.id))
    | some p =>
      if constraint.roles.isEmpty then (b, .ok ())
      else
        let b := b.record (.roleCheck p constraint.roles)
        match env.authorizer.satisfies p constraint.roles with
        | .ok true => (b, .ok ())
        | .ok false => (b, .error (.insufficientRole p.name access d.id))
        | .error fault => (b, .error (.collaborator fault))

/-- Checks the sending of a message. Another node checked its messages itself. -/
def authorizeSend (env : Environment) (origin : Origin) (d : Destination)
    (principal : Option Principal) (b : Broker) : Broker × Except BrokerError Unit :=
  match origin with
  | .client => authorize env .send d principal b
  | .peer => (b, .ok ())

/-- Checks an access to one subtopic of a destination. -/
def authorizeSubtopic (env : Environment) (access : Access) (d : Destination)
    (principal : Option Principal) (t : Subtopic) : Except BrokerError Unit :=
  if env.authorizer.permits access d.id t principal then .ok ()
  else .error (.subtopicDenied access t.value d.id)

end Broker

end MessageBroker
