/-
# Errors of the broker

Every reason for which an operation is refused is a cause of its own. Causes fall into
categories, which tell a caller how to react; the wording of each cause begins with the
wording of its category.
-/

import MessageBroker.Security
import MessageBroker.Settings.Error
import MessageBroker.Subscription.Basic

namespace MessageBroker

/-- Why an authorization check failed. -/
inductive SecurityReason where
  /-- A constraint holds, but nobody has logged in. -/
  | noPrincipal
  /-- The principal has none of the required roles. -/
  | insufficientRole
  /-- Another principal is logged in on the session. -/
  | reauthenticationAttempted
  /-- The authorizer vetoed the subtopic. -/
  | subtopicDenied
  deriving DecidableEq, Repr

/-- The wording of a reason. -/
def SecurityReason.toText : SecurityReason → String
  | noPrincipal => "login required"
  | insufficientRole => "access denied"
  | reauthenticationAttempted => "cannot re-authenticate in the same session"
  | subtopicDenied => "subtopic not permitted"

/-- How a caller can react to an error. -/
inductive ErrorCategory where
  | configuration
  | security (reason : SecurityReason)
  | throttle
  | invalidSubtopic
  | serviceUnavailable
  /-- Something outside the broker failed; its own text is all there is to say. -/
  | collaborator
  deriving DecidableEq, Repr

/-- Why an operation is refused. -/
inductive BrokerError where
  | settings (error : SettingsError)
  | unknownDestination (id : DestinationId)
  | missingTransport
  | missingCluster (id : DestinationId) (mode : RoutingMode)
  | missingAdapterRef (id : DestinationId) (kind : AdapterKind)
  | unknownBridge (id : DestinationId) (name : String)
  | unknownAdapter (id : DestinationId) (name : String)
  | subtopicsDisallowed (id : DestinationId)
  | filterDisallowed (id : DestinationId) (subtopic : String)
  | wildcardDisallowed (id : DestinationId) (subtopic : String)
  | separatorMismatch (candidate pattern : Subtopic)
  | missingEvaluator (id : DestinationId)
  | noPrincipal (access : Access) (id : DestinationId)
  | insufficientRole (name : String) (access : Access) (id : DestinationId)
  | reauthentication (client : ClientId) (name : String)
  | subtopicDenied (access : Access) (subtopic : String) (id : DestinationId)
  | throttled (client : ClientId) (id : DestinationId)
  | subtopic (error : Subtopic.Error)
  | notStarted (id : DestinationId)
  | removedWhileSubscribing (sub : SubscriptionId) (client : ClientId) (id : DestinationId)
  | collaborator (fault : Fault)
  deriving DecidableEq, Repr

namespace BrokerError

/-- The category of a cause. -/
def category : BrokerError → ErrorCategory
  | settings _ | unknownDestination _ | missingTransport | missingCluster .. |
    missingAdapterRef .. | unknownBridge .. | unknownAdapter .. | subtopicsDisallowed _ |
    filterDisallowed .. | wildcardDisallowed .. | separatorMismatch .. |
    missingEvaluator _ => .configuration
  | noPrincipal .. => .security .noPrincipal
  | insufficientRole .. => .security .insufficientRole
  | reauthentication .. => .security .reauthenticationAttempted
  | subtopicDenied .. => .security .subtopicDenied
  | throttled .. => .throttle
  | subtopic _ => .invalidSubtopic
  | notStarted _ | removedWhileSubscribing .. => .serviceUnavailable
  | collaborator _ => .collaborator

/-- What is said about a cause, without its category. -/
def detail : BrokerError → String
  | settings e => e.message
  | unknownDestination id => s!"unknown destination `{id}`"
  | missingTransport => "a transport must be configured"
  | missingCluster id mode =>
    "destination " ++ id ++ " uses routing mode " ++ mode.name ++ " but no cluster is configured"
  | missingAdapterRef id kind =>
    let name := kind.toText
    s!"destination {id}: adapter `{name}` requires adapter_ref"
  | unknownBridge id name => s!"destination {id}: no message bridge named `{name}`"
  | unknownAdapter id name => s!"destination {id}: no custom adapter named `{name}`"
  | subtopicsDisallowed id => s!"destination {id} does not allow subtopics"
  | filterDisallowed id s => s!"destination {id} does not allow subtopics, `{s}`"
  | wildcardDisallowed id s => s!"destination {id} does not allow wildcard subtopics, `{s}`"
  | separatorMismatch t p =>
    let (a, c) := (t.value, Text.quotedChar t.separator)
    let (b, d) := (p.value, Text.quotedChar p.separator)
    s!"cannot compare subtopic `{a}` (separator {c}) with `{b}` (separator {d})"
  | missingEvaluator id =>
    s!"destination {id} received a selector subscription but no selector evaluator is configured"
  | noPrincipal access id =>
    access.toText ++ " on destination " ++ id ++ " requires an authenticated principal"
  | insufficientRole name access id =>
    name ++ " is not authorized to " ++ access.toText ++ " on destination " ++ id
  | reauthentication client name => s!"{client} is already authenticated as {name}"
  | subtopicDenied access s id =>
    let verb := access.toText
    s!"{verb} to subtopic `{s}` of destination {id} denied"
  | throttled client id => s!"{client} exceeded the send frequency of destination {id}"
  | subtopic e => e.message
  | notStarted id => s!"destination {id} is not started"
  | removedWhileSubscribing sub client id =>
    s!"subscription {sub} of {client} to {id} was removed while subscribing"
  | collaborator fault => fault

/-- How the wording of a category begins. -/
def leadIn : ErrorCategory → String
  | .configuration => "configuration error, "
  | .security reason => "security error, " ++ reason.toText ++ ", "
  | .throttle => "throttle error, "
  | .invalidSubtopic => "invalid subtopic, "
  | .serviceUnavailable => "service unavailable, "
  | .collaborator => ""

/-- What is said about an error. -/
def message (e : BrokerError) : String := leadIn e.category ++ e.detail

end BrokerError

/-- Whether a pattern admits a subtopic; patterns with another separator are not
compared with it. -/
def Subtopic.matches (t pattern : Subtopic) : Except BrokerError Bool :=
  if t.separator = pattern.separator then .ok (t.matchedBy pattern)
  else .error (.separatorMismatch t pattern)

end MessageBroker
