/-
# Refused settings

Settings that were read well may still contradict themselves. Each reason for refusing
them is a cause of its own, and the wording stands here.
-/

import MessageBroker.Settings.Destination
import MessageBroker.Text.Quoted

namespace MessageBroker

/-- Why the settings of a destination are refused. -/
inductive DestinationError where
  | separator (c : Char)
  | throttle (error : ThrottleSettings.Error)
  | missingAdapterRef (kind : AdapterKind)
  | unknownConstraint (name : String)
  deriving DecidableEq, Repr

/-- Why settings are refused. -/
inductive SettingsError where
  | zeroWindow
  | zeroSweepInterval
  | emptyDestinationId
  | destination (id : DestinationId) (error : DestinationError)
  | throttle (error : ThrottleSettings.Error)
  | unknownPolicy (text : String)
  deriving DecidableEq, Repr

/-- What is said about refused throttle settings. -/
def throttleMessage (e : ThrottleSettings.Error) : String :=
  "invalid configuration, " ++ e.message

/-- What is said about the refused settings of a destination. -/
def DestinationError.reason : DestinationError → String
  | separator c => "invalid subtopic separator " ++ Text.quotedChar c
  | throttle e => throttleMessage e
  | missingAdapterRef kind =>
    let name := kind.toText
    s!"adapter `{name}` requires adapter_ref"
  | unknownConstraint name => s!"unknown security constraint `{name}`"

/-- What is said about refused settings. -/
def SettingsError.message : SettingsError → String
  | zeroWindow => "invalid configuration, throttle.window must be greater than zero"
  | zeroSweepInterval =>
    "invalid configuration, session.sweep_interval must be greater than zero"
  | emptyDestinationId => "invalid configuration, destination id must not be empty"
  | destination id e =>
    let reason := e.reason
    s!"invalid configuration, destination `{id}`: {reason}"
  | throttle e => throttleMessage e
  | unknownPolicy s =>
    s!"invalid configuration, unknown throttle policy `{s}`, expected one of NONE, ERROR, IGNORE"

/-- Reads the name of a policy that is given alone. -/
def Policy.parse (s : String) : Except SettingsError Policy :=
  match Policy.ofText? s with
  | some p => .ok p
  | Option.none => .error (.unknownPolicy s)

end MessageBroker
