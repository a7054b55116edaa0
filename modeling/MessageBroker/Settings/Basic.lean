/-
# Settings of a node

The settings of a whole node, and the rules that must hold before they are used: no
window and no interval of length zero, and for each destination a name, a separator
that can be told from the text around it, a consistent throttle, the name of an adapter
where one is needed, and constraints that are defined. Destinations and constraints are
named by the keys they stand under.
-/

import Std.Data.ExtTreeMap
import MessageBroker.Settings.Error
import MessageBroker.Settings.Logging

open Std

namespace MessageBroker

/-- The settings of a node. -/
structure Settings where
  node : Nat
  log : LogSettings
  /-- How often idle subscriptions are swept. -/
  sweepInterval : Span
  /-- The length of the windows in which messages are counted. -/
  window : Span
  constraints : ExtTreeMap String Constraint
  destinations : ExtTreeMap String DestinationSettings

namespace DestinationSettings

/-- Whether a character can be told from the text between two separators. -/
def isSeparator (c : Char) : Bool := c ≠ '*' && !Text.isBlank c && !Text.isControl c

/-- The names of the constraints on sending and subscribing, in this order. -/
def constraintNames (s : DestinationSettings) : List String :=
  s.sendConstraint.toList ++ s.subscribeConstraint.toList

/-- The first rule about a named destination that its settings break. -/
def check (constraints : ExtTreeMap String Constraint) (s : DestinationSettings) :
    Except DestinationError Unit :=
  if !isSeparator s.separator then .error (.separator s.separator)
  else
    match s.throttle.validate with
    | .error e => .error (.throttle e)
    | .ok () =>
      if s.adapter ≠ .plain ∧ s.adapterRef.getD "" = "" then
        .error (.missingAdapterRef s.adapter)
      else
        match s.constraintNames.find? fun name => !constraints.contains name with
        | some name => .error (.unknownConstraint name)
        | none => .ok ()

/-- Checks what can be known about a destination from the settings alone. -/
def validate (constraints : ExtTreeMap String Constraint) (s : DestinationSettings) :
    Except SettingsError Unit :=
  if s.id = "" then .error .emptyDestinationId
  else (s.check constraints).mapError (.destination s.id)

end DestinationSettings

namespace Settings

/-- The settings that hold where nothing else is given. -/
def standard : Settings where
  node := 0
  log := .standard
  sweepInterval := .ofSeconds 30
  window := .ofSeconds 1
  constraints := ∅
  destinations := ∅

/-- Adds a destination under its own name, in place of one of the same name. -/
def addDestination (s : Settings) (d : DestinationSettings) : Settings :=
  { s with destinations := s.destinations.insert d.id d }

/-- Adds a constraint under its own name, in place of one of the same name. -/
def addConstraint (s : Settings) (c : Constraint) : Settings :=
  { s with constraints := s.constraints.insert c.id c }

/-- Gives every destination and every constraint the name it stands under. -/
def named (s : Settings) : Settings :=
  { s with
    constraints := s.constraints.map fun id c => { c with id }
    destinations := s.destinations.map fun id d => { d with id } }

/-- Checks the settings; the destinations are checked in the order of their names. -/
def validate (s : Settings) : Except SettingsError Unit :=
  if s.window.isZero then .error .zeroWindow
  else if s.sweepInterval.isZero then .error .zeroSweepInterval
  else s.destinations.values.forM (·.validate s.constraints)

/-- Names and checks settings, as has to be done before they are used. -/
def accept (s : Settings) : Except SettingsError Settings := do
  let s := s.named
  s.validate
  return s

/-- A section of the settings with one span. -/
def spanSection (name : String) (manner : Manner) (d : Document) (current : Span) :
    Read.Result Span :=
  Read.record manner [⟨name, fun d _ => Span.ofDocument d⟩] current d

/-- The sections of the settings in documents, in their order. -/
def fields (manner : Manner) : List (Read.Field Settings) :=
  [⟨"node", fun d s => do
      let id : Read.Field Nat := ⟨"id", fun d _ => Read.word64 manner d⟩
      return { s with node := ← Read.record manner [id] s.node d }⟩,
   ⟨"log", fun d s => do return { s with log := ← LogSettings.ofDocument manner d }⟩,
   ⟨"session", fun d s => do
      return { s with sweepInterval := ← spanSection "sweep_interval" manner d s.sweepInterval }⟩,
   ⟨"throttle", fun d s => do
      return { s with window := ← spanSection "window" manner d s.window }⟩,
   ⟨"security", fun d s => do
      let constraints : Read.Field (ExtTreeMap String Constraint) :=
        ⟨"constraints", fun d _ => do
          return ExtTreeMap.ofList (← Read.table (Constraint.ofDocument manner) d)⟩
      return { s with constraints := ← Read.record manner [constraints] s.constraints d }⟩,
   ⟨"destination", fun d s => do
      let entries ← Read.table (DestinationSettings.ofDocument manner "") d
      return { s with destinations := ExtTreeMap.ofList entries }⟩]

/-- Reads settings from a document, without checking them. -/
def ofDocument (manner : Manner) : Document → Read.Result Settings :=
  Read.record manner (fields manner) standard

/-- The lines that describe the settings when a node comes up. -/
def logLines (s : Settings) : List String :=
  [s!"node_id is {s.node}",
   "session.sweep_interval is " ++ s.sweepInterval.toText,
   "throttle.window is " ++ s.window.toText,
   "security constraints: " ++ Text.quotedList s.constraints.keys] ++
  s.destinations.toList.map fun (_, d) =>
    "destination " ++ d.id ++ " adapter: " ++ d.adapter.toText ++ ", routing: " ++
      d.routingMode.name ++ ", throttle: " ++ d.throttle.toText

end Settings

end MessageBroker
