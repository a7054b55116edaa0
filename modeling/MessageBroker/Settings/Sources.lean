/-
# Sources of settings

Settings are read from one TOML text, or from an optional file with the environment
laid over it. In both cases numbers and truth values may be written as texts. Whatever
is wrong with a source is one cause, while settings that were read but contradict
themselves keep theirs.
-/

import MessageBroker.Document.Layers
import MessageBroker.Document.Toml
import MessageBroker.Settings.Basic

namespace MessageBroker

/-- Why no settings came out of a source. -/
inductive SourceError where
  /-- The source is malformed, or a part of it is of the wrong kind. -/
  | unreadable
  | refused (error : SettingsError)
  deriving DecidableEq, Repr

namespace Settings

/-- The names of the environment that concern this program begin like this, in any case. -/
def variableStart : String := "rbroker_"

/-- Settings from sources, each laid over the ones before it. -/
def ofSources (sources : List (List (String × Document))) : Except SourceError Settings :=
  let d := sources.foldl (fun root source => Document.layer source root) (.table [])
  match ofDocument .lenient d with
  | .error _ => .error .unreadable
  | .ok s => s.accept.mapError .refused

/-- Settings from a TOML text. -/
def ofToml (s : String) : Except SourceError Settings :=
  match Document.Toml.read? s with
  | none => .error .unreadable
  | some members => ofSources [members]

/-- Settings from an optional TOML file with the environment laid over it. -/
def ofLayers (file : Option String) (environment : List (String × String)) :
    Except SourceError Settings :=
  let overriding := Document.ofEnvironment variableStart environment
  match file with
  | none => ofSources [overriding]
  | some s =>
    match Document.Toml.read? s with
    | none => .error .unreadable
    | some members => ofSources [members, overriding]

end Settings

end MessageBroker
