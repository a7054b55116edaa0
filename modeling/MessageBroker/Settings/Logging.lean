/-
# Log settings

Where log lines go, from which level on, and the name of the log file.
-/

import MessageBroker.Document.Reading
import MessageBroker.Log.Level

namespace MessageBroker

/-- Where log lines go. -/
inductive LogTarget where
  | off
  | file
  | console
  | both
  deriving DecidableEq, Repr, Inhabited

namespace LogTarget

/-- The name of a target. -/
def name : LogTarget → String
  | off => "Off"
  | file => "File"
  | console => "Console"
  | both => "Both"

/-- Whether lines go to a file. -/
def usesFile : LogTarget → Bool
  | file => true
  | both => true
  | _ => false

/-- Whether lines go to the console. -/
def usesConsole : LogTarget → Bool
  | console => true
  | both => true
  | _ => false

/-- Reads the name of a target, in any case. -/
def ofText? (s : String) : Option LogTarget :=
  match s.toLower with
  | "off" => some off
  | "file" => some file
  | "console" => some console
  | "both" => some both
  | _ => none

/-- Reads a target from a document. -/
def ofDocument (manner : Manner) (d : Document) : Read.Result LogTarget := do
  let s ← Read.text manner d
  match ofText? s with
  | some t => .ok t
  | none => .error (.unknownLogTarget s)

end LogTarget

/-- The settings of the log. -/
structure LogSettings where
  target : LogTarget
  level : LogLevel
  dir : String
  file : String
  deriving DecidableEq, Repr, Inhabited

namespace LogSettings

/-- The settings that hold where nothing else is given. -/
def standard : LogSettings := ⟨.console, .info, "/var/log/rbroker", "rbroker.log"⟩

/-- The directory without the slashes, of either direction, at its end. -/
def dirPath (s : LogSettings) : String :=
  String.ofList (s.dir.toList.reverse.dropWhile fun c => c = '/' || c = '\\').reverse

/-- The full name of the log file; empty when no file is configured. -/
def filename (s : LogSettings) : String :=
  if s.file = "" then ""
  else if s.dirPath = "" then s.file
  else s.dirPath ++ "/" ++ s.file

/-- The fields of the settings in documents. -/
def fields (manner : Manner) : List (Read.Field LogSettings) :=
  [⟨"to", fun d s => do return { s with target := ← LogTarget.ofDocument manner d }⟩,
   ⟨"level", fun d s => do return { s with level := ← LogLevel.ofDocument manner d }⟩,
   ⟨"dir", fun d s => do return { s with dir := ← Read.text manner d }⟩,
   ⟨"file", fun d s => do return { s with file := ← Read.text manner d }⟩]

/-- Reads the settings from a document. -/
def ofDocument (manner : Manner) : Document → Read.Result LogSettings :=
  Read.record manner (fields manner) standard

end LogSettings

end MessageBroker
