/-
# What a log writes

A log keeps the lines that are at least as severe as its level and writes each with the
time and the name of the level in four letters. They go to the console, to the end of a
file, to both or nowhere, as the settings say. A log that writes to a file opens it
before anything else, and there is no log when that fails.
-/

import MessageBroker.Settings.Logging
import MessageBroker.Time.Calendar

namespace MessageBroker

/-- What a log leaves behind. -/
structure LogOutput where
  /-- The content of the log file, if there is one. -/
  file : Option String
  console : String
  deriving DecidableEq, Repr, Inhabited

namespace LogSettings

/-- The longest name of a file, in bytes. -/
def longestName : Nat := 255

/-- Whether a name leads to a file in the directory of the log. Empty parts and single
dots lead nowhere else, but a file cannot end in one of them. -/
def isFileName (name : String) : Bool :=
  let parts := name.splitOn "/"
  match parts.filter fun part => part ≠ "" && part ≠ "." with
  | [part] =>
    part ≠ ".." && parts.getLast? == some part && !part.contains '\x00' &&
      part.utf8ByteSize ≤ longestName
  | _ => false

/-- A line as it is written at a time. -/
def line (now : Timestamp) (level : LogLevel) (text : String) : String :=
  Calendar.render now ++ " " ++ level.shortText ++ " " ++ text ++ "\n"

/-- The lines of a log as they are written, those that are not severe enough left
out. -/
def render (s : LogSettings) (now : Timestamp) (lines : List (LogLevel × String)) : String :=
  String.join ((lines.filter fun (level, _) => level.isAtLeast s.level).map fun (level, text) =>
    line now level text)

/-- What a log has written once all lines are in, or nothing when its file could not be
opened. `dirExists` tells whether there is a directory for the file, and `existing` is
the content of the file beforehand. -/
def write (s : LogSettings) (now : Timestamp) (dirExists : Bool) (existing : Option String)
    (lines : List (LogLevel × String)) : Option LogOutput :=
  let hasPlace := dirExists && isFileName s.file
  let before := if hasPlace then existing else none
  let written := s.render now lines
  let console := if s.target.usesConsole then written else ""
  if s.target.usesFile then
    if hasPlace then some ⟨some (before.getD "" ++ written), console⟩ else none
  else some ⟨before, console⟩

end LogSettings

end MessageBroker
