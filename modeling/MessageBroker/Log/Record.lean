/-
# Log records

A line of the log with what is known about it: its level, the part of the program that
wrote it, and the place in the program. Lines that come through the common facade bring
the place only in part; what they do not bring is marked as unknown.
-/

import MessageBroker.Log.Level

namespace MessageBroker

/-- The place in a program where a line was written. -/
structure LogPlace where
  file : String
  moduleName : String
  function : String
  line : Nat
  column : Nat
  deriving DecidableEq, Repr, Inhabited

/-- A line of the log. -/
structure LogRecord where
  level : LogLevel
  tag : String
  text : String
  place : LogPlace
  deriving DecidableEq, Repr, Inhabited

namespace LogRecord

/-- What stands for a file or a module that is not known. -/
def unknownName : String := "<unknown>"

/-- A line that came through the common facade, with its target as the tag. The facade
knows neither columns nor functions. -/
def ofFacade (level : LogLevel) (target text : String) (file moduleName : Option String)
    (line : Option Nat) : LogRecord where
  level := level
  tag := target
  text := text
  place :=
    { file := file.getD unknownName
      moduleName := moduleName.getD unknownName
      function := ""
      line := line.getD 0
      column := 0 }

/-- A record as a table. -/
def toDocument (r : LogRecord) : Document :=
  .ofMembers
    [("level", .text r.level.toText),
     ("tag", .text r.tag),
     ("msg", .text r.text),
     ("file", .text r.place.file),
     ("module", .text r.place.moduleName),
     ("function", .text r.place.function),
     ("line", .ofNat r.place.line),
     ("column", .ofNat r.place.column)]

end LogRecord

end MessageBroker
