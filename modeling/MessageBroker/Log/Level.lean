/-
# Log levels

The severities of log lines, from the most severe to the most detailed. Programs that
log through the common facade know five of them: it has no critical level.
-/

import MessageBroker.Document.Reading

namespace MessageBroker

/-- The severity of a log line. -/
inductive LogLevel where
  | critical
  | error
  | warning
  | info
  | debug
  | trace
  deriving DecidableEq, Repr, Inhabited

namespace LogLevel

/-- The name of a level. -/
def toText : LogLevel → String
  | critical => "CRITICAL"
  | error => "ERROR"
  | warning => "WARNING"
  | info => "INFO"
  | debug => "DEBUG"
  | trace => "TRACE"

/-- The name of a level in four letters. -/
def shortText : LogLevel → String
  | critical => "CRIT"
  | error => "ERRO"
  | warning => "WARN"
  | info => "INFO"
  | debug => "DEBG"
  | trace => "TRCE"

/-- The rank of a level; a higher rank is less severe. -/
def rank : LogLevel → Nat
  | critical => 1
  | error => 2
  | warning => 3
  | info => 4
  | debug => 5
  | trace => 6

/-- All levels, the most severe first. -/
def all : List LogLevel := [critical, error, warning, info, debug, trace]

/-- Whether a level is at least as severe as a threshold. -/
def isAtLeast (level threshold : LogLevel) : Bool := level.rank ≤ threshold.rank

/-- Reads a name of either length, in any case. -/
def ofText? (s : String) : Option LogLevel :=
  let name := s.toUpper
  all.find? fun l => l.toText == name || l.shortText == name

/-- Reads a level from a document. -/
def ofDocument (manner : Manner) (d : Document) : Read.Result LogLevel := do
  let s ← Read.text manner d
  match ofText? s with
  | some l => .ok l
  | none => .error (.unknownLogLevel s)

/-- The name of the level in the common facade, which calls a critical line an error. -/
def facadeText : LogLevel → String
  | critical => "ERROR"
  | error => "ERROR"
  | warning => "WARN"
  | info => "INFO"
  | debug => "DEBUG"
  | trace => "TRACE"

/-- The level of a line logged through the common facade. -/
def ofFacade? (s : String) : Option LogLevel :=
  [error, warning, info, debug, trace].find? fun l => l.facadeText == s.toUpper

end LogLevel

end MessageBroker
