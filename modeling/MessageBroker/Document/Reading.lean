/-
# Reading values out of documents

Settings and messages are read out of documents in one of two manners. The strict
manner takes each part in exactly the kind of document that stands for it. The
lenient manner serves sources that cannot tell numbers from texts, such as the
environment: it converts between truth values, numbers and texts where a value of a
definite kind is wanted.

A record is read from a table, member by member in the order of the table, or from a
list that gives its fields in order. Fields that are not given keep their defaults and
members that are no fields are passed over.
-/

import MessageBroker.Document
import MessageBroker.Text.Digits

namespace MessageBroker

/-- How much conversion is allowed when a value is read out of a document. -/
inductive Manner where
  | strict
  | lenient
  deriving DecidableEq, Repr

/-- Why a document was not read as the value that was asked for. -/
inductive ReadError where
  /-- A part is missing, of the wrong kind, or out of range. -/
  | shape
  | unknownDuration (text : String)
  | unknownLogTarget (text : String)
  | unknownLogLevel (text : String)
  | unknownRoutingMode (text : String)
  | unknownPolicy (text : String)
  deriving DecidableEq, Repr

namespace Read

/-- The result of reading a value. -/
abbrev Result (α : Type) := Except ReadError α

/-- The texts that stand for true, in lower case. -/
def yesWords : List String := ["true", "on", "yes"]

/-- The texts that stand for false, in lower case. -/
def noWords : List String := ["false", "off", "no"]

/-- A truth value. -/
def bool : Manner → Document → Result Bool
  | _, .bool b => .ok b
  | .lenient, .int i => .ok (i != 0)
  | .lenient, .float x => .ok (!x.isZero)
  | .lenient, .text s =>
    let word := s.toLower
    if word ∈ "1" :: yesWords then .ok true
    else if word ∈ "0" :: noWords then .ok false
    else .error .shape
  | _, _ => .error .shape

/-- The whole number that a document stands for in the lenient manner. A fraction is
rounded and clamped to the range of an unsigned word; a value without rounding, such
as an undefined one, counts as zero. -/
def wholeNumber? : Document → Option Int
  | .int i => some i
  | .bool b => some (if b then 1 else 0)
  | .float x =>
    match x with
    | .nan => some 0
    | .infinite negative => some (if negative then 0 else 0x10000000000000000 - 1)
    | .finite .. => x.round?.map fun i => max 0 (min i (0x10000000000000000 - 1))
  | .text s =>
    let word := s.toLower
    if word ∈ yesWords then some 1
    else if word ∈ noWords then some 0
    else (Text.readUnsigned? s.toList).map fun n => (n : Int)
  | _ => none

/-- A natural number below a limit of at most 64 bits. -/
def unsigned (limit : Nat) : Manner → Document → Result Nat
  | .strict, .int i => inRange i
  | .strict, _ => .error .shape
  | .lenient, d =>
    match wholeNumber? d with
    | some i => inRange i
    | none => .error .shape
where
  /-- Refuses a number outside the range. -/
  inRange (i : Int) : Result Nat :=
    if 0 ≤ i ∧ i < limit then .ok i.toNat else .error .shape

/-- A number of 32 bits. -/
def word32 : Manner → Document → Result Nat := unsigned 0x100000000

/-- A number of 64 bits. -/
def word64 : Manner → Document → Result Nat := unsigned 0x10000000000000000

/-- A signed number of 64 bits, without conversions. -/
def int64 : Document → Result Int
  | .int i => if -0x8000000000000000 ≤ i ∧ i < 0x8000000000000000 then .ok i else .error .shape
  | _ => .error .shape

/-- A text. -/
def text : Manner → Document → Result String
  | _, .text s => .ok s
  | .lenient, .bool b => .ok (if b then "true" else "false")
  | .lenient, .int i => .ok (toString i)
  | .lenient, .float x => .ok x.toText
  | _, _ => .error .shape

/-- A text of exactly one character; neither manner converts anything else to it. -/
def character : Document → Result Char
  | .text s =>
    match s.toList with
    | [c] => .ok c
    | _ => .error .shape
  | _ => .error .shape

/-- A value that may be null. -/
def optional (read : Document → Result α) : Document → Result (Option α)
  | .null => .ok none
  | d => (read d).map some

/-- A list of values. -/
def list (read : Document → Result α) : Document → Result (List α)
  | .list items => items.mapM read
  | _ => .error .shape

/-- A table whose members all hold the same kind of value. -/
def table (read : Document → Result α) : Document → Result (List (String × α))
  | .table members => members.mapM fun (k, d) => (read d).map fun v => (k, v)
  | _ => .error .shape

/-- One of a few named values: its name, or a table whose only member has that name.
In the strict manner that member has to be null. -/
def choice (names : List (String × α)) : Manner → Document → Result α
  | _, .text s => named s
  | .strict, .table [(k, .null)] => named k
  | .lenient, .table [(k, _)] => named k
  | _, _ => .error .shape
where
  /-- The value with a name. -/
  named (s : String) : Result α :=
    match names.lookup s with
    | some v => .ok v
    | none => .error .shape

/-- A field of a record: its name, and how a document sets it. -/
structure Field (σ : Type) where
  name : String
  set : Document → σ → Result σ

/-- Sets the fields of a record in order from a list of documents. The strict manner
refuses a list that is longer than the record. -/
def inOrder (manner : Manner) : List (Field σ) → List Document → σ → Result σ
  | [], [], s => .ok s
  | [], _ :: _, s => if manner = .strict then .error .shape else .ok s
  | _ :: _, [], s => .ok s
  | f :: fs, d :: ds, s => do inOrder manner fs ds (← f.set d s)

/-- Sets the field that a table member names, if there is one. -/
def member (fields : List (Field σ)) (s : σ) (m : String × Document) : Result σ :=
  match fields.find? (·.name == m.1) with
  | some f => f.set m.2 s
  | none => .ok s

/-- A record, starting from its defaults. -/
def record (manner : Manner) (fields : List (Field σ)) (start : σ) : Document → Result σ
  | .table members => members.foldlM (member fields) start
  | .list items => inOrder manner fields items start
  | _ => .error .shape

/-- A part that has to be given. -/
def required : Option α → Result α
  | some v => .ok v
  | none => .error .shape

end Read

namespace ReadError

/-- What is said about an error. A mismatch of kinds has no text of its own. -/
def message? : ReadError → Option String
  | shape => none
  | unknownDuration s => some s!"invalid duration `{s}`"
  | unknownLogTarget s =>
    some s!"unknown log target `{s}`, expected off, file, console or both"
  | unknownLogLevel s => some s!"unknown log level `{s}`"
  | unknownRoutingMode s =>
    some s!"unknown routing mode `{s}`, expected none, server-to-server or broadcast"
  | unknownPolicy s =>
    some s!"invalid configuration, unknown throttle policy `{s}`, expected one of NONE, ERROR, IGNORE"

end ReadError

end MessageBroker
