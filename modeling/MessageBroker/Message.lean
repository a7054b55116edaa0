/-
# Messages

A message as a client sent it: where it goes, from whom it comes, the subtopics it is
sent to, headers for selectors, and a body of bytes. A message without subtopics has an
empty list of them; one with several reaches every subscriber that matches any.
-/

import MessageBroker.Document.Reading
import MessageBroker.Settings.Destination
import MessageBroker.Text.Quoted
import MessageBroker.Text.Uuid
import MessageBroker.Throttle.Limiter

namespace MessageBroker

/-- The headers of a message, in ascending order of their names. -/
abbrev Headers := Document.Members

/-- A message that has been taken apart. -/
structure Message where
  id : Uuid
  destination : DestinationId
  client : ClientId
  subtopics : List String
  headers : Headers
  body : List UInt8
  timestamp : Timestamp
  deriving Inhabited

namespace Message

/-- The time since a message was made; never negative. -/
def age (m : Message) (now : Timestamp) : Int := max (Timestamp.since now m.timestamp) 0

/-- A message as a line of text. -/
def toText (m : Message) : String :=
  "Message \x7b id: " ++ m.id.toText ++ ", destination: " ++ m.destination ++
    ", from: " ++ m.client ++ ", subtopics: " ++ Text.quotedList m.subtopics ++
    ", body: " ++ toString m.body.length ++ " bytes, ts: " ++ toString m.timestamp ++ " \x7d"

/-- A message as a table, its body as a list of bytes. -/
def toDocument (m : Message) : Document :=
  .ofMembers
    [("id", .text m.id.toText),
     ("destination", .text m.destination),
     ("client_id", .text m.client),
     ("subtopics", .list (m.subtopics.map .text)),
     ("headers", .table m.headers),
     ("body", .list (m.body.map fun b => .int b.toNat)),
     ("timestamp", .int m.timestamp)]

/-- A message of which parts may still be missing. -/
structure Draft where
  id : Option Uuid
  destination : Option DestinationId
  client : Option ClientId
  subtopics : List String
  headers : Headers
  body : Option (List UInt8)
  timestamp : Option Timestamp

/-- Reads an identifier in any of its spellings. -/
def readId (d : Document) : Read.Result Uuid := do
  Read.required (Uuid.ofText? (← Read.text .strict d))

/-- Reads one byte. -/
def readByte (d : Document) : Read.Result UInt8 := do
  return UInt8.ofNat (← Read.unsigned 256 .strict d)

/-- Reads a body: a list of bytes, or a text that stands for its UTF-8 bytes. -/
def readBody : Document → Read.Result (List UInt8)
  | .text s => .ok s.toUTF8.toList
  | d => Read.list readByte d

/-- Reads headers, which may hold documents of any kind. -/
def readHeaders : Document → Read.Result Headers
  | .table members => .ok members
  | _ => .error .shape

/-- The parts of a message in documents, in their order. -/
def fields : List (Read.Field Draft) :=
  [⟨"id", fun d m => do return { m with id := ← readId d }⟩,
   ⟨"destination", fun d m => do return { m with destination := ← Read.text .strict d }⟩,
   ⟨"client_id", fun d m => do return { m with client := ← Read.text .strict d }⟩,
   ⟨"subtopics", fun d m => do
      return { m with subtopics := ← Read.list (Read.text .strict) d }⟩,
   ⟨"headers", fun d m => do return { m with headers := ← readHeaders d }⟩,
   ⟨"body", fun d m => do return { m with body := ← readBody d }⟩,
   ⟨"timestamp", fun d m => do return { m with timestamp := ← Read.int64 d }⟩]

/-- Reads a message; only subtopics and headers may be left out. -/
def ofDocument (d : Document) : Read.Result Message := do
  let m ← Read.record .strict fields ⟨none, none, none, [], [], none, none⟩ d
  return {
    id := ← Read.required m.id
    destination := ← Read.required m.destination
    client := ← Read.required m.client
    subtopics := m.subtopics
    headers := m.headers
    body := ← Read.required m.body
    timestamp := ← Read.required m.timestamp }

end Message

end MessageBroker
