/-
# Subtopics

A subtopic divides a destination further: `sports.hockey` has two segments, separated
by a character that the destination chooses. A subscription may filter by a pattern, in
which `*` stands for exactly one segment and `**`, allowed in last place only, for any
number of remaining segments, none included. The empty subtopic has no segments and
stands for a message without subtopic.

The separator belongs to a subtopic: two subtopics with different separators are never
compared.
-/

namespace MessageBroker

/-- A part of a subtopic between two separators. -/
inductive Segment where
  | literal (text : String)
  /-- `*`: exactly one segment. -/
  | any
  /-- `**`: zero or more remaining segments. -/
  | anyRemaining
  deriving DecidableEq, Repr, Inhabited

namespace Segment

/-- The text of a segment. -/
def toText : Segment → String
  | literal s => s
  | any => "*"
  | anyRemaining => "**"

/-- Whether a segment stands for itself alone. -/
def isLiteral : Segment → Bool
  | literal _ => true
  | _ => false

end Segment

/-- A text with its division into segments. -/
structure Subtopic where
  value : String
  separator : Char
  segments : List Segment
  deriving DecidableEq, Repr, Inhabited

namespace Subtopic

/-- Why a text is no subtopic. Each cause names the whole text. -/
inductive Error where
  | emptySegment (value : String)
  | remainingNotLast (value : String)
  | partialWildcard (value : String)
  /-- A message was sent to a pattern. -/
  | wildcardInMessage (value : String)
  deriving DecidableEq, Repr

/-- What is said about a text that is no subtopic. -/
def Error.message : Error → String
  | emptySegment v => s!"empty segment in `{v}`"
  | remainingNotLast v => s!"`**` is only allowed as the last segment, `{v}`"
  | partialWildcard v => s!"wildcard must occupy a whole segment, `{v}`"
  | wildcardInMessage v => s!"messages cannot be sent to wildcard subtopic `{v}`"

/-- The subtopic without segments. -/
def empty (separator : Char) : Subtopic := ⟨"", separator, []⟩

/-- The segment that a part of a text stands for. -/
def segmentOf (value : String) (isLast : Bool) (part : List Char) : Except Error Segment :=
  if part = [] then .error (.emptySegment value)
  else if part = ['*'] then .ok .any
  else if part = ['*', '*'] then
    if isLast then .ok .anyRemaining else .error (.remainingNotLast value)
  else if '*' ∈ part then .error (.partialWildcard value)
  else .ok (.literal (String.ofList part))

/-- The segments of the parts of a text; the first part that is none decides. -/
def segmentsOf (value : String) : List (List Char) → Except Error (List Segment)
  | [] => .ok []
  | part :: rest => do
    let s ← segmentOf value rest.isEmpty part
    let ss ← segmentsOf value rest
    return s :: ss

/-- Reads a subtopic or a pattern. -/
def parse (value : String) (separator : Char) : Except Error Subtopic :=
  if value = "" then .ok (empty separator)
  else do
    let segments ← segmentsOf value (value.toList.splitOn separator)
    return ⟨value, separator, segments⟩

/-- Whether a subtopic is a pattern. -/
def hasWildcard (t : Subtopic) : Bool := t.segments.any fun s => !s.isLiteral

/-- Reads a subtopic that a message is sent to, which must not be a pattern. -/
def parseForMessage (value : String) (separator : Char) : Except Error Subtopic := do
  let t ← parse value separator
  if t.hasWildcard then .error (.wildcardInMessage value) else .ok t

/-- Whether a subtopic has no segments. -/
def isEmpty (t : Subtopic) : Bool := t.segments.isEmpty

/-- Whether a subtopic has more than one segment. -/
def isHierarchical (t : Subtopic) : Bool := 1 < t.segments.length

/-- Whether the segments of a pattern let those of a candidate through. A wildcard in the
candidate is admitted by wildcards only. -/
def admits : List Segment → List Segment → Bool
  | .anyRemaining :: _, _ => true
  | .any :: ps, _ :: cs => admits ps cs
  | .literal p :: ps, .literal c :: cs => p == c && admits ps cs
  | [], cs => cs.isEmpty
  | _, _ => false

/-- Whether a pattern with the same separator admits a subtopic. -/
def matchedBy (t pattern : Subtopic) : Bool := admits pattern.segments t.segments

end Subtopic

end MessageBroker
