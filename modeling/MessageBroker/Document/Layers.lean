/-
# Layered documents

Settings come from several sources that are laid over each other. A source is a list
of keys with values. A key names a place in the document: a member, a member of that
member, and so on, with list positions in brackets (`destination.news.throttle`,
`roles[0]`); a key that is not of that form names the one member that is spelled like
it. Tables are merged member by member, every other value replaces what was there.

The environment is a source whose keys are the variable names in lower case after a
common beginning, with a double underscore between the parts of a place. Its texts are
taken as truth values or numbers where they read as such.
-/

import MessageBroker.Document
import MessageBroker.Text.Digits

namespace MessageBroker.Document

/-- One step into a document. -/
inductive Step where
  | member (name : String)
  | item (index : Int)
  deriving DecidableEq, Repr

/-- The members of a table; anything else is treated as an empty one. -/
def membersOrNone : Document → Members
  | .table members => members
  | _ => []

/-- The items of a list; anything else is treated as an empty one. -/
def itemsOrNone : Document → List Document
  | .list items => items
  | _ => []

mutual

/-- Lays a value over the member of a name. -/
def overlay (key : String) : Document → Document → Document
  | .table incoming, root =>
    let members := root.membersOrNone
    let target := (Members.get? members key).getD (.table [])
    .table (Members.put key (overlayMembers incoming target) members)
  | value, root => .table (Members.put key value root.membersOrNone)

/-- Lays each of a list of members over a document. -/
def overlayMembers : List (String × Document) → Document → Document
  | [], root => root
  | (key, value) :: rest, root => overlayMembers rest (overlay key value root)

end

/-- The position that an index means in a list; a negative one counts from the back. -/
def position (index : Int) (length : Nat) : Nat :=
  if 0 ≤ index then index.toNat else (length - (-index).toNat)

/-- Changes the item at a position, filling the list with nulls up to it. -/
def changeItem (i : Nat) (change : Document → Document) (items : List Document) :
    List Document :=
  let items := items ++ List.replicate (i + 1 - items.length) .null
  items.modify i change

/-- Puts a value at a place, making tables and lists on the way where others stand. -/
def setAt (value : Document) : List Step → Document → Document
  | [], _ => value
  | [.member key], root => overlay key value root
  | .member key :: rest, root =>
    let members := root.membersOrNone
    let inner := (Members.get? members key).getD .null
    .table (Members.put key (setAt value rest inner) members)
  | .item index :: rest, root =>
    let items := root.itemsOrNone
    .list (changeItem (position index items.length) (setAt value rest) items)

/-- Whether a character may stand in a part of a place. -/
def isPlaceChar (c : Char) : Bool := c.isAlphanum || c = '_' || c = '-'

/-- The steps after the first part of a place. The fuel is the number of characters. -/
def readSteps : Nat → List Char → Option (List Step)
  | _, [] => some []
  | 0, _ => none
  | fuel + 1, '.' :: rest =>
    let name := rest.takeWhile isPlaceChar
    if name.isEmpty then none
    else (readSteps fuel (rest.dropWhile isPlaceChar)).map (.member (String.ofList name) :: ·)
  | fuel + 1, '[' :: rest => do
    let inside := rest.takeWhile (· ≠ ']')
    let index ← if inside.head? = some '+' then none else Text.readSigned? inside
    match rest.dropWhile (· ≠ ']') with
    | ']' :: rest => (readSteps fuel rest).map (.item index :: ·)
    | _ => none
  | _, _ => none

/-- The place that a key names. -/
def placeOf (key : String) : List Step :=
  let cs := key.toList
  let name := cs.takeWhile isPlaceChar
  let steps := if name.isEmpty then none else readSteps cs.length (cs.dropWhile isPlaceChar)
  match steps with
  | some steps => .member (String.ofList name) :: steps
  | none => [.member key]

/-- Lays a source over a document. -/
def layer (source : List (String × Document)) (root : Document) : Document :=
  source.foldl (fun root (key, value) => setAt value (placeOf key) root) root

/-- A decimal with a point or an exponent, as its sign, its digits and its exponent. -/
def readDecimal? (cs : List Char) : Option (Bool × Nat × Int) :=
  let (negative, cs) := match cs with
    | '-' :: rest => (true, rest)
    | '+' :: rest => (false, rest)
    | _ => (false, cs)
  let whole := cs.takeWhile Char.isDigit
  let rest := cs.dropWhile Char.isDigit
  let (fraction, rest) := match rest with
    | '.' :: rest => (rest.takeWhile Char.isDigit, rest.dropWhile Char.isDigit)
    | _ => ([], rest)
  if (whole ++ fraction).isEmpty then none
  else
    let digits := Text.digitsValue (whole ++ fraction)
    let exponent := match rest with
      | [] => some 0
      | 'e' :: rest => Text.readSigned? rest
      | 'E' :: rest => Text.readSigned? rest
      | _ => none
    exponent.map fun e => (negative, digits, e - fraction.length)

/-- A text as a number with a fraction, or one of the words for numbers that are not
finite. -/
def readFraction? (s : String) : Option Binary64 :=
  let (negative, word) := match s.toLower.toList with
    | '-' :: rest => (true, String.ofList rest)
    | '+' :: rest => (false, String.ofList rest)
    | cs => (false, String.ofList cs)
  if word = "inf" ∨ word = "infinity" then some (.infinite negative)
  else if word = "nan" then some .nan
  else (readDecimal? s.toList).map fun (n, d, e) => Binary64.ofDecimal n d e

/-- The value that the text of an environment variable stands for. -/
def ofVariable (s : String) : Document :=
  if s.toLower = "true" then .bool true
  else if s.toLower = "false" then .bool false
  else
    match Text.readSigned? s.toList with
    | some i =>
      if -0x8000000000000000 ≤ i ∧ i < 0x8000000000000000 then .int i
      else .float (Binary64.ofDecimal (i < 0) i.natAbs 0)
    | none =>
      match readFraction? s with
      | some x => .float x
      | none => .text s

/-- A character of the name of a variable in lower case. Only letters of ASCII can stand
in a place; the sign for kelvin counts among them, since its lower case is a plain `k`. -/
def lowerNameChar (c : Char) : Char := if c = '\u212a' then 'k' else c.toLower

/-- The environment as a source: those of its entries whose names begin with `start`,
in any case. -/
def ofEnvironment (start : String) (environment : List (String × String)) :
    List (String × Document) :=
  environment.filterMap fun (name, value) =>
    let name := name.toList.map lowerNameChar
    if start.toList.isPrefixOf name then
      let key := ".".intercalate ((String.ofList (name.drop start.length)).splitOn "__")
      some (key, ofVariable value)
    else none

end MessageBroker.Document
