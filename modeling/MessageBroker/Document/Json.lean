/-
# The JSON form of documents

Documents are read from and written as JSON texts. Two rules go beyond the grammar.
A number without fraction and exponent is a whole number as long as it fits a 64-bit
word, signed or not; every other number is a binary fraction, so that `1.0` is not a
whole number. Of two members with the same name the later one counts. Written text
holds no blanks between the parts, and members are written in the order of the table,
which is ascending.

The reader consumes a list of characters and answers what it has read together with
the characters that are left, or nothing where the text is malformed. Each step that
descends or moves on takes one unit of fuel, and the number of characters plus one always
suffices, since every step consumes at least one character.
-/

import MessageBroker.Document
import MessageBroker.Text.Digits

namespace MessageBroker.Document.Json

/-- Drops the blanks that JSON allows between its parts. -/
def skipBlanks (cs : List Char) : List Char :=
  cs.dropWhile fun c => c = ' ' || c = '\t' || c = '\n' || c = '\r'

/-- Four hexadecimal digits. -/
def readUnit : List Char → Option (Nat × List Char)
  | a :: b :: c :: d :: rest => (Text.readHex? [a, b, c, d]).map fun n => (n, rest)
  | _ => none

/-- The character of an escape, after the backslash. A high surrogate takes the low
one that must follow it. -/
def readEscape : List Char → Option (Char × List Char)
  | '"' :: rest => some ('"', rest)
  | '\\' :: rest => some ('\\', rest)
  | '/' :: rest => some ('/', rest)
  | 'b' :: rest => some ('\x08', rest)
  | 'f' :: rest => some ('\x0c', rest)
  | 'n' :: rest => some ('\n', rest)
  | 'r' :: rest => some ('\r', rest)
  | 't' :: rest => some ('\t', rest)
  | 'u' :: rest => do
    let (high, rest) ← readUnit rest
    if high < 0xD800 || 0xDFFF < high then some (Char.ofNat high, rest)
    else
      match rest with
      | '\\' :: 'u' :: rest =>
        let (low, rest) ← readUnit rest
        if high < 0xDC00 && 0xDC00 ≤ low && low ≤ 0xDFFF then
          some (Char.ofNat (0x10000 + (high - 0xD800) * 0x400 + (low - 0xDC00)), rest)
        else none
      | _ => none
  | _ => none

/-- The rest of a text after its opening quote, read characters in reverse. -/
def readText : Nat → List Char → List Char → Option (String × List Char)
  | 0, _, _ => none
  | _ + 1, out, '"' :: rest => some (String.ofList out.reverse, rest)
  | fuel + 1, out, '\\' :: rest => do
    let (c, rest) ← readEscape rest
    readText fuel (c :: out) rest
  | fuel + 1, out, c :: rest => if c.toNat < 0x20 then none else readText fuel (c :: out) rest
  | _ + 1, _, [] => none

/-- Cuts a run of digits off the front; it must not be empty. -/
def takeDigits (cs : List Char) : Option (List Char × List Char) :=
  let ds := cs.takeWhile Char.isDigit
  if ds.isEmpty then none else some (ds, cs.dropWhile Char.isDigit)

/-- A whole number as a document: beyond the range of 64-bit words it becomes a
fraction, and so does a negative zero. -/
def wholeNumber (negative : Bool) (n : Nat) : Document :=
  if negative then
    if n = 0 ∨ 0x8000000000000000 < n then .float (Binary64.ofDecimal true n 0) else .int (-(n : Int))
  else if n < 0x10000000000000000 then .int n
  else .float (Binary64.ofDecimal false n 0)

/-- The fraction of a number, empty when there is no point. -/
def readFraction : List Char → Option (List Char × List Char)
  | '.' :: rest => takeDigits rest
  | rest => some ([], rest)

/-- The exponent of a number, `none` inside when there is none. -/
def readExponent : List Char → Option (Option Int × List Char)
  | 'e' :: rest => exponentDigits rest
  | 'E' :: rest => exponentDigits rest
  | rest => some (none, rest)
where
  /-- The sign and the digits after the letter. -/
  exponentDigits : List Char → Option (Option Int × List Char)
    | '-' :: rest => do
      let (ds, rest) ← takeDigits rest
      some (some (-(Text.digitsValue ds : Int)), rest)
    | '+' :: rest => do
      let (ds, rest) ← takeDigits rest
      some (some (Text.digitsValue ds : Int), rest)
    | rest => do
      let (ds, rest) ← takeDigits rest
      some (some (Text.digitsValue ds : Int), rest)

/-- A number after its sign. -/
def readNumber (negative : Bool) (cs : List Char) : Option (Document × List Char) := do
  let (whole, rest) ← takeDigits cs
  if whole.head? = some '0' && whole.length ≠ 1 then none
  else
    let (fraction, rest') ← readFraction rest
    let (exponent, rest'') ← readExponent rest'
    if fraction.isEmpty && exponent.isNone then
      some (wholeNumber negative (Text.digitsValue whole), rest'')
    else
      let e := exponent.getD 0 - fraction.length
      some (.float (Binary64.ofDecimal negative (Text.digitsValue (whole ++ fraction)) e), rest'')

mutual

/-- A value of any kind. -/
def readValue : Nat → List Char → Option (Document × List Char)
  | 0, _ => none
  | fuel + 1, cs =>
    match skipBlanks cs with
    | 'n' :: 'u' :: 'l' :: 'l' :: rest => some (.null, rest)
    | 't' :: 'r' :: 'u' :: 'e' :: rest => some (.bool true, rest)
    | 'f' :: 'a' :: 'l' :: 's' :: 'e' :: rest => some (.bool false, rest)
    | '"' :: rest => (readText (rest.length + 1) [] rest).map fun (s, r) => (.text s, r)
    | '[' :: rest =>
      match skipBlanks rest with
      | ']' :: rest => some (.list [], rest)
      | rest => readItems fuel [] rest
    | '\x7b' :: rest =>
      match skipBlanks rest with
      | '\x7d' :: rest => some (.table [], rest)
      | rest => readMembers fuel [] rest
    | '-' :: rest => readNumber true rest
    | rest => readNumber false rest

/-- The items of a list up to the closing bracket, those read so far in reverse. -/
def readItems : Nat → List Document → List Char → Option (Document × List Char)
  | 0, _, _ => none
  | fuel + 1, items, cs =>
    match readValue fuel cs with
    | none => none
    | some (item, rest) =>
      match skipBlanks rest with
      | ',' :: rest => readItems fuel (item :: items) rest
      | ']' :: rest => some (.list (item :: items).reverse, rest)
      | _ => none

/-- The members of a table up to the closing brace, those read so far in reverse. -/
def readMembers : Nat → List (String × Document) → List Char → Option (Document × List Char)
  | 0, _, _ => none
  | fuel + 1, members, cs =>
    match skipBlanks cs with
    | '"' :: rest =>
      match readText (rest.length + 1) [] rest with
      | none => none
      | some (key, rest) =>
        match skipBlanks rest with
        | ':' :: rest =>
          match readValue fuel rest with
          | none => none
          | some (value, rest) =>
            match skipBlanks rest with
            | ',' :: rest => readMembers fuel ((key, value) :: members) rest
            | '\x7d' :: rest => some (ofMembers ((key, value) :: members).reverse, rest)
            | _ => none
        | _ => none
    | _ => none

end

/-- Reads a whole text as one document. -/
def read? (s : String) : Option Document :=
  match readValue (s.length + 1) s.toList with
  | some (d, rest) => if (skipBlanks rest).isEmpty then some d else none
  | none => none

/-- A character inside a written text. -/
def escape (c : Char) : String :=
  if c = '"' then "\\\""
  else if c = '\\' then "\\\\"
  else if c = '\n' then "\\n"
  else if c = '\r' then "\\r"
  else if c = '\t' then "\\t"
  else if c.toNat < 0x20 then
    "\\u" ++ String.ofList (List.replicate (4 - (Text.hex c.toNat).length) '0') ++ Text.hex c.toNat
  else c.toString

/-- A written text with its quotes. -/
def writeText (s : String) : String :=
  "\"" ++ s.toList.foldl (fun out c => out ++ escape c) "" ++ "\""

mutual

/-- Writes a document. -/
def write : Document → String
  | .null => "null"
  | .bool b => if b then "true" else "false"
  | .int i => toString i
  | .float x => x.toDocumentText
  | .text s => writeText s
  | .list items => "[" ++ ",".intercalate (writeItems items) ++ "]"
  | .table members => "\x7b" ++ ",".intercalate (writeMembers members) ++ "\x7d"

/-- Writes the items of a list. -/
def writeItems : List Document → List String
  | [] => []
  | item :: items => write item :: writeItems items

/-- Writes the members of a table. -/
def writeMembers : List (String × Document) → List String
  | [] => []
  | (key, value) :: members => (writeText key ++ ":" ++ write value) :: writeMembers members

end

end MessageBroker.Document.Json
