/-
# The TOML form of documents

Settings files are TOML texts. A text is a sequence of lines; a line sets a value under
a key, opens a table, or is empty. Values are read first, without regard to where they
go; what the lines say together is settled by a tree of open tables, which remembers
how each table came about. A table that a header opened must not be opened again nor
be extended by a dotted key, a table that dotted keys made must not be opened by a
header, and a value is never extended.

The readers consume characters and answer what they have read with the characters
left, or nothing where the text is malformed; a malformed settings text is refused as
a whole, so no cause is kept.
-/

import MessageBroker.Document
import MessageBroker.Document.Layers
import MessageBroker.Text.Digits

namespace MessageBroker.Document.Toml

/-! ## Blanks, comments and line ends -/

/-- Whether a character may stand in a comment or in a text on one line. -/
def isPlain (c : Char) : Bool := c = '\t' || (0x20 ≤ c.toNat && c ≠ '\x7f')

/-- Drops spaces and tabs. -/
def skipSpace (cs : List Char) : List Char := cs.dropWhile fun c => c = ' ' || c = '\t'

/-- Drops a comment, if there is one, up to the end of its line. -/
def skipComment : List Char → List Char
  | '#' :: rest => rest.dropWhile isPlain
  | cs => cs

/-- One line break. -/
def lineBreak? : List Char → Option (List Char)
  | '\n' :: rest => some rest
  | '\r' :: '\n' :: rest => some rest
  | _ => none

/-- The end of a line: spaces, a comment, and a line break or the end of the text. -/
def endOfLine (cs : List Char) : Option (List Char) :=
  match skipComment (skipSpace cs) with
  | [] => some []
  | cs => lineBreak? cs

/-- Drops spaces, comments and line breaks, as they may stand inside a list. -/
def skipLines : Nat → List Char → List Char
  | 0, cs => cs
  | fuel + 1, cs =>
    let cs := skipComment (skipSpace cs)
    match lineBreak? cs with
    | some rest => skipLines fuel rest
    | none => cs

/-! ## Texts -/

/-- A character given by the number of hexadecimal digits. -/
def unicodeEscape (width : Nat) (cs : List Char) : Option (Char × List Char) := do
  let digits := cs.take width
  if digits.length ≠ width then none
  let n ← Text.readHex? digits
  if n < 0xD800 ∨ (0xDFFF < n ∧ n ≤ 0x10FFFF) then some (Char.ofNat n, cs.drop width) else none

/-- The character of an escape, after the backslash. -/
def escapeOf : List Char → Option (Char × List Char)
  | 'b' :: rest => some ('\x08', rest)
  | 't' :: rest => some ('\t', rest)
  | 'n' :: rest => some ('\n', rest)
  | 'f' :: rest => some ('\x0c', rest)
  | 'r' :: rest => some ('\r', rest)
  | '"' :: rest => some ('"', rest)
  | '\\' :: rest => some ('\\', rest)
  | 'u' :: rest => unicodeEscape 4 rest
  | 'U' :: rest => unicodeEscape 8 rest
  | _ => none

/-- A text between double quotes, after the opening one. -/
def basicText : Nat → List Char → List Char → Option (String × List Char)
  | 0, _, _ => none
  | _ + 1, out, '"' :: rest => some (String.ofList out.reverse, rest)
  | fuel + 1, out, '\\' :: rest => do
    let (c, rest) ← escapeOf rest
    basicText fuel (c :: out) rest
  | fuel + 1, out, c :: rest => if isPlain c then basicText fuel (c :: out) rest else none
  | _ + 1, _, [] => none

/-- A text between apostrophes, after the opening one. -/
def literalText (cs : List Char) : Option (String × List Char) :=
  let inside := cs.takeWhile fun c => isPlain c && c ≠ '\''
  match cs.drop inside.length with
  | '\'' :: rest => some (String.ofList inside, rest)
  | _ => none

/-- Drops the first line break of a text of several lines. -/
def dropFirstBreak (cs : List Char) : List Char := (lineBreak? cs).getD cs

/-- Drops blanks and line breaks, as a backslash at the end of a line asks for. -/
def skipContinuation : Nat → List Char → List Char
  | 0, cs => cs
  | fuel + 1, cs =>
    let cs := skipSpace cs
    match lineBreak? cs with
    | some rest => skipContinuation fuel rest
    | none => cs

/-- The quotes that end a text of several lines: three, of five or fewer in a row the
last three, those before them belonging to the text. -/
def closing (quote : Char) (cs : List Char) : Option (List Char × List Char) :=
  let run := (cs.takeWhile (· = quote)).length
  if 3 ≤ run ∧ run ≤ 5 then some (List.replicate (run - 3) quote, cs.drop run)
  else if 5 < run then some (List.replicate 2 quote, cs.drop 5)
  else none

/-- A text of several lines between double quotes, after the opening ones. -/
def basicLines : Nat → List Char → List Char → Option (String × List Char)
  | 0, _, _ => none
  | _ + 1, _, [] => none
  | fuel + 1, out, '"' :: rest =>
    match closing '"' ('"' :: rest) with
    | some (last, rest) => some (String.ofList (last ++ out).reverse, rest)
    | none => basicLines fuel ('"' :: out) rest
  | fuel + 1, out, '\\' :: rest =>
    match lineBreak? (skipSpace rest) with
    | some rest => basicLines fuel out (skipContinuation rest.length rest)
    | none =>
      match escapeOf rest with
      | some (c, rest) => basicLines fuel (c :: out) rest
      | none => none
  | fuel + 1, out, c :: rest =>
    match lineBreak? (c :: rest) with
    | some rest => basicLines fuel ('\n' :: out) rest
    | none => if isPlain c then basicLines fuel (c :: out) rest else none

/-- A text of several lines between apostrophes, after the opening ones. -/
def literalLines : Nat → List Char → List Char → Option (String × List Char)
  | 0, _, _ => none
  | _ + 1, _, [] => none
  | fuel + 1, out, '\'' :: rest =>
    match closing '\'' ('\'' :: rest) with
    | some (last, rest) => some (String.ofList (last ++ out).reverse, rest)
    | none => literalLines fuel ('\'' :: out) rest
  | fuel + 1, out, c :: rest =>
    match lineBreak? (c :: rest) with
    | some rest => literalLines fuel ('\n' :: out) rest
    | none => if isPlain c then literalLines fuel (c :: out) rest else none

/-! ## Keys -/

/-- Whether a character may stand in a key without quotes. -/
def isKeyChar (c : Char) : Bool := c.isAlphanum || c = '_' || c = '-'

/-- One part of a key. -/
def keyPart : List Char → Option (String × List Char)
  | '"' :: rest => basicText (rest.length + 1) [] rest
  | '\'' :: rest => literalText rest
  | cs =>
    let name := cs.takeWhile isKeyChar
    if name.isEmpty then none else some (String.ofList name, cs.dropWhile isKeyChar)

/-- The parts of a key, with dots between them. -/
def keyParts : Nat → List Char → Option (List String × List Char)
  | 0, _ => none
  | fuel + 1, cs => do
    let (part, rest) ← keyPart (skipSpace cs)
    match skipSpace rest with
    | '.' :: rest =>
      let (parts, rest) ← keyParts fuel rest
      some (part :: parts, rest)
    | rest => some ([part], rest)

/-! ## Numbers and times -/

/-- Removes the underscores between digits; none may stand elsewhere. -/
def dropUnderscores (isDigit : Char → Bool) (cs : List Char) : Option (List Char) :=
  digitsAfter false cs
where
  /-- The digits that follow, with or without a digit right before them. -/
  digitsAfter (afterDigit : Bool) : List Char → Option (List Char)
    | [] => if afterDigit then some [] else none
    | '_' :: rest => if afterDigit then digitsAfter false rest else none
    | c :: rest => if isDigit c then (digitsAfter true rest).map (c :: ·) else none

/-- A run of digits of a base below eleven. -/
def readBase (base : Nat) (cs : List Char) : Nat :=
  cs.foldl (fun n c => n * base + (c.toNat - '0'.toNat)) 0

/-- A whole number of 64 bits. -/
def integer? (cs : List Char) : Option Document := do
  let i : Int ← match cs with
    | '0' :: 'x' :: ds =>
      (dropUnderscores (fun c => (Text.hexDigit? c).isSome) ds).bind fun ds =>
        (Text.readHex? ds).map fun n => (n : Int)
    | '0' :: 'o' :: ds =>
      (dropUnderscores (fun c => '0' ≤ c && c ≤ '7') ds).map fun ds => (readBase 8 ds : Int)
    | '0' :: 'b' :: ds =>
      (dropUnderscores (fun c => c = '0' || c = '1') ds).map fun ds => (readBase 2 ds : Int)
    | '-' :: ds => (decimal ds).map fun n => -(n : Int)
    | '+' :: ds => (decimal ds).map fun n => (n : Int)
    | ds => (decimal ds).map fun n => (n : Int)
  if -0x8000000000000000 ≤ i ∧ i < 0x8000000000000000 then some (.int i) else none
where
  /-- Decimal digits, with no zero before another digit. -/
  decimal (ds : List Char) : Option Nat := do
    let ds ← dropUnderscores Char.isDigit ds
    if ds.head? = some '0' ∧ ds.length ≠ 1 then none else some (Text.digitsValue ds)

/-- A number with a fraction, an exponent or both, or a word for a number that is not
finite. Digits beyond the range of finite numbers are refused. -/
def float? (cs : List Char) : Option Document :=
  let (negative, body) := match cs with
    | '-' :: rest => (true, rest)
    | '+' :: rest => (false, rest)
    | _ => (false, cs)
  if body = "inf".toList then some (.float (.infinite negative))
  else if body = "nan".toList then some (.float .nan)
  else do
    let isE := fun c => c = 'e' || c = 'E'
    let mantissa := body.takeWhile fun c => !isE c
    let whole := mantissa.takeWhile (· ≠ '.')
    let fraction ← match mantissa.dropWhile (· ≠ '.') with
      | [] => some []
      | _ :: ds => dropUnderscores Char.isDigit ds
    let digits ← dropUnderscores Char.isDigit whole
    let exponent ← match body.dropWhile fun c => !isE c with
      | [] => some 0
      | _ :: '-' :: ds =>
        (dropUnderscores Char.isDigit ds).map fun ds => -(Text.digitsValue ds : Int)
      | _ :: '+' :: ds =>
        (dropUnderscores Char.isDigit ds).map fun ds => (Text.digitsValue ds : Int)
      | _ :: ds => (dropUnderscores Char.isDigit ds).map fun ds => (Text.digitsValue ds : Int)
    if digits.head? = some '0' ∧ digits.length ≠ 1 then none
    else if body.all fun c => c.isDigit || c = '_' then none
    else
      match Binary64.ofDecimal negative (Text.digitsValue (digits ++ fraction))
          (exponent - fraction.length) with
      | .infinite _ => none
      | x => some (.float x)

/-- Two digits as a number of at most `limit`. -/
def twoDigits (limit : Nat) : List Char → Option Nat
  | [a, b] => do
    let n ← Text.readDigits? [a, b]
    if n ≤ limit then some n else none
  | _ => none

/-- The number of days of a month. -/
def daysIn (year month : Nat) : Nat :=
  if month = 2 then
    if year % 4 = 0 ∧ (year % 100 ≠ 0 ∨ year % 400 = 0) then 29 else 28
  else if month ∈ [4, 6, 9, 11] then 30
  else 31

/-- A calendar date of the form `2024-02-29`. -/
def date? (cs : List Char) : Option String := do
  match cs with
  | [y₁, y₂, y₃, y₄, '-', m₁, m₂, '-', d₁, d₂] =>
    let year ← Text.readDigits? [y₁, y₂, y₃, y₄]
    let month ← twoDigits 12 [m₁, m₂]
    let day ← twoDigits 31 [d₁, d₂]
    if 1 ≤ month ∧ 1 ≤ day ∧ day ≤ daysIn year month then some (String.ofList cs) else none
  | _ => none

/-- A time of day of the form `10:20:30.5`, its fraction without zeros at the end and
cut after nine places. -/
def clock? (cs : List Char) : Option String := do
  match cs with
  | h₁ :: h₂ :: ':' :: m₁ :: m₂ :: ':' :: s₁ :: s₂ :: rest =>
    let _ ← twoDigits 23 [h₁, h₂]
    let _ ← twoDigits 59 [m₁, m₂]
    let _ ← twoDigits 60 [s₁, s₂]
    let whole := String.ofList (cs.take 8)
    match rest with
    | [] => some whole
    | '.' :: ds =>
      if ds.isEmpty ∨ ¬ ds.all Char.isDigit then none
      else
        let kept := ((ds.take 9).reverse.dropWhile (· = '0')).reverse
        some (if kept.isEmpty then whole else whole ++ "." ++ String.ofList kept)
    | _ => none
  | _ => none

/-- A time of day with an offset from universal time, which may be missing. -/
def clockOffset? (cs : List Char) : Option String :=
  let isSign := fun c => c = '+' || c = '-' || c = 'Z' || c = 'z'
  let time := cs.takeWhile fun c => !isSign c
  match cs.dropWhile fun c => !isSign c with
  | [] => clock? time
  | ['Z'] => (clock? time).map (· ++ "Z")
  | ['z'] => (clock? time).map (· ++ "Z")
  | [sign, h₁, h₂, ':', m₁, m₂] => do
    let t ← clock? time
    let h ← twoDigits 23 [h₁, h₂]
    let m ← twoDigits 59 [m₁, m₂]
    let sign := if h = 0 ∧ m = 0 then '+' else sign
    some (t ++ String.ofList [sign, h₁, h₂, ':', m₁, m₂])
  | _ => none

/-- A date, a time of day or both, as the text that stands for it. -/
def time? (cs : List Char) : Option Document :=
  let joined := cs.take 10
  match cs.drop 10 with
  | [] => ((date? cs).orElse fun _ => clock? cs).map .text
  | c :: rest =>
    if c = 'T' ∨ c = 't' ∨ c = ' ' then do
      let d ← date? joined
      let t ← clockOffset? rest
      some (.text (d ++ "T" ++ t))
    else (clock? cs).map .text

/-- Whether a character may stand in a number or a time. -/
def isScalarChar (c : Char) : Bool :=
  c.isAlphanum || c = '_' || c = '-' || c = '+' || c = '.' || c = ':'

/-- A value without quotes or brackets. A date takes a time of day after one space. -/
def scalar (cs : List Char) : Option (Document × List Char) :=
  let word := cs.takeWhile isScalarChar
  let rest := cs.dropWhile isScalarChar
  let single := fun (w : List Char) =>
    if w = "true".toList then some (.bool true)
    else if w = "false".toList then some (.bool false)
    else ((integer? w).orElse fun _ => float? w).orElse fun _ => time? w
  match date? word, rest with
  | some _, ' ' :: d :: more =>
    if d.isDigit then
      let clock := (d :: more).takeWhile isScalarChar
      (time? (word ++ ' ' :: clock)).map fun v => (v, (d :: more).dropWhile isScalarChar)
    else (single word).map fun v => (v, rest)
  | _, _ => (single word).map fun v => (v, rest)

/-! ## The tree of tables -/

/-- How a table came about. -/
inductive Origin where
  /-- As a step on the way of a header. -/
  | passed
  /-- By the parts of a dotted key. -/
  | dotted
  /-- By a header of its own. -/
  | opened
  deriving DecidableEq

/-- A place in the tree. The tables of a list are kept newest first. -/
inductive Node where
  | value (v : Document)
  | table (origin : Origin) (members : List (String × Node))
  | tables (items : List (List (String × Node)))

/-- The members of a table while it is being read, in the order of their appearance. -/
abbrev Nodes := List (String × Node)

/-- Replaces a member, or adds it at the end. -/
def Nodes.put (key : String) (node : Node) : Nodes → Nodes
  | [] => [(key, node)]
  | (k, n) :: rest => if k = key then (key, node) :: rest else (k, n) :: Nodes.put key node rest

/-- Changes the table that a header's parts lead to. The newest table of a list stands
for the list. -/
def underHeader (change : Nodes → Option Nodes) : List String → Nodes → Option Nodes
  | [], members => change members
  | key :: rest, members =>
    match members.lookup key with
    | none => (underHeader change rest []).map fun inner =>
        Nodes.put key (.table .passed inner) members
    | some (.table origin inner) => (underHeader change rest inner).map fun inner =>
        Nodes.put key (.table origin inner) members
    | some (.tables (newest :: older)) => (underHeader change rest newest).map fun newest =>
        Nodes.put key (.tables (newest :: older)) members
    | some _ => none

/-- Sets a value under a key in an open table. The tables between the parts of a
dotted key must be tables that dotted keys made. -/
def setKey (v : Document) : List String → Nodes → Option Nodes
  | [], _ => none
  | [key], members =>
    match members.lookup key with
    | none => some (Nodes.put key (.value v) members)
    | some _ => none
  | key :: rest, members =>
    match members.lookup key with
    | none => (setKey v rest []).map fun inner => Nodes.put key (.table .dotted inner) members
    | some (.table .dotted inner) => (setKey v rest inner).map fun inner =>
        Nodes.put key (.table .dotted inner) members
    | some (.table .passed inner) =>
      -- A table passed by a header may be passed again, but its members are its own.
      match rest with
      | _ :: _ :: _ => (setKey v rest inner).map fun inner =>
          Nodes.put key (.table .passed inner) members
      | _ => none
    | some _ => none

/-- Opens a table by a header. -/
def openTable (key : String) (members : Nodes) : Option Nodes :=
  match members.lookup key with
  | none => some (Nodes.put key (.table .opened []) members)
  | some (.table .passed inner) => some (Nodes.put key (.table .opened inner) members)
  | some _ => none

/-- Opens one more table of a list by a header in double brackets. -/
def openItem (key : String) (members : Nodes) : Option Nodes :=
  match members.lookup key with
  | none => some (Nodes.put key (.tables [[]]) members)
  | some (.tables items) => some (Nodes.put key (.tables ([] :: items)) members)
  | some _ => none

mutual

/-- The document that a place stands for. -/
def Node.toDocument : Node → Document
  | .value v => v
  | .table _ members => ofMembers (membersOf members)
  | .tables items => .list (itemsOf items).reverse

/-- The members of a table as documents. -/
def membersOf : List (String × Node) → List (String × Document)
  | [] => []
  | (key, node) :: rest => (key, node.toDocument) :: membersOf rest

/-- The tables of a list as documents. -/
def itemsOf : List (List (String × Node)) → List Document
  | [] => []
  | members :: rest => ofMembers (membersOf members) :: itemsOf rest

end

/-! ## Values and lines -/

mutual

/-- A value of any kind. -/
def value : Nat → List Char → Option (Document × List Char)
  | 0, _ => none
  | fuel + 1, cs =>
    match cs with
    | '"' :: '"' :: '"' :: rest =>
      (basicLines (rest.length + 1) [] (dropFirstBreak rest)).map fun (s, r) => (.text s, r)
    | '"' :: rest => (basicText (rest.length + 1) [] rest).map fun (s, r) => (.text s, r)
    | '\'' :: '\'' :: '\'' :: rest =>
      (literalLines (rest.length + 1) [] (dropFirstBreak rest)).map fun (s, r) => (.text s, r)
    | '\'' :: rest => (literalText rest).map fun (s, r) => (.text s, r)
    | '[' :: rest => items fuel [] rest
    | '\x7b' :: rest =>
      match skipSpace rest with
      | '\x7d' :: rest => some (.table [], rest)
      | rest => inlineMembers fuel [] rest
    | cs => scalar cs

/-- The items of a list up to its closing bracket, those read so far in reverse. -/
def items : Nat → List Document → List Char → Option (Document × List Char)
  | 0, _, _ => none
  | fuel + 1, out, cs =>
    match skipLines cs.length cs with
    | ']' :: rest => some (.list out.reverse, rest)
    | cs =>
      match value fuel cs with
      | none => none
      | some (item, rest) =>
        match skipLines rest.length rest with
        | ',' :: rest => items fuel (item :: out) rest
        | ']' :: rest => some (.list (item :: out).reverse, rest)
        | _ => none

/-- The members of a table on one line up to its closing brace. -/
def inlineMembers : Nat → Nodes → List Char → Option (Document × List Char)
  | 0, _, _ => none
  | fuel + 1, members, cs =>
    match keyParts (cs.length + 1) cs with
    | some (key, '=' :: rest) =>
      match value fuel (skipSpace rest) with
      | none => none
      | some (v, rest) =>
        match setKey v key members with
        | none => none
        | some members =>
          match skipSpace rest with
          | ',' :: rest => inlineMembers fuel members rest
          | '\x7d' :: rest => some ((Node.table .opened members).toDocument, rest)
          | _ => none
    | _ => none

end

/-- A header after its first bracket: whether it opens an item of a list, its key, and
the characters after the brackets. -/
def header (cs : List Char) : Option (Bool × List String × List Char) :=
  match cs with
  | '[' :: rest =>
    match keyParts (rest.length + 1) rest with
    | some (key, ']' :: ']' :: rest) => some (true, key, rest)
    | _ => none
  | cs =>
    match keyParts (cs.length + 1) cs with
    | some (key, ']' :: rest) => some (false, key, rest)
    | _ => none

/-- The lines of a text, below the table that the last header opened. -/
def readLines : Nat → List String → Nodes → List Char → Option Nodes
  | 0, _, _, _ => none
  | fuel + 1, current, root, cs =>
    match skipSpace cs with
    | [] => some root
    | '[' :: rest =>
      match header rest with
      | none => none
      | some (isItem, key, rest) =>
        match endOfLine rest, key.getLast? with
        | some rest, some last =>
          let change := if isItem then openItem last else openTable last
          match underHeader change key.dropLast root with
          | some root => readLines fuel key root rest
          | none => none
        | _, _ => none
    | cs =>
      match endOfLine cs with
      | some rest => readLines fuel current root rest
      | none =>
        match keyParts (cs.length + 1) cs with
        | some (key, '=' :: rest) =>
          match value (rest.length + 1) (skipSpace rest) with
          | none => none
          | some (v, rest) =>
            match endOfLine rest, underHeader (setKey v key) current root with
            | some rest, some root => readLines fuel current root rest
            | _, _ => none
        | _ => none

/-- Reads a TOML text; a byte order mark in front of it is passed over. -/
def read? (s : String) : Option Members :=
  let cs := match s.toList with
    | '\ufeff' :: rest => rest
    | cs => cs
  (readLines (cs.length + 1) [] [] cs).map fun root => Members.ofList (membersOf root)

end MessageBroker.Document.Toml
