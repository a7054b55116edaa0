/-
# Decimal digits

Reading and writing whole numbers as runs of ASCII digits. A reader takes the
characters of the number alone: whatever surrounds a number has been cut off
before, and an empty run of digits is no number.
-/

namespace MessageBroker.Text

/-- The number of distinct values of a 64-bit word. -/
def word64 : Nat := 0x10000000000000000

/-- The value of a run of digits, the most significant one first. -/
def digitsValue (cs : List Char) : Nat :=
  cs.foldl (fun n c => n * 10 + (c.toNat - '0'.toNat)) 0

/-- A non-empty run of ASCII digits as a number. -/
def readDigits? (cs : List Char) : Option Nat :=
  if cs ≠ [] ∧ cs.all Char.isDigit then some (digitsValue cs) else none

/-- A run of digits with at most one plus sign in front. -/
def readUnsigned? : List Char → Option Nat
  | '+' :: cs => readDigits? cs
  | cs => readDigits? cs

/-- A run of digits with at most one sign in front. -/
def readSigned? : List Char → Option Int
  | '-' :: cs => (readDigits? cs).map fun n => -(n : Int)
  | cs => (readUnsigned? cs).map fun n => (n : Int)

/-- A number written with at least `width` digits, zeros first. -/
def padded (width n : Nat) : String :=
  let digits := toString n
  String.ofList (List.replicate (width - digits.length) '0') ++ digits

/-- The value of a hexadecimal digit of either case. -/
def hexDigit? (c : Char) : Option Nat :=
  if c.isDigit then some (c.toNat - '0'.toNat)
  else if 'a' ≤ c ∧ c ≤ 'f' then some (c.toNat - 'a'.toNat + 10)
  else if 'A' ≤ c ∧ c ≤ 'F' then some (c.toNat - 'A'.toNat + 10)
  else none

/-- The value of a run of hexadecimal digits, each of which must be one. -/
def readHex? (cs : List Char) : Option Nat :=
  cs.foldlM (fun n c => (hexDigit? c).map (n * 16 + ·)) 0

/-- The lower-case hexadecimal digits of a number, without leading zeros. -/
def hex (n : Nat) : String := String.ofList (Nat.toDigits 16 n)

end MessageBroker.Text
