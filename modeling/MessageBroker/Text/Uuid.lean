/-
# Unique identifiers

A message carries a 128-bit identifier. It is read from any of its four usual
spellings: 32 hexadecimal digits, the same digits in hyphenated groups of 8, 4, 4, 4
and 12, that form in braces, or that form after `urn:uuid:`. It is always written as
lower-case hyphenated groups.
-/

import MessageBroker.Text.Digits

namespace MessageBroker

/-- A 128-bit identifier. -/
structure Uuid where
  bits : BitVec 128
  deriving DecidableEq, Inhabited

namespace Uuid

/-- The identifier whose bits are all zero. -/
def nil : Uuid := ⟨0⟩

/-- The lengths of the hyphenated groups. -/
def groupLengths : List Nat := [8, 4, 4, 4, 12]

/-- The 32 digits of an identifier, most significant first. -/
def digits (u : Uuid) : List Char :=
  let ds := Nat.toDigits 16 u.bits.toNat
  List.replicate (32 - ds.length) '0' ++ ds

/-- Cuts a list into consecutive groups of the given lengths. -/
def cut : List Nat → List Char → List (List Char)
  | [], _ => []
  | n :: ns, cs => cs.take n :: cut ns (cs.drop n)

/-- The hyphenated lower-case form. -/
def toText (u : Uuid) : String :=
  "-".intercalate ((cut groupLengths u.digits).map String.ofList)

/-- Reads 32 digits without hyphens. -/
def ofDigits? (cs : List Char) : Option Uuid :=
  if cs.length = 32 then (Text.readHex? cs).map fun n => ⟨BitVec.ofNat 128 n⟩ else none

/-- Reads hyphenated groups, which must have the usual lengths. -/
def ofGroups? (cs : List Char) : Option Uuid :=
  let groups := cs.splitOn '-'
  if groups.map List.length = groupLengths then ofDigits? groups.flatten else none

/-- Reads any of the four spellings. -/
def ofText? (s : String) : Option Uuid :=
  let cs := s.toList
  match cs.length, cs with
  | 32, cs => ofDigits? cs
  | 36, cs => ofGroups? cs
  | 38, '\x7b' :: cs => if cs.getLast? = some '\x7d' then ofGroups? cs.dropLast else none
  | 45, cs => if cs.take 9 = "urn:uuid:".toList then ofGroups? (cs.drop 9) else none
  | _, _ => none

end Uuid

end MessageBroker
