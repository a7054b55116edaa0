/-
# Quoted text

Texts and single characters appear in messages between quotes, in a form from which
each character can be told: a backslash introduces the usual short forms, and a
character that would not be seen is written as its number in braces. Only the quote
that surrounds the text needs a backslash: an apostrophe is plain inside double
quotes and a double quote is plain inside apostrophes.
-/

import MessageBroker.Text.Digits
import MessageBroker.Text.Hidden

namespace MessageBroker.Text

/-- A character as it stands between quotes of the given kind. -/
def escapeChar (quote : Char) (c : Char) : String :=
  if c = '\x00' then "\\0"
  else if c = '\t' then "\\t"
  else if c = '\n' then "\\n"
  else if c = '\r' then "\\r"
  else if c = '\\' then "\\\\"
  else if c = quote then String.ofList ['\\', quote]
  else if c.toNat < 0x20 || (0x7F ≤ c.toNat && isHidden c.toNat) then
    "\\u\x7b" ++ hex c.toNat ++ "\x7d"
  else c.toString

/-- A text between double quotes. -/
def quoted (s : String) : String :=
  "\"" ++ s.toList.foldl (fun out c => out ++ escapeChar '"' c) "" ++ "\""

/-- A character between apostrophes. -/
def quotedChar (c : Char) : String := "'" ++ escapeChar '\'' c ++ "'"

/-- A list of quoted texts in square brackets. -/
def quotedList (items : List String) : String :=
  "[" ++ ", ".intercalate (items.map quoted) ++ "]"

end MessageBroker.Text
