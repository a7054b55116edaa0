/-
# Blank and control characters

Blanks are the characters with the Unicode property `White_Space`; control
characters are the general category `Cc`. Both sets are small and closed, so they
are written out as ranges. Trimming removes blanks at both ends of a text and
touches nothing between the first and the last character that is not blank.
-/

namespace MessageBroker.Text

/-- Whether a character has the Unicode property `White_Space`. -/
def isBlank (c : Char) : Bool :=
  let n := c.toNat
  (0x09 ≤ n && n ≤ 0x0D) || n == 0x20 || n == 0x85 || n == 0xA0 || n == 0x1680 ||
    (0x2000 ≤ n && n ≤ 0x200A) || n == 0x2028 || n == 0x2029 || n == 0x202F ||
    n == 0x205F || n == 0x3000

/-- Whether a character belongs to the general category `Cc`. -/
def isControl (c : Char) : Bool :=
  let n := c.toNat
  n ≤ 0x1F || (0x7F ≤ n && n ≤ 0x9F)

/-- The characters without the blanks at the front. -/
def trimLeft (cs : List Char) : List Char := cs.dropWhile isBlank

/-- The characters without the blanks at the back. -/
def trimRight (cs : List Char) : List Char := (cs.reverse.dropWhile isBlank).reverse

/-- The characters without the blanks at both ends. -/
def trimChars (cs : List Char) : List Char := trimRight (trimLeft cs)

/-- A text without the blanks at both ends. -/
def trim (s : String) : String := String.ofList (trimChars s.toList)

/-- Whether a text holds nothing but blanks. -/
def isBlankText (s : String) : Bool := s.toList.all isBlank

end MessageBroker.Text
