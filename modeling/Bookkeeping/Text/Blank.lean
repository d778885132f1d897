set_option autoImplicit false

/-! # Blank characters

Spaces are the characters with the Unicode property White_Space; blanks are spaces and the four ASCII
information separators. Amounts, search terms and user names lose the blanks at their ends, whole
numbers and identifiers the spaces only. -/

namespace Bookkeeping.Text

/-- Is `c` a blank: white space, or one of the ASCII separators U+001C to U+001F? -/
def isBlank (c : Char) : Bool :=
  let n := c.toNat
  (9 ≤ n && n ≤ 13) || (28 ≤ n && n ≤ 32) || n == 0x85 || n == 0xA0 || n == 0x1680 ||
    (0x2000 ≤ n && n ≤ 0x200A) || n == 0x2028 || n == 0x2029 || n == 0x202F || n == 0x205F ||
    n == 0x3000

/-- Is `c` white space? -/
def isSpace (c : Char) : Bool := isBlank c && !(28 ≤ c.toNat && c.toNat < 32)

/-- Drop the characters of a class at both ends of a list of characters. -/
def trimClass (inClass : Char → Bool) (cs : List Char) : List Char :=
  ((cs.dropWhile inClass).reverse.dropWhile inClass).reverse

/-- Drop the spaces at both ends of a list of characters. -/
def trimSpaces (cs : List Char) : List Char := trimClass isSpace cs

/-- Drop the blanks at both ends of a list of characters. -/
def trimChars (cs : List Char) : List Char := trimClass isBlank cs

/-- Drop the blanks at both ends of a text. -/
def trim (s : String) : String :=
  String.ofList (trimChars s.toList)

end Bookkeeping.Text
