/-!
# Blank characters

The characters with the Unicode `White_Space` property, and trimming them from both ends of a
text. Player names made only of such characters count as empty, and numbers in environment
settings may be surrounded by them.
-/

namespace RoadFetch.Text

/-- Whether a character has the Unicode `White_Space` property. -/
def isBlank (c : Char) : Bool :=
  let n := c.toNat
  (0x09 ≤ n && n ≤ 0x0D) || n == 0x20 || n == 0x85 || n == 0xA0 || n == 0x1680 ||
    (0x2000 ≤ n && n ≤ 0x200A) || n == 0x2028 || n == 0x2029 || n == 0x202F ||
    n == 0x205F || n == 0x3000

/-- The text without blanks at either end. -/
def trim (s : String) : String :=
  String.ofList ((s.toList.dropWhile isBlank).reverse.dropWhile isBlank).reverse

/-- Whether every character of the text is blank. -/
def isAllBlank (s : String) : Bool := s.toList.all isBlank

end RoadFetch.Text
