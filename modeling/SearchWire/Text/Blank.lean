/-!
# Blank characters at the ends of a text

A character is blank when it has the property White_Space. Numbers and counts in replies may be
surrounded by blanks, and a command name made of blanks alone counts as empty.
-/
namespace SearchWire.Blank

/-- Whether a character has the property White_Space. -/
def isBlank (c : Char) : Bool :=
  let n := c.toNat
  (9 ≤ n && n ≤ 13) || n == 0x20 || n == 0x85 || n == 0xa0 || n == 0x1680 ||
    (0x2000 ≤ n && n ≤ 0x200a) || n == 0x2028 || n == 0x2029 || n == 0x202f || n == 0x205f ||
    n == 0x3000

/-- The text without the blanks at its two ends. -/
def trim (text : List Char) : List Char :=
  ((text.dropWhile isBlank).reverse.dropWhile isBlank).reverse

/-- Whether a text has no character that is not blank. -/
def isEmpty (text : String) : Bool := text.toList.all isBlank

end SearchWire.Blank
