import SearchWire.Text.Unprintable
import SearchWire.Text.Extending

/-!
# Quoted text

Messages show the text of a reply between quotes, so that its ends and its invisible characters can
be seen. The quote itself and the backslash get a backslash, the common controls their letter, and
every other character that is not printed or would merge with its neighbour is written as its
number in hexadecimal.
-/
namespace SearchWire.Quoted

/-- Whether a number lies in one of the ranges. -/
def inRanges (ranges : List (Nat × Nat)) (n : Nat) : Bool :=
  ranges.any fun (first, last) => decide (first ≤ n) && decide (n ≤ last)

/-- Whether a character stands for itself between quotes. -/
def isPlain (c : Char) : Bool :=
  let n := c.toNat
  if n < 0x7f then 0x20 ≤ n
  else !inRanges CharTable.unprintable n && !inRanges CharTable.extending n

/-- A character as it stands between two quotes of the given kind. -/
def escape (quote c : Char) : List Char :=
  if c = '\x00' then ['\\', '0']
  else if c = '\t' then ['\\', 't']
  else if c = '\n' then ['\\', 'n']
  else if c = '\r' then ['\\', 'r']
  else if c = '\\' ∨ c = quote then ['\\', c]
  else if isPlain c then [c]
  else '\\' :: 'u' :: '\x7b' :: (Nat.toDigits 16 c.toNat ++ ['\x7d'])

/-- A text in double quotes. -/
def text (s : String) : String :=
  String.ofList ('"' :: (s.toList.flatMap (escape '"') ++ ['"']))

/-- A character in single quotes. -/
def character (c : Char) : String :=
  String.ofList ('\'' :: (escape '\'' c ++ ['\'']))

end SearchWire.Quoted
