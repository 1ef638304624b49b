import SearchWire.Double.Reading
import SearchWire.Toml.Document
import SearchWire.Word

/-!
# The words of a configuration file

Readers for the parts of a TOML document that do not contain each other: blanks and comments, the
four kinds of quoted text, keys, numbers, dates and times. Each takes a part from the front of the
text and returns what follows it.
-/
namespace SearchWire.Toml

/-- A space or a tab. -/
def isSpace (c : Char) : Bool := c == ' ' || c == '\t'

/-- Skip spaces and tabs. -/
def skipSpace (text : List Char) : List Char := text.dropWhile isSpace

/-- A character outside ASCII. -/
def isBeyondAscii (c : Char) : Bool := decide (0x80 ≤ c.toNat)

/-- A character that may stand in a comment. -/
def isCommentChar (c : Char) : Bool :=
  c == '\t' || (decide (0x20 ≤ c.toNat) && decide (c.toNat ≤ 0x7e)) || isBeyondAscii c

/-- A character that stands for itself in basic quoted text. -/
def isBasicChar (c : Char) : Bool := isCommentChar c && c != '"' && c != '\\'

/-- A character that stands for itself in literal quoted text. -/
def isLiteralChar (c : Char) : Bool := isCommentChar c && c != '\''

/-- A character of a key without quotes. -/
def isKeyChar (c : Char) : Bool := c.isAlphanum || c == '-' || c == '_'

/-- Skip the end of a line. -/
def newline? : List Char → Option (List Char)
  | '\n' :: rest => some rest
  | '\r' :: '\n' :: rest => some rest
  | _ => none

/-- Skip what may follow on a line: blanks, a comment, and the end of the line or of the text. -/
def restOfLine? (text : List Char) : Option (List Char) :=
  let after :=
    match skipSpace text with
    | '#' :: comment => comment.dropWhile isCommentChar
    | other => other
  if after = [] then some [] else newline? after

/-- Skip blanks, ends of lines and comments; the flag says whether a comment is being read. -/
def skipLines? : Bool → List Char → Option (List Char)
  | false, [] => some []
  | true, [] => none
  | _, '\n' :: rest => skipLines? false rest
  | _, '\r' :: '\n' :: rest => skipLines? false rest
  | false, c :: rest =>
    if isSpace c then skipLines? false rest
    else if c = '#' then skipLines? true rest
    else if c = '\r' then none
    else some (c :: rest)
  | true, c :: rest => if isCommentChar c then skipLines? true rest else none

/-- Value of a hexadecimal digit. -/
def hexDigit? (c : Char) : Option Nat :=
  if c.isDigit then some (c.toNat - '0'.toNat)
  else if 'a' ≤ c ∧ c ≤ 'f' then some (c.toNat - 'a'.toNat + 10)
  else if 'A' ≤ c ∧ c ≤ 'F' then some (c.toNat - 'A'.toNat + 10)
  else none

/-- The character whose number is written in hexadecimal; surrogates are no characters. -/
def character? (digits : List Char) : Option Char := do
  let values ← digits.mapM hexDigit?
  let number := values.foldl (fun high digit => 16 * high + digit) 0
  if h : number.isValidChar then some (Char.ofNatAux number h) else none

/-- The character of a one-letter escape. -/
def escaped? : Char → Option Char
  | 'b' => some '\x08'
  | 'f' => some '\x0c'
  | 'n' => some '\n'
  | 'r' => some '\r'
  | 't' => some '\t'
  | '"' => some '"'
  | '\\' => some '\\'
  | _ => none

/-- Put a character in front of the text read behind it. -/
def prepend (c : Char) : Option (List Char × List Char) → Option (List Char × List Char)
  | some (text, rest) => some (c :: text, rest)
  | none => none

/-- Basic quoted text on one line, behind its opening quote. -/
def basic? : List Char → Option (List Char × List Char)
  | [] => none
  | '"' :: rest => some ([], rest)
  | '\\' :: 'u' :: a :: b :: c :: d :: rest =>
    match character? [a, b, c, d] with
    | some found => prepend found (basic? rest)
    | none => none
  | '\\' :: 'U' :: a :: b :: c :: d :: e :: f :: g :: h :: rest =>
    match character? [a, b, c, d, e, f, g, h] with
    | some found => prepend found (basic? rest)
    | none => none
  | '\\' :: letter :: rest =>
    match escaped? letter with
    | some found => prepend found (basic? rest)
    | none => none
  | c :: rest => if isBasicChar c then prepend c (basic? rest) else none

/-- Whether a backslash in front of this text joins two lines. -/
def joinsLines (text : List Char) : Bool := (newline? (skipSpace text)).isSome

/-- Basic quoted text on several lines, behind its opening quotes. The flag says whether blanks
are being skipped because a backslash ended a line. Up to two quotes stand for themselves, also in
front of the closing three. -/
def basicLines? : Bool → List Char → Option (List Char × List Char)
  | _, [] => none
  | _, '"' :: '"' :: '"' :: '"' :: '"' :: rest => some (['"', '"'], rest)
  | _, '"' :: '"' :: '"' :: '"' :: rest => some (['"'], rest)
  | _, '"' :: '"' :: '"' :: rest => some ([], rest)
  | _, '"' :: rest => prepend '"' (basicLines? false rest)
  | skipping, '\n' :: rest =>
    if skipping then basicLines? true rest else prepend '\n' (basicLines? false rest)
  | skipping, '\r' :: '\n' :: rest =>
    if skipping then basicLines? true rest else prepend '\n' (basicLines? false rest)
  | _, '\\' :: 'u' :: a :: b :: c :: d :: rest =>
    match character? [a, b, c, d] with
    | some found => prepend found (basicLines? false rest)
    | none => none
  | _, '\\' :: 'U' :: a :: b :: c :: d :: e :: f :: g :: h :: rest =>
    match character? [a, b, c, d, e, f, g, h] with
    | some found => prepend found (basicLines? false rest)
    | none => none
  | _, '\\' :: letter :: rest =>
    match escaped? letter with
    | some found => prepend found (basicLines? false rest)
    | none => if joinsLines (letter :: rest) then basicLines? true (letter :: rest) else none
  | skipping, c :: rest =>
    if skipping && isSpace c then basicLines? true rest
    else if isBasicChar c then prepend c (basicLines? false rest)
    else none

/-- Literal quoted text on one line, behind its opening quote. -/
def literal? : List Char → Option (List Char × List Char)
  | [] => none
  | '\'' :: rest => some ([], rest)
  | c :: rest => if isLiteralChar c then prepend c (literal? rest) else none

/-- Literal quoted text on several lines, behind its opening quotes. -/
def literalLines? : List Char → Option (List Char × List Char)
  | [] => none
  | '\'' :: '\'' :: '\'' :: '\'' :: '\'' :: rest => some (['\'', '\''], rest)
  | '\'' :: '\'' :: '\'' :: '\'' :: rest => some (['\''], rest)
  | '\'' :: '\'' :: '\'' :: rest => some ([], rest)
  | '\'' :: rest => prepend '\'' (literalLines? rest)
  | '\n' :: rest => prepend '\n' (literalLines? rest)
  | '\r' :: '\n' :: rest => prepend '\n' (literalLines? rest)
  | c :: rest => if isLiteralChar c then prepend c (literalLines? rest) else none

/-- Skip one end of a line, if one is there. -/
def skipFirstNewline (text : List Char) : List Char := (newline? text).getD text

/-- Quoted text of any kind. The end of a line right behind three opening quotes does not count. -/
def quoted? (text : List Char) : Option (String × List Char) :=
  let found :=
    match text with
    | '"' :: '"' :: '"' :: rest => basicLines? false (skipFirstNewline rest)
    | '"' :: rest => basic? rest
    | '\'' :: '\'' :: '\'' :: rest => literalLines? (skipFirstNewline rest)
    | '\'' :: rest => literal? rest
    | _ => none
  found.map fun (content, rest) => (String.ofList content, rest)

/-- One name of a key: in single or double quotes on one line, or without quotes. -/
def name? (text : List Char) : Option (String × List Char) :=
  match text with
  | '"' :: rest => (basic? rest).map fun (content, rest) => (String.ofList content, rest)
  | '\'' :: rest => (literal? rest).map fun (content, rest) => (String.ofList content, rest)
  | _ =>
    let bare := text.takeWhile isKeyChar
    if bare = [] then none else some (String.ofList bare, text.dropWhile isKeyChar)

/-- The names of a dotted key, with blanks around each, at most as many as the bound allows. -/
def key? : Nat → List Char → Option (List String × List Char)
  | 0, _ => none
  | bound + 1, text => do
    let (name, rest) ← name? (skipSpace text)
    match skipSpace rest with
    | '.' :: rest =>
      let (names, rest) ← key? bound rest
      return (name :: names, rest)
    | rest => return ([name], rest)

/-- Digits in which single underscores may stand between two digits, without the underscores. -/
def spacedDigits? (isDigit : Char → Bool) : List Char → Option (List Char × List Char)
  | [] => none
  | [c] => if isDigit c then some ([c], []) else none
  | c :: '_' :: rest => if isDigit c then prepend c (spacedDigits? isDigit rest) else none
  | c :: next :: rest =>
    if isDigit c then
      if isDigit next then prepend c (spacedDigits? isDigit (next :: rest))
      else some ([c], next :: rest)
    else none

/-- An optional sign. -/
def sign : List Char → List Char × List Char
  | '+' :: rest => (['+'], rest)
  | '-' :: rest => (['-'], rest)
  | text => ([], text)

/-- The digits of a decimal integer, which has no leading zero. -/
def decimal? : List Char → Option (List Char × List Char)
  | '0' :: rest => some (['0'], rest)
  | text => spacedDigits? Char.isDigit text

/-- An integer in the given base, behind its mark. -/
def radix? (base : Nat) (text : List Char) : Option (Item × List Char) := do
  let isDigit := fun c => (hexDigit? c).any (· < base)
  let (digits, rest) ← spacedDigits? isDigit text
  let values ← digits.mapM hexDigit?
  let n ← Word.int64? (values.foldl (fun (high : Nat) digit => base * high + digit) 0 : Nat)
  return (.integer n, rest)

/-- The exponent of a number, behind its mark. -/
def exponent? (text : List Char) : Option (List Char × List Char) := do
  let (mark, rest) := sign text
  let (digits, rest) ← spacedDigits? Char.isDigit rest
  return ('e' :: mark ++ digits, rest)

/-- A floating-point number from its cleaned digits; one too large in the positive is refused. -/
def float? (digits rest : List Char) : Option (Item × List Char) := do
  let d ← Double.ofChars? digits
  if d = Double.infinity false then none else some (.float d, rest)

/-- A decimal integer or a floating-point number, behind its sign. -/
def decimalNumber? (mark text : List Char) : Option (Item × List Char) := do
  let (whole, rest) ← decimal? text
  match rest with
  | '.' :: rest =>
    let (fraction, rest) ← spacedDigits? Char.isDigit rest
    match rest with
    | 'e' :: rest | 'E' :: rest =>
      let (power, rest) ← exponent? rest
      float? (mark ++ whole ++ '.' :: fraction ++ power) rest
    | rest => float? (mark ++ whole ++ '.' :: fraction) rest
  | 'e' :: rest | 'E' :: rest =>
    let (power, rest) ← exponent? rest
    float? (mark ++ whole ++ power) rest
  | rest =>
    let n ← (Decimal.integer? (mark ++ whole)).bind Word.int64?
    return (.integer n, rest)

/-- A number. Only a number without a sign may be marked as hexadecimal, octal or binary. -/
def number? (text : List Char) : Option (Item × List Char) :=
  match text with
  | '0' :: 'x' :: rest => radix? 16 rest
  | '0' :: 'o' :: rest => radix? 8 rest
  | '0' :: 'b' :: rest => radix? 2 rest
  | _ =>
    let (mark, rest) := sign text
    match rest with
    | 'i' :: 'n' :: 'f' :: rest => some (.float (Double.infinity (mark = ['-'])), rest)
    | 'n' :: 'a' :: 'n' :: rest => some (.float (Double.nan (mark = ['-'])), rest)
    | _ => decimalNumber? mark rest

/-- A number of exactly so many digits within a range. -/
def fixed? (width least greatest : Nat) (text : List Char) : Option (Nat × List Char) := do
  let n ← Decimal.natural? (text.take width)
  if (text.take width).length = width ∧ least ≤ n ∧ n ≤ greatest then
    some (n, text.drop width)
  else none

/-- Skip one given character. -/
def skip? (c : Char) : List Char → Option (List Char)
  | first :: rest => if first = c then some rest else none
  | [] => none

/-- The number of days of a month. -/
def daysOfMonth (year month : Nat) : Nat :=
  if month = 2 then
    if year % 4 = 0 ∧ (year % 100 ≠ 0 ∨ year % 400 = 0) then 29 else 28
  else if month = 4 ∨ month = 6 ∨ month = 9 ∨ month = 11 then 30
  else 31

/-- Skip a date. -/
def date? (text : List Char) : Option (List Char) := do
  let (year, rest) ← fixed? 4 0 9999 text
  let (month, rest) ← fixed? 2 1 12 (← skip? '-' rest)
  let (_, rest) ← fixed? 2 1 (daysOfMonth year month) (← skip? '-' rest)
  return rest

/-- Skip a time of day. -/
def time? (text : List Char) : Option (List Char) := do
  let (_, rest) ← fixed? 2 0 23 text
  let (_, rest) ← fixed? 2 0 59 (← skip? ':' rest)
  let (_, rest) ← fixed? 2 0 60 (← skip? ':' rest)
  match rest with
  | '.' :: digits =>
    if (digits.takeWhile Char.isDigit) = [] then none else some (digits.dropWhile Char.isDigit)
  | rest => return rest

/-- Skip the distance of a time from the prime meridian's, if one is there. -/
def offset? (text : List Char) : Option (List Char) :=
  match text with
  | 'Z' :: rest | 'z' :: rest => some rest
  | '+' :: rest | '-' :: rest => do
    let (_, rest) ← fixed? 2 0 23 rest
    let (_, rest) ← fixed? 2 0 59 (← skip? ':' rest)
    return rest
  | _ => some text

/-- A date, a time, or a date and a time. -/
def moment? (text : List Char) : Option (Item × List Char) :=
  match date? text with
  | none => (time? text).map (Item.moment, ·)
  | some afterDate =>
    let timed :=
      match afterDate with
      | mark :: rest => if mark = 'T' ∨ mark = 't' ∨ mark = ' ' then time? rest else none
      | [] => none
    match timed with
    | some afterTime => (offset? afterTime).map (Item.moment, ·)
    | none => some (Item.moment, afterDate)

end SearchWire.Toml
