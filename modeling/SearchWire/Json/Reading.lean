import SearchWire.Json.Number

/-!
# Reading values of a data exchange

A text is read as a whole: one value between blanks. Containers that are nested too deep, numbers
beyond every double and texts with half a surrogate pair follow the grammar but stand for no value.
-/
namespace SearchWire.Json

/-- A blank between the parts of a value. -/
def isBlank (c : Char) : Bool := c == ' ' || c == '\n' || c == '\t' || c == '\r'

/-- Skip blanks. -/
def skipBlanks (text : List Char) : List Char := text.dropWhile isBlank

/-- Value of a hexadecimal digit. -/
def hexDigit? (c : Char) : Option Nat :=
  if c.isDigit then some (c.toNat - '0'.toNat)
  else if 'a' ≤ c ∧ c ≤ 'f' then some (c.toNat - 'a'.toNat + 10)
  else if 'A' ≤ c ∧ c ≤ 'F' then some (c.toNat - 'A'.toNat + 10)
  else none

/-- The code unit of four hexadecimal digits. -/
def codeUnit? (a b c d : Char) : Option Nat := do
  return ((← hexDigit? a) * 16 + (← hexDigit? b)) * 256 + (← hexDigit? c) * 16 + (← hexDigit? d)

/-- The code of a one-letter escape. -/
def escaped? : Char → Option Nat
  | '"' => some 0x22
  | '\\' => some 0x5c
  | '/' => some 0x2f
  | 'b' => some 0x08
  | 'f' => some 0x0c
  | 'n' => some 0x0a
  | 'r' => some 0x0d
  | 't' => some 0x09
  | _ => none

/-- Put a code in front of the codes read behind it. -/
def prepend (code : Nat) : Option (List Nat × List Char) → Option (List Nat × List Char)
  | some (codes, rest) => some (code :: codes, rest)
  | none => none

/-- The codes of a quoted text, behind its opening quote. Escapes give single UTF-16 units. -/
def codes? : List Char → Option (List Nat × List Char)
  | [] => none
  | '"' :: rest => some ([], rest)
  | '\\' :: 'u' :: a :: b :: c :: d :: rest =>
    match codeUnit? a b c d with
    | some unit => prepend unit (codes? rest)
    | none => none
  | '\\' :: letter :: rest =>
    match escaped? letter with
    | some code => prepend code (codes? rest)
    | none => none
  | c :: rest => if c.toNat < 0x20 ∨ c = '\\' then none else prepend c.toNat (codes? rest)

/-- A unit that begins a surrogate pair. -/
def isHigh (code : Nat) : Bool := decide (0xD800 ≤ code) && decide (code ≤ 0xDBFF)

/-- A unit that ends a surrogate pair. -/
def isLow (code : Nat) : Bool := decide (0xDC00 ≤ code) && decide (code ≤ 0xDFFF)

/-- The characters of codes; half a surrogate pair stands for none. -/
def characters? : List Nat → Option (List Char)
  | [] => some []
  | high :: low :: rest =>
    if isHigh high && isLow low then
      (characters? rest).map (Char.ofNat (0x10000 + (high - 0xD800) * 0x400 + (low - 0xDC00)) :: ·)
    else if isHigh high || isLow high then none
    else (characters? (low :: rest)).map (Char.ofNat high :: ·)
  | [code] => if isHigh code || isLow code then none else some [Char.ofNat code]

/-- A quoted text, behind its opening quote: its content, if it stands for one, and what
follows. -/
def quoted? (text : List Char) : Option (Option String × List Char) :=
  (codes? text).map fun (codes, rest) => ((characters? codes).map String.ofList, rest)

/-- Containers may be nested this deep. -/
def depthLimit : Nat := 127

mutual

/-- A value. The first number bounds the steps, the second is the depth that remains. -/
def value? : Nat → Nat → List Char → Option (Json × List Char)
  | 0, _, _ => none
  | steps + 1, depth, text =>
    match skipBlanks text with
    | 'n' :: 'u' :: 'l' :: 'l' :: rest => some (.null, rest)
    | 't' :: 'r' :: 'u' :: 'e' :: rest => some (.boolean true, rest)
    | 'f' :: 'a' :: 'l' :: 's' :: 'e' :: rest => some (.boolean false, rest)
    | '"' :: rest =>
      (quoted? rest).map fun (content, rest) =>
        (match content with
          | some s => .string s
          | none => .valueless, rest)
    | '[' :: rest =>
      let found :=
        match skipBlanks rest with
        | ']' :: rest => some (Json.array [], rest)
        | rest => itemList? steps (depth - 1) [] rest
      found.map fun (j, rest) => (if depth = 0 then .valueless else j, rest)
    | '\x7b' :: rest =>
      let found :=
        match skipBlanks rest with
        | '\x7d' :: rest => some (Json.object [], rest)
        | rest => memberList? steps (depth - 1) (some []) rest
      found.map fun (j, rest) => (if depth = 0 then .valueless else j, rest)
    | text => (Numeral.read? text).map fun (n, rest) => (n.value, rest)

/-- The items of a list from one item on. -/
def itemList? : Nat → Nat → List Json → List Char → Option (Json × List Char)
  | 0, _, _, _ => none
  | steps + 1, depth, before, text => do
    let (item, rest) ← value? steps depth text
    match skipBlanks rest with
    | ',' :: rest => itemList? steps depth (item :: before) rest
    | ']' :: rest => return (.array (item :: before).reverse, rest)
    | _ => none

/-- The members of an object from one member on. One name that stands for no text takes the value
of the whole object away. -/
def memberList? : Nat → Nat → Option (List (String × Json)) → List Char →
    Option (Json × List Char)
  | 0, _, _, _ => none
  | steps + 1, depth, before, text => do
    match skipBlanks text with
    | '"' :: rest =>
      let (name, rest) ← quoted? rest
      match skipBlanks rest with
      | ':' :: rest =>
        let (content, rest) ← value? steps depth rest
        let known := before.bind fun before => name.map fun name => (name, content) :: before
        match skipBlanks rest with
        | ',' :: rest => memberList? steps depth known rest
        | '\x7d' :: rest =>
          return (match known with
            | some reversed => .object reversed.reverse
            | none => .valueless, rest)
        | _ => none
      | _ => none
    | _ => none

end

/-- The value of a text. -/
def ofText? (text : String) : Option Json := do
  let chars := text.toList
  let (j, rest) ← value? (2 * chars.length + 2) depthLimit chars
  if skipBlanks rest = [] then some j else none

end SearchWire.Json
