/-!
# Writing quoted text in a configuration file

A text is written in the plainest of the four quoted forms that can hold it. Basic quotes hold
text without quotes, backslashes, ends of lines and controls; literal quotes hold backslashes and
double quotes; the two forms on several lines hold ends of lines and up to two of their own quotes
in a row. A text that fits none of these is written with escapes. Tabs never decide the form,
though they are escaped where escapes are possible.
-/
namespace SearchWire.Toml

/-- The four forms of quoted text. -/
inductive Quoting where
  | basic
  | literal
  | basicLines
  | literalLines
deriving DecidableEq

/-- The length of the longest run of one character. -/
def longestRun (c : Char) (text : List Char) : Nat :=
  (text.foldl (fun (run, longest) d =>
    if d = c then (run + 1, max (run + 1) longest) else (0, longest)) (0, 0)).2

/-- A control character that only an escape can write. -/
def isControl (c : Char) : Bool :=
  c != '\t' && c != '\n' && (decide (c.toNat ≤ 0x1f) || c.toNat == 0x7f)

/-- The form in which a text is written. -/
def Quoting.choose (text : List Char) : Quoting :=
  let controls := text.any isControl
  let lines := text.contains '\n'
  let slashes := text.contains '\\'
  if !controls && !slashes && !lines && longestRun '"' text == 0 then .basic
  else if !controls && !lines && longestRun '\'' text == 0 then .literal
  else if !controls && !slashes && decide (longestRun '"' text ≤ 2) then .basicLines
  else if !controls && decide (longestRun '\'' text ≤ 2) then .literalLines
  else if lines then .basicLines
  else .basic

/-- A character written by its number in four hexadecimal digits. -/
def numbered (c : Char) : List Char :=
  let digits := (Nat.toDigits 16 c.toNat).map Char.toUpper
  '\\' :: 'u' :: (List.replicate (4 - digits.length) '0' ++ digits)

/-- A character other than a quote between basic quotes. `lines` says whether an end of a line stands
for itself. -/
def escape (lines : Bool) (c : Char) : List Char :=
  if c = '\x08' then ['\\', 'b']
  else if c = '\t' then ['\\', 't']
  else if c = '\n' then (if lines then [c] else ['\\', 'n'])
  else if c = '\x0c' then ['\\', 'f']
  else if c = '\r' then ['\\', 'r']
  else if c = '\\' then ['\\', '\\']
  else if isControl c then numbered c
  else [c]

/-- The text between basic quotes. `allowed` is the number of quotes in a row that stand for
themselves, `lines` whether ends of lines do, and `run` the number of quotes just written so. -/
def escapeBasic (allowed : Nat) (lines : Bool) : Nat → List Char → List Char
  | _, [] => []
  | run, c :: rest =>
    if c = '"' then
      if run < allowed then c :: escapeBasic allowed lines (run + 1) rest
      else '\\' :: c :: escapeBasic allowed lines 0 rest
    else escape lines c ++ escapeBasic allowed lines 0 rest

/-- A text with its quotes. On several lines the first line begins below the opening quotes if the
text has an end of a line in it. -/
def quoted (text : List Char) : List Char :=
  let opening := if text.contains '\n' then ['\n'] else []
  match Quoting.choose text with
  | .basic => ['"'] ++ escapeBasic 0 false 0 text ++ ['"']
  | .literal => ['\''] ++ text ++ ['\'']
  | .basicLines =>
    ['"', '"', '"'] ++ opening ++ escapeBasic 2 true 0 text ++ ['"', '"', '"']
  | .literalLines => ['\'', '\'', '\''] ++ opening ++ text ++ ['\'', '\'', '\'']

end SearchWire.Toml
