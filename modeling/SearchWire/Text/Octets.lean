/-!
# Octets and the text they hold

Replies and frames carry octets. A text is written as its UTF-8 octets; octets are read back as a
text only when they are valid UTF-8. To show octets that are not, each maximal part that could have
begun a character but does not complete one is replaced by one replacement character: a machine
that takes one octet at a time holds the bits read so far and the range the next octet must be in,
and an octet outside that range ends the part and is looked at afresh.
-/
namespace SearchWire.Octets

/-- The UTF-8 octets of a text. -/
def ofText (text : String) : List UInt8 := text.toUTF8.data.toList

/-- The text whose UTF-8 octets these are. -/
def text? (octets : List UInt8) : Option String := String.fromUTF8? ⟨octets.toArray⟩

/-- The octets of a text hold that text. -/
theorem text?_ofText (text : String) : text? (ofText text) = some text := by
  have valid : (⟨(ofText text).toArray⟩ : ByteArray).IsValidUTF8 := text.isValidUTF8
  rw [text?, String.fromUTF8?, dif_pos valid]
  rfl

/-- Octets that hold a text are the octets of that text. -/
theorem text?_eq_some_iff {octets : List UInt8} {text : String} :
    text? octets = some text ↔ octets = ofText text := by
  constructor
  · intro read
    unfold text? String.fromUTF8? at read
    split at read
    · cases read
      rfl
    · contradiction
  · rintro rfl
    exact text?_ofText text

/-- What has been read of a character: its high bits, how many octets are still owed after the
next one, and the range of the next one. -/
structure Pending where
  /-- Bits read so far. -/
  high : Nat
  /-- Octets owed after the next one. -/
  later : Nat
  /-- Least value of the next octet. -/
  least : Nat
  /-- Greatest value of the next octet. -/
  greatest : Nat

/-- The character that stands for a part that is not valid. -/
def replacement : Char := '\uFFFD'

/-- Look at an octet that begins a character. -/
def start (octet : Nat) : List Char × Option Pending :=
  if octet < 0x80 then ([Char.ofNat octet], none)
  else if octet < 0xC2 then ([replacement], none)
  else if octet < 0xE0 then ([], some ⟨octet - 0xC0, 0, 0x80, 0xBF⟩)
  else if octet < 0xF0 then
    let least := if octet = 0xE0 then 0xA0 else 0x80
    let greatest := if octet = 0xED then 0x9F else 0xBF
    ([], some ⟨octet - 0xE0, 1, least, greatest⟩)
  else if octet < 0xF5 then
    let least := if octet = 0xF0 then 0x90 else 0x80
    let greatest := if octet = 0xF4 then 0x8F else 0xBF
    ([], some ⟨octet - 0xF0, 2, least, greatest⟩)
  else ([replacement], none)

/-- Look at the next octet: the characters it completes and what is then pending. -/
def step (pending : Option Pending) (octet : Nat) : List Char × Option Pending :=
  match pending with
  | none => start octet
  | some part =>
    if part.least ≤ octet ∧ octet ≤ part.greatest then
      let high := part.high * 64 + (octet - 0x80)
      match part.later with
      | 0 => ([Char.ofNat high], none)
      | later + 1 => ([], some ⟨high, later, 0x80, 0xBF⟩)
    else
      let (completed, next) := start octet
      (replacement :: completed, next)

/-- The characters of octets that follow what is pending. -/
def decode (pending : Option Pending) : List UInt8 → List Char
  | [] => if pending.isSome then [replacement] else []
  | octet :: rest =>
    let (completed, next) := step pending octet.toNat
    completed ++ decode next rest

/-- The text of octets, with a replacement character for each maximal part that is not valid. -/
def shownText (octets : List UInt8) : String := String.ofList (decode none octets)

end SearchWire.Octets
