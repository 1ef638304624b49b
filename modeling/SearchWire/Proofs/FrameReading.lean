import SearchWire.Exchange.Frame
import SearchWire.Proofs.FewestDigits

/-!
# Frames read from the wire

A reader of RESP knows nothing of commands and tokens: it takes arrays of bulk strings from the
front of the octets that have arrived. A bulk string is read by its length and never searched for a
mark or for the end of a line, so a frame is read back whatever its name and its arguments hold, and
frames in a row are split where they were joined. What is read is said without the writer: the UTF-8
octets of texts, of the digits of integers, and of decimals that are rounded to doubles.
-/
namespace SearchWire

namespace Octets

/-- A text is told by its octets. -/
theorem ofText_injective : Function.Injective ofText := by
  intro left right same
  have read := text?_ofText left
  rw [same, text?_ofText] at read
  exact (Option.some.inj read).symm

/-- A character of ASCII is one octet. -/
theorem utf8EncodeChar_of_ascii {c : Char} (ascii : c.toNat < 0x80) :
    String.utf8EncodeChar c = [UInt8.ofNat c.toNat] := by
  have small : c.val.toNat ≤ 127 := Nat.le_of_lt_succ ascii
  simp only [String.utf8EncodeChar, small, if_true]
  rfl

/-- A text of ASCII characters has one octet for each of them. -/
theorem ofText_ofList {chars : List Char} (ascii : ∀ c ∈ chars, c.toNat < 0x80) :
    ofText (String.ofList chars) = chars.map fun c => UInt8.ofNat c.toNat := by
  have encoded : ofText (String.ofList chars) = chars.flatMap String.utf8EncodeChar := by
    change chars.utf8Encode.data.toList = _
    simp [List.utf8Encode]
  rw [encoded, List.flatMap_congr fun c inside => utf8EncodeChar_of_ascii (ascii c inside)]
  exact List.flatMap_pure_eq_map _ chars

/-- The octet of an ASCII character has its number. -/
theorem toNat_ofNat_of_ascii {c : Char} (ascii : c.toNat < 0x80) :
    (UInt8.ofNat c.toNat).toNat = c.toNat := by
  rw [UInt8.toNat_ofNat']
  omega

end Octets

namespace Resp

/-- The octets up to the end of a line, and those behind it. -/
def line? (octets : List UInt8) : Option (List UInt8 × List UInt8) :=
  match octets.dropWhile (· != 13) with
  | 13 :: 10 :: rest => some (octets.takeWhile (· != 13), rest)
  | _ => none

/-- The number on a line behind a mark, and the octets behind the line. -/
def header? (mark : UInt8) : List UInt8 → Option (Nat × List UInt8)
  | [] => none
  | first :: octets =>
    if first = mark then do
      let (digits, rest) ← line? octets
      let n ← Decimal.natural? (digits.map fun octet => Char.ofNat octet.toNat)
      some (n, rest)
    else none

/-- The octets of a bulk string, and those behind it. -/
def bulk? (octets : List UInt8) : Option (List UInt8 × List UInt8) := do
  let (length, rest) ← header? 36 octets
  match rest.drop length with
  | 13 :: 10 :: later => some (rest.take length, later)
  | _ => none

/-- A number of bulk strings, and the octets behind them. -/
def bulks? : Nat → List UInt8 → Option (List (List UInt8) × List UInt8)
  | 0, octets => some ([], octets)
  | count + 1, octets => do
    let (payload, rest) ← bulk? octets
    let (payloads, rest) ← bulks? count rest
    some (payload :: payloads, rest)

/-- The bulk strings of an array, and the octets behind it. -/
def array? (octets : List UInt8) : Option (List (List UInt8) × List UInt8) := do
  let (count, rest) ← header? 42 octets
  bulks? count rest

/-- Whether octets are arrays one behind the other, with nothing left over. -/
inductive Splits : List UInt8 → List (List (List UInt8)) → Prop where
  /-- Nothing is no array. -/
  | nil : Splits [] []
  /-- The array in front is followed by others. -/
  | cons {octets rest : List UInt8} {payloads : List (List UInt8)}
      {later : List (List (List UInt8))} (first : array? octets = some (payloads, rest))
      (others : Splits rest later) : Splits octets (payloads :: later)

/-! ## What is written is read -/

/-- A line is read up to its end, if no end of a line is in it. -/
theorem line?_append {line : List UInt8} (plain : ∀ octet ∈ line, octet ≠ 13)
    (rest : List UInt8) : line? (line ++ 13 :: 10 :: rest) = some (line, rest) := by
  have kept : ∀ octet ∈ line, (octet != 13) = true := by
    intro octet inside
    exact bne_iff_ne.mpr (plain octet inside)
  have dropped : (line ++ 13 :: 10 :: rest).dropWhile (· != 13) = 13 :: 10 :: rest := by
    rw [List.dropWhile_append_of_pos kept]
    rfl
  have taken : (line ++ 13 :: 10 :: rest).takeWhile (· != 13) = line := by
    rw [List.takeWhile_append_of_pos kept, List.takeWhile_cons_of_neg (by decide), List.append_nil]
  rw [line?, dropped, taken]
  rfl

/-- The number on a line is read from its digits. -/
theorem header?_header (mark : UInt8) (n : Nat) (rest : List UInt8) :
    header? mark (Frame.header mark n ++ rest) = some (n, rest) := by
  let digits := Nat.toDigits 10 n
  have bounds : ∀ c ∈ digits, 48 ≤ c.toNat ∧ c.toNat ≤ 57 := fun c inside =>
    Char.isDigit_iff_toNat.mp (Nat.isDigit_of_mem_toDigits (by decide) (by decide) inside)
  have ascii : ∀ c ∈ digits, c.toNat < 0x80 := fun c inside =>
    Nat.lt_of_le_of_lt (bounds c inside).2 (by decide)
  have written : Octets.ofText (toString n) = digits.map fun c => UInt8.ofNat c.toNat := by
    rw [Nat.toString_eq_ofList_toDigits, Octets.ofText_ofList ascii]
  have plain : ∀ octet ∈ digits.map fun c => UInt8.ofNat c.toNat, octet ≠ 13 := by
    intro octet inside same
    obtain ⟨c, digit, rfl⟩ := List.mem_map.mp inside
    have least := (bounds c digit).1
    rw [← Octets.toNat_ofNat_of_ascii (ascii c digit), same] at least
    contradiction
  have restored : (digits.map fun c => UInt8.ofNat c.toNat).map
      (fun octet => Char.ofNat octet.toNat) = digits := by
    rw [List.map_map]
    refine (List.map_congr_left fun c inside => ?_).trans (List.map_id digits)
    rw [Function.comp_apply, Octets.toNat_ofNat_of_ascii (ascii c inside), Char.ofNat_toNat, id]
  have number : Decimal.natural? digits = some n := Decimal.natural?_toDigits n
  rw [Frame.header, List.cons_append, List.append_assoc, written]
  simp only [header?, Frame.lineEnd, List.cons_append, List.nil_append, line?_append plain,
    restored, number, Option.bind_eq_bind, Option.bind_some, if_true]

/-- A bulk string is read by its length, whatever it holds. -/
theorem bulk?_bulk (payload rest : List UInt8) :
    bulk? (Frame.bulk payload ++ rest) = some (payload, rest) := by
  rw [bulk?, Frame.bulk, List.append_assoc, List.append_assoc, header?_header]
  simp [Frame.lineEnd]

/-- As many bulk strings are read as were written. -/
theorem bulks?_flatMap (payloads : List (List UInt8)) (rest : List UInt8) :
    bulks? payloads.length (payloads.flatMap Frame.bulk ++ rest) = some (payloads, rest) := by
  induction payloads with
  | nil => rfl
  | cons payload payloads ih =>
    simp only [List.length_cons, List.flatMap_cons, List.append_assoc, bulks?, bulk?_bulk, ih,
      Option.bind_eq_bind, Option.bind_some]

/-- An array of bulk strings as it is written. -/
def array (payloads : List (List UInt8)) : List UInt8 :=
  Frame.header 42 payloads.length ++ payloads.flatMap Frame.bulk

/-- An array is read from the front of what has arrived. -/
theorem array?_array (payloads : List (List UInt8)) (rest : List UInt8) :
    array? (array payloads ++ rest) = some (payloads, rest) := by
  rw [array?, array, List.append_assoc, header?_header]
  exact bulks?_flatMap payloads rest

/-- Arrays that are written one behind the other are split in one way. -/
theorem splits_flatMap_array_iff {arrays split : List (List (List UInt8))} :
    Splits (arrays.flatMap array) split ↔ split = arrays := by
  induction arrays generalizing split with
  | nil =>
    constructor
    · rintro (_ | ⟨first, -⟩)
      · rfl
      · cases first
    · rintro rfl
      exact .nil
  | cons payloads arrays ih =>
    have read := array?_array payloads (arrays.flatMap array)
    rw [List.flatMap_cons]
    constructor
    · intro splits
      generalize joined : array payloads ++ arrays.flatMap array = octets at splits read
      cases splits with
      | nil => cases read
      | cons first others =>
        rw [read] at first
        cases first
        rw [ih.mp others]
    · rintro rfl
      exact .cons read (ih.mpr rfl)

end Resp

namespace Token

/-- What a token is spelled as: a text as it stands, an integer by a sign and its digits, a double by
its text. -/
def spelling : Token → String
  | text s => s
  | integer n => String.ofList
    ((if n.toInt < 0 then ['-'] else []) ++ Nat.toDigits 10 n.toInt.natAbs)
  | double d => d.text

/-- A token is written as it is spelled. -/
theorem shown_eq_spelling (t : Token) : t.shown = t.spelling := by
  cases t with
  | text s => rfl
  | double d => rfl
  | integer n =>
    rw [shown, spelling, Int.toString_eq_repr, Int.repr_eq_if]
    split
    · next nonnegative =>
      have size : n.toInt.natAbs = n.toInt.toNat := by omega
      rw [if_neg (not_lt.mpr nonnegative), List.nil_append, size, Nat.repr_eq_ofList_toDigits]
    · next negative =>
      have size : n.toInt.natAbs = (-n.toInt).toNat := by omega
      rw [if_pos (not_le.mp negative), String.ofList_append, size, Nat.repr_eq_ofList_toDigits]

end Token

namespace Frame

/-- The texts of a frame: its name and the spelling of its arguments. -/
def words (f : Frame) : List String := f.name :: f.args.map Token.spelling

/-- The texts of a frame in UTF-8. -/
def payloads (f : Frame) : List (List UInt8) := f.words.map fun text => text.toUTF8.data.toList

/-- A frame is the array of its texts. -/
theorem octets_eq (f : Frame) : f.octets = Resp.array f.payloads := by
  have args (t : Token) : t.octets = t.spelling.toUTF8.data.toList := by
    rw [Token.octets, Token.shown_eq_spelling, Octets.ofText]
  simp [octets, Resp.array, payloads, words, List.flatMap_map, args, Octets.ofText]

/-- Frames in a row are split in one way. -/
theorem splits_flatMap_octets_iff {frames : List Frame} {split : List (List (List UInt8))} :
    Resp.Splits (frames.flatMap octets) split ↔ split = frames.map payloads := by
  have arrays : frames.flatMap octets = (frames.map payloads).flatMap Resp.array := by
    rw [List.flatMap_map]
    exact List.flatMap_congr fun f _ => f.octets_eq
  rw [arrays]
  exact Resp.splits_flatMap_array_iff

/-- Frames with the same octets in a row have the same texts, one by one. -/
theorem map_words_eq_of_flatMap_octets {frames others : List Frame}
    (same : frames.flatMap octets = others.flatMap octets) :
    frames.map words = others.map words := by
  have split : Resp.Splits (others.flatMap octets) (frames.map payloads) := by
    rw [← same]
    exact splits_flatMap_octets_iff.mpr rfl
  have payloads : frames.map payloads = others.map payloads := splits_flatMap_octets_iff.mp split
  have encoded : Function.Injective (List.map (List.map Octets.ofText)) :=
    List.map_injective_iff.mpr (List.map_injective_iff.mpr Octets.ofText_injective)
  apply encoded
  rw [List.map_map, List.map_map]
  exact payloads

/-- A frame is read back from the front of whatever follows it: its name and its arguments in UTF-8.
Frames in a row are split in one way, into the texts of each, and so frames with the same octets have
the same texts. A double is among them by the fewest digits that are rounded to it. -/
theorem words_read_back :
    (∀ (f : Frame) (rest : List UInt8),
      Resp.array? (f.octets ++ rest) = some (f.payloads, rest)) ∧
    (∀ (frames : List Frame) (split : List (List (List UInt8))),
      Resp.Splits (frames.flatMap octets) split ↔ split = frames.map payloads) ∧
    (∀ frames others : List Frame, frames.flatMap octets = others.flatMap octets →
      frames.map words = others.map words) ∧
    (∀ f g : Frame, f.octets = g.octets →
      f.name = g.name ∧ f.args.map Token.spelling = g.args.map Token.spelling) ∧
    ∀ d : Double, Double.Written d (Token.spelling (.double d)) := by
  refine ⟨fun f rest => ?_, fun frames split => splits_flatMap_octets_iff,
    fun frames others same => map_words_eq_of_flatMap_octets same, fun f g same => ?_,
    Double.written_text⟩
  · rw [octets_eq, Resp.array?_array]
  · have single : [f].flatMap octets = [g].flatMap octets := by
      rw [List.flatMap_singleton, List.flatMap_singleton, same]
    have texts : f.words = g.words :=
      (List.cons.inj (map_words_eq_of_flatMap_octets single)).1
    exact List.cons.inj texts

/-- Arguments that are empty or look like the end of a bulk string and the length of another one are
read back, and an integer is written like the text of its digits. -/
theorem words_read_back_delimiters :
    (⟨"FT.CURSOR", [.text "$1\r\n*", .text "", .integer 12]⟩ : Frame).octets =
        (⟨"FT.CURSOR", [.text "$1\r\n*", .text "", .text "12"]⟩ : Frame).octets ∧
      [Token.text "$1\r\n*", .text "", .integer 12].map Token.spelling =
        ["$1\r\n*", "", "12"] :=
  ⟨rfl, (words_read_back.2.2.2.1 ⟨"FT.CURSOR", [.text "$1\r\n*", .text "", .integer 12]⟩
    ⟨"FT.CURSOR", [.text "$1\r\n*", .text "", .text "12"]⟩ rfl).2⟩

end Frame

end SearchWire
