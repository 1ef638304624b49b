import SearchWire.Exchange.Config
import SearchWire.Proofs.Numerals
import SearchWire.Proofs.QuotedForms

/-!
# Configurations that are read back

A configuration is written one entry on a line. Each kind of value is taken up to the end of its
line, whatever stands behind it: a text by its quotes, a number as the digits of no date, no time
and no fraction, a truth value by its name. A line therefore puts one entry into the open table, and
a text of lines whose names are all different is a document of just their entries. The entries of a
configuration give that configuration without a default, so reading its file gives what checking it
gives.
-/
namespace SearchWire

namespace Toml

/-! ## Numbers -/

section
variable {digits : List Char} (numeric : Decimal.Digits digits)
include numeric

/-- Digits on a line are not followed by another mark. -/
theorem skip?_digits {mark : Char} (other : mark.isDigit = false ∧ mark ≠ '\n')
    (rest : List Char) : skip? mark (digits ++ '\n' :: rest) = none := by
  cases digits with
  | nil => exact if_neg other.2.symm
  | cons c digits =>
    refine if_neg ?_
    rintro rfl
    rw [numeric _ List.mem_cons_self] at other
    exact Bool.noConfusion other.1

/-- Behind a number of fixed width, digits go on up to the end of the line. -/
theorem exists_of_fixed? {width least greatest n : Nat} {rest after : List Char}
    (read : fixed? width least greatest (digits ++ '\n' :: rest) = some (n, after)) :
    ∃ later, Decimal.Digits later ∧ after = later ++ '\n' :: rest := by
  obtain ⟨k, number, read⟩ := Option.bind_eq_some_iff.mp read
  obtain ⟨-, same⟩ := Option.ite_none_right_eq_some.mp read
  obtain ⟨rfl, rfl⟩ := Prod.mk.inj (Option.some.inj same)
  have taken := (Decimal.natural?_eq_some_iff.mp number).2.1
  have short : width ≤ digits.length := by
    by_contra long
    have line : '\n' ∈ (digits ++ '\n' :: rest).take width := by
      rw [List.take_append, List.mem_append]
      right
      obtain ⟨more, same⟩ := Nat.exists_eq_add_of_lt (Nat.lt_of_not_le long)
      rw [same]
      have count : digits.length + more + 1 - digits.length = more + 1 := by omega
      rw [count]
      exact List.mem_cons_self
    have digit := taken _ line
    contradiction
  refine ⟨digits.drop width, fun c inside => numeric c (List.mem_of_mem_drop inside), ?_⟩
  rw [List.drop_append_of_le_length short]

/-- Behind a number of fixed width, digits on a line are not followed by another mark. -/
theorem skip?_of_fixed? {width least greatest : Nat} {rest : List Char} {found : Nat × List Char}
    (read : fixed? width least greatest (digits ++ '\n' :: rest) = some found) {mark : Char}
    (other : mark.isDigit = false ∧ mark ≠ '\n') : skip? mark found.2 = none := by
  obtain ⟨later, numeric', same⟩ := exists_of_fixed? numeric read
  rw [same]
  exact skip?_digits numeric' other rest

/-- A number is no date and no time. -/
theorem moment?_digits (rest : List Char) : moment? (digits ++ '\n' :: rest) = none := by
  have date : date? (digits ++ '\n' :: rest) = none := by
    cases year : fixed? 4 0 9999 (digits ++ '\n' :: rest) with
    | none => simp [date?, year]
    | some found =>
      have mark : skip? '-' found.2 = none := skip?_of_fixed? numeric year (by decide)
      simp [date?, year, mark]
  have time : time? (digits ++ '\n' :: rest) = none := by
    cases hour : fixed? 2 0 23 (digits ++ '\n' :: rest) with
    | none => simp [time?, hour]
    | some found =>
      have mark : skip? ':' found.2 = none := skip?_of_fixed? numeric hour (by decide)
      simp [time?, hour, mark]
  rw [moment?, date]
  simp [time]

/-- Digits are read up to the end of the line. -/
theorem spacedDigits?_digits (present : digits ≠ []) (rest : List Char) :
    spacedDigits? Char.isDigit (digits ++ '\n' :: rest) = some (digits, '\n' :: rest) := by
  induction digits with
  | nil => contradiction
  | cons c digits ih =>
    have first := numeric c List.mem_cons_self
    have later := fun d inside => numeric d (List.mem_cons_of_mem c inside)
    cases digits with
    | nil => simp [spacedDigits?, first]
    | cons d digits =>
      have second := later d List.mem_cons_self
      have mark : d ≠ '_' := by rintro rfl; contradiction
      have tail := ih later (List.cons_ne_nil d digits)
      simp only [List.cons_append] at tail ⊢
      simp [spacedDigits?, first, second, tail, prepend]

end

/-- The digits of a number other than zero do not begin with a zero. -/
theorem head?_toDigits {n : Nat} (positive : 0 < n) : (Nat.toDigits 10 n).head? ≠ some '0' := by
  induction n using Nat.strongRecOn with
  | ind n ih =>
    rw [Nat.toDigits_eq_if (by decide)]
    split
    · next small =>
      have digit : ∀ k < 10, 0 < k → k.digitChar ≠ '0' := by decide
      simpa using digit n small positive
    · next large =>
      have higher := ih (n / 10) (by omega) (by omega)
      rw [List.head?_append_of_ne_nil _ Nat.toDigits_ne_nil]
      exact higher

/-- The digits of a number are read up to the end of the line. -/
theorem decimal?_toDigits (n : Nat) (rest : List Char) :
    decimal? (Nat.toDigits 10 n ++ '\n' :: rest) = some (Nat.toDigits 10 n, '\n' :: rest) := by
  rcases Nat.eq_zero_or_pos n with rfl | positive
  · rfl
  · have read := spacedDigits?_digits (Decimal.digits_toDigits n) Nat.toDigits_ne_nil rest
    have first := head?_toDigits positive
    generalize Nat.toDigits 10 n = digits at read first
    cases digits with
    | nil => exact read
    | cons c digits =>
      have other : c ≠ '0' := fun same => first (congrArg some same)
      rw [List.cons_append] at read ⊢
      simp [decimal?, other, read]

/-- A number is read up to the end of the line. -/
theorem number?_toDigits {n : Nat} {word : Int64} (held : word.toInt = n) (rest : List Char) :
    number? (Nat.toDigits 10 n ++ '\n' :: rest) = some (.integer word, '\n' :: rest) := by
  have numeric := Decimal.digits_toDigits n
  have whole := decimal?_toDigits n rest
  have value : (Decimal.integer? ([] ++ Nat.toDigits 10 n)).bind Word.int64? = some word := by
    rw [Decimal.integer?_eq_some_iff.mpr (Decimal.spellsInteger_toDigits .absent n)]
    exact Word.int64?_eq_some_iff.mpr held
  obtain ⟨c, digits, shape⟩ := List.exists_cons_of_ne_nil (Nat.toDigits_ne_nil (b := 10) (n := n))
  rw [shape] at whole numeric value ⊢
  have second : ∀ {first mark more}, c :: digits ++ '\n' :: rest = first :: mark :: more →
      mark.isDigit = true ∨ mark = '\n' := by
    rintro first mark more same
    cases digits with
    | nil =>
      cases same
      exact .inr rfl
    | cons d digits =>
      cases same
      exact .inl (numeric _ (List.mem_cons_of_mem _ List.mem_cons_self))
  have plain : number? (c :: digits ++ '\n' :: rest) =
      decimalNumber? [] (c :: digits ++ '\n' :: rest) := by
    unfold number?
    split
    iterate 3
      · next same => rcases second same with digit | line <;> contradiction
    · have digit := numeric c List.mem_cons_self
      have first : c ≠ '+' ∧ c ≠ '-' ∧ c ≠ 'i' ∧ c ≠ 'n' := by
        refine ⟨?_, ?_, ?_, ?_⟩ <;> (rintro rfl; contradiction)
      simp [sign, first]
  rw [List.nil_append] at value
  rw [plain, decimalNumber?, whole]
  simp [value]

/-! ## Values -/

/-- Whether a written value is read as an item up to the end of its line, whatever follows. -/
structure Value (written : List Char) (item : Item) : Prop where
  /-- It is read as the item. -/
  read : ∀ steps depth rest,
    value? (steps + 1) depth (written ++ '\n' :: rest) = some (item, '\n' :: rest)
  /-- It does not begin with a blank. -/
  opens : ∃ first tail, written = first :: tail ∧ isSpace first = false

/-- A text in quotes is the value of that text. -/
theorem value_quoted (text : String) : Value (quoted text.toList) (.text text) := by
  have opens : ∃ mark tail, quoted text.toList = mark :: tail ∧ (mark = '"' ∨ mark = '\'') := by
    unfold quoted
    dsimp only
    split <;> exact ⟨_, _, rfl, by decide⟩
  obtain ⟨mark, tail, shape, quote⟩ := opens
  refine ⟨fun steps depth rest => ?_, mark, tail, shape, by rcases quote with rfl | rfl <;> rfl⟩
  have read := quoted?_quoted text.toList ('\n' :: rest) fun _ => by simp
  rw [String.ofList_toList] at read
  rw [shape, List.cons_append] at read ⊢
  rcases quote with rfl | rfl <;> simp [value?, read]

/-- The digits of a number are its value. -/
theorem value_toDigits {n : Nat} {word : Int64} (held : word.toInt = n) :
    Value (Nat.toDigits 10 n) (.integer word) := by
  have numeric := Decimal.digits_toDigits n
  have number := number?_toDigits held
  have moment := fun rest => moment?_digits numeric rest
  obtain ⟨c, digits, shape⟩ := List.exists_cons_of_ne_nil (Nat.toDigits_ne_nil (b := 10) (n := n))
  rw [shape] at numeric number moment ⊢
  have digit := numeric c List.mem_cons_self
  have space : c ≠ ' ' ∧ c ≠ '\t' := by
    constructor <;> (rintro rfl; contradiction)
  refine ⟨fun steps depth rest => ?_, c, digits, rfl, by simp [isSpace, space]⟩
  have first : c ≠ '"' ∧ c ≠ '\'' ∧ c ≠ '[' ∧ c ≠ '\x7b' ∧ c ≠ 't' ∧ c ≠ 'f' := by
    refine ⟨?_, ?_, ?_, ?_, ?_, ?_⟩ <;> (rintro rfl; contradiction)
  have number := number rest
  have moment := moment rest
  rw [List.cons_append] at number moment ⊢
  simp [value?, first, moment, number]

/-- A truth value is written as its name. -/
theorem value_boolean (b : Bool) : Value (toString b).toList (.boolean b) := by
  cases b with
  | false => exact ⟨fun _ _ _ => rfl, 'f', _, rfl, rfl⟩
  | true => exact ⟨fun _ _ _ => rfl, 't', _, rfl, rfl⟩

/-! ## Lines -/

/-- Whether a key needs no quotes. -/
def PlainKey (key : String) : Prop := key.toList ≠ [] ∧ key.toList.all isKeyChar = true
deriving Decidable

/-- No mark that has a meaning of its own is a key character. -/
theorem ne_of_isKeyChar {c : Char} (plain : isKeyChar c = true) {mark : Char}
    (other : isKeyChar mark = false) : c ≠ mark := by
  rintro rfl
  rw [plain] at other
  contradiction

/-- A key character is no blank to be skipped. -/
theorem skipSpace_of_isKeyChar {c : Char} (plain : isKeyChar c = true) (rest : List Char) :
    skipSpace (c :: rest) = c :: rest := by
  have space : c ≠ ' ' ∧ c ≠ '\t' :=
    ⟨ne_of_isKeyChar plain (by decide), ne_of_isKeyChar plain (by decide)⟩
  exact List.dropWhile_cons_of_neg (by simp [isSpace, space])

/-- A plain key begins with a key character. -/
theorem PlainKey.exists_cons {key : String} (plain : PlainKey key) :
    ∃ c tail, key.toList = c :: tail ∧ isKeyChar c = true := by
  obtain ⟨c, tail, shape⟩ := List.exists_cons_of_ne_nil plain.1
  exact ⟨c, tail, shape, List.all_eq_true.mp plain.2 c (shape ▸ List.mem_cons_self)⟩

/-- A plain key is read as the name up to the blank behind it. -/
theorem name?_plain {key : String} (plain : PlainKey key) (rest : List Char) :
    name? (key.toList ++ ' ' :: rest) = some (key, ' ' :: rest) := by
  have marks := List.all_eq_true.mp plain.2
  have bare : (key.toList ++ ' ' :: rest).takeWhile isKeyChar = key.toList := by
    rw [List.takeWhile_append_of_pos marks, List.takeWhile_cons_of_neg (by decide),
      List.append_nil]
  have behind : (key.toList ++ ' ' :: rest).dropWhile isKeyChar = ' ' :: rest := by
    rw [List.dropWhile_append_of_pos marks, List.dropWhile_cons_of_neg (by decide)]
  have whole := key.ofList_toList
  obtain ⟨c, tail, shape, first⟩ := plain.exists_cons
  have quotes : c ≠ '"' ∧ c ≠ '\'' :=
    ⟨ne_of_isKeyChar first (by decide), ne_of_isKeyChar first (by decide)⟩
  rw [shape] at bare behind whole ⊢
  rw [List.cons_append] at bare behind ⊢
  simp [name?, quotes, bare, behind, whole]

/-- A plain key is read up to the mark behind it. -/
theorem key?_plain {key : String} (plain : PlainKey key) (bound : Nat) (rest : List Char) :
    key? (bound + 1) (key.toList ++ ' ' :: '=' :: rest) = some ([key], '=' :: rest) := by
  have name := name?_plain plain ('=' :: rest)
  obtain ⟨c, tail, shape, first⟩ := plain.exists_cons
  rw [shape, List.cons_append] at name ⊢
  rw [key?, skipSpace_of_isKeyChar first, name]
  rfl

/-- A line puts its value under its key. -/
theorem lines?_line {key : String} {written : List Char} {item : Item} (plain : PlainKey key)
    (value : Value written item) (bound : Nat) (draft : Draft) (rest : List Char) :
    lines? (bound + 1) draft (Config.line key written ++ rest) =
      (draft.put? [] key item).bind fun draft => lines? bound draft rest := by
  have text : Config.line key written ++ rest =
      key.toList ++ ' ' :: '=' :: ' ' :: (written ++ '\n' :: rest) := by simp [Config.line]
  have named : key? (depthLimit - 1) _ = _ :=
    key?_plain plain (depthLimit - 2) (' ' :: (written ++ '\n' :: rest))
  obtain ⟨c, tail, shape, first⟩ := plain.exists_cons
  have marks : c ≠ '[' ∧ c ≠ '#' ∧ c ≠ '\n' ∧ c ≠ '\r' := by
    refine ⟨?_, ?_, ?_, ?_⟩ <;> exact ne_of_isKeyChar first (by decide)
  have blank : skipSpace (' ' :: (written ++ '\n' :: rest)) = written ++ '\n' :: rest := by
    obtain ⟨mark, more, rfl, visible⟩ := value.opens
    have space : isSpace ' ' = true := rfl
    simp [skipSpace, space, visible]
  have done : restOfLine? ('\n' :: rest) = some rest := rfl
  rw [text]
  rw [shape, List.cons_append] at named ⊢
  rw [lines?, skipSpace_of_isKeyChar first]
  simp [marks, newline?, named, splitKey?, skip?, blank, value.read, done]

/-- A text of lines and the entries they give, each on its own line under a plain key. -/
inductive Lines : List Char → Entries → Prop
  /-- There are no lines. -/
  | nil : Lines [] []
  /-- A line stands in front of the others. -/
  | cons {key : String} {written text : List Char} {item : Item} {entries : Entries}
    (plain : PlainKey key) (value : Value written item) (later : Lines text entries) :
    Lines (Config.line key written ++ text) ((key, item) :: entries)

section Lines
variable {text : List Char} {entries : Entries}

/-- One line is a text of lines. -/
theorem Lines.one {key : String} {written : List Char} {item : Item} (plain : PlainKey key)
    (value : Value written item) : Lines (Config.line key written) [(key, item)] := by
  have lines := Lines.cons plain value .nil
  rwa [List.append_nil] at lines

/-- Lines behind lines give their entries behind theirs. -/
theorem Lines.append {behind : List Char} {later : Entries} (lines : Lines text entries)
    (others : Lines behind later) : Lines (text ++ behind) (entries ++ later) := by
  induction lines with
  | nil => exact others
  | cons plain value _ ih =>
    rw [List.append_assoc]
    exact .cons plain value ih

/-- There are at most as many entries as characters. -/
theorem Lines.length_le (lines : Lines text entries) : entries.length ≤ text.length := by
  induction lines with
  | nil => exact Nat.le_refl 0
  | cons plain value later ih =>
    simp only [Config.line, List.length_append, List.length_cons, List.length_nil]
    omega

/-- The text begins with a key character, if it is not empty. -/
theorem Lines.eq_nil_or_cons (lines : Lines text entries) :
    text = [] ∨ ∃ c tail, text = c :: tail ∧ isKeyChar c = true := by
  cases lines with
  | nil => exact .inl rfl
  | cons plain value later =>
    obtain ⟨c, tail, shape, first⟩ := plain.exists_cons
    simp only [Config.line, shape, List.cons_append]
    exact .inr ⟨c, _, rfl, first⟩

/-- A new name is put at the end of the open table. -/
theorem Draft.put?_new {draft : Draft} {name : String}
    (new : name ∉ draft.current.map Prod.fst) (item : Item) :
    draft.put? [] name item = some { draft with current := draft.current ++ [(name, item)] } := by
  have absent : draft.current.lookup name = none := by
    rw [List.lookup_eq_none_iff]
    intro entry inside
    have other : name ≠ entry.1 := fun same => new (same ▸ List.mem_map_of_mem inside)
    simpa using other
  simp [Draft.put?, Toml.put?, add?, absent]

/-- Lines whose names are all different are read into the open table, behind what is there. -/
theorem Lines.read_eq (lines : Lines text entries) {bound : Nat} (enough : entries.length ≤ bound)
    (draft : Draft) (apart : ((draft.current ++ entries).map Prod.fst).Nodup) :
    lines? (bound + 1) draft text = some { draft with current := draft.current ++ entries } := by
  induction lines generalizing bound draft with
  | nil => simp [lines?, skipSpace]
  | @cons key written text item entries plain value later ih =>
    cases bound with
    | zero => exact absurd enough (Nat.not_succ_le_zero _)
    | succ bound =>
      have new : key ∉ draft.current.map Prod.fst := by
        rw [List.map_append, List.map_cons, List.nodup_append] at apart
        exact fun inside => apart.2.2 key inside key List.mem_cons_self rfl
      rw [List.append_cons] at apart
      have later := ih (Nat.le_of_succ_le_succ enough)
        { draft with current := draft.current ++ [(key, item)] } apart
      rw [lines?_line plain value, Draft.put?_new new, Option.bind_some, later]
      exact congrArg (fun current => some { draft with current }) (List.append_cons ..).symm

/-- A text of lines whose names are all different is a document of their entries. -/
theorem Lines.document?_eq (lines : Lines text entries)
    (apart : (entries.map Prod.fst).Nodup) : document? (String.ofList text) = some entries := by
  have read := lines.read_eq lines.length_le .empty apart
  rw [document?, String.toList_ofList]
  -- No key character is a byte order mark, so none is skipped.
  rcases lines.eq_nil_or_cons with rfl | ⟨c, tail, rfl, first⟩
  · exact congrArg (Option.bind · Draft.close?) read
  · have mark : c ≠ '\uFEFF' := ne_of_isKeyChar first (by decide)
    split
    · next same => exact absurd (List.cons.inj same).1 mark
    · exact congrArg (Option.bind · Draft.close?) read

end Lines

end Toml

namespace Config

/-- The entries of a configuration as a document has them. -/
def entries (c : Config) : Toml.Entries :=
  [("create_command", .text c.createCommand), ("aggregate_command", .text c.aggregateCommand),
    ("cursor_command", .text c.cursorCommand)] ++
  (match c.defaultDialect with
    | some dialect => [("default_dialect", .integer (Int64.ofNat dialect.toNat))]
    | none => []) ++
  [("log_commands", .boolean c.logCommands)]

/-- A dialect is held by the word of its entry. -/
theorem toInt_dialect (dialect : UInt32) :
    (Int64.ofNat dialect.toNat).toInt = dialect.toNat := by
  have upper := dialect.toNat_lt
  exact Int64.toInt_ofNat_of_lt (by omega)

/-- A configuration is written as lines that give its entries. -/
theorem lines_text (c : Config) : Toml.Lines c.text.toList c.entries := by
  rw [text, String.toList_ofList, entries]
  have create := Toml.Lines.one (by decide : Toml.PlainKey "create_command")
    (Toml.value_quoted c.createCommand)
  have aggregate := Toml.Lines.one (by decide : Toml.PlainKey "aggregate_command")
    (Toml.value_quoted c.aggregateCommand)
  have cursor := Toml.Lines.one (by decide : Toml.PlainKey "cursor_command")
    (Toml.value_quoted c.cursorCommand)
  have log := Toml.Lines.one (by decide : Toml.PlainKey "log_commands")
    (Toml.value_boolean c.logCommands)
  refine (((create.append aggregate).append cursor).append ?_).append log
  cases c.defaultDialect with
  | none => exact .nil
  | some dialect => exact .one (by decide) (Toml.value_toDigits (toInt_dialect dialect))

/-- The names of the entries are all different. -/
theorem nodup_entries (c : Config) : (c.entries.map Prod.fst).Nodup := by
  cases dialect : c.defaultDialect <;> simp [entries, dialect]

/-- A configuration is what its entries say. -/
theorem ofEntries?_entries (c : Config) : ofEntries? c.entries = some c := by
  obtain ⟨create, aggregate, cursor, dialect, log⟩ := c
  cases dialect with
  | none => rfl
  | some dialect =>
    have held := Word.uint32?_eq_some_iff.mpr (toInt_dialect dialect).symm
    have read : ofEntries? (entries ⟨create, aggregate, cursor, some dialect, log⟩) =
      ((Word.uint32? (Int64.ofNat dialect.toNat).toInt).map some).bind fun dialect =>
        some ⟨create, aggregate, cursor, dialect, log⟩ := rfl
    rw [read, held]
    rfl

/-- The text of a configuration is read as that configuration, which is then checked. -/
theorem ofText_text (c : Config) : ofText c.text = c.validate.map fun _ => c := by
  have document := c.lines_text.document?_eq c.nodup_entries
  rw [String.ofList_toList] at document
  rw [ofText, document, Option.bind_some, ofEntries?_entries]

/-- Whatever is loaded from a file has been checked. -/
theorem validate_of_ofFile {content : Option (List UInt8)} {c : Config}
    (loaded : ofFile content = .ok c) : c.validate = .ok () := by
  unfold ofFile ofText at loaded
  split at loaded
  · contradiction
  · split at loaded
    · contradiction
    · obtain ⟨_, checked, rfl⟩ := map_eq_ok_iff.mp loaded
      exact checked

/-- A configuration is written wherever the file can be made. It is the configuration read back if it
can be used; otherwise its fault is what reading gives. Whatever is loaded from any file can be
used. -/
theorem written_read_back (c : Config) :
    (∃ content, c.toFile true = .ok content) ∧
    (∀ (writable : Bool) (content : List UInt8), c.toFile writable = .ok content →
      (c.validate = .ok () → ofFile (some content) = .ok c) ∧
      ∀ fault, c.validate = .error fault → ofFile (some content) = .error fault) ∧
    ∀ file loaded, ofFile file = .ok loaded → loaded.validate = .ok () := by
  refine ⟨⟨_, rfl⟩, fun writable content written => ?_, fun _ _ => validate_of_ofFile⟩
  have octets : Octets.ofText c.text = content := by
    rw [toFile] at written
    split_ifs at written
    exact Except.ok.inj written
  have read : ofFile (some content) = c.validate.map fun _ => c := by
    rw [ofFile, Option.bind_some, ← octets, Octets.text?_ofText]
    exact ofText_text c
  constructor
  · intro usable
    rw [read, usable]
    rfl
  · intro fault refused
    rw [read, refused]
    rfl

/-- Names with quotes, backslashes, ends of lines, controls and letters outside ASCII are read back,
and a blank name is reported in front of a dialect of zero. -/
theorem marked_names_read_back :
    (∃ content, toFile ⟨"FT \"C\" \\", "'''\n\"\"\"\r", "\u0001é\u007f", some 3, true⟩ true =
        .ok content ∧
      ofFile (some content) =
        .ok ⟨"FT \"C\" \\", "'''\n\"\"\"\r", "\u0001é\u007f", some 3, true⟩) ∧
    (∃ content, toFile ⟨"FT.CREATE", "\u2003\n", "FT.CURSOR", some 0, false⟩ true =
        .ok content ∧
      ofFile (some content) =
        .error (ConfigFault.emptyCommand "aggregate_command").error) :=
  ⟨⟨_, rfl, ((written_read_back _).2.1 true _ rfl).1 rfl⟩,
    ⟨_, rfl, ((written_read_back _).2.1 true _ rfl).2 _ rfl⟩⟩

end Config

end SearchWire
