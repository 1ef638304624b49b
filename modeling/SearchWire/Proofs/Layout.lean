import SearchWire.Proofs.AggregationUniqueness
import SearchWire.Proofs.IndexReading

/-!
# Layouts

A layout says what stands at each place of a command with the numbers as they were given: an integer
of any size, where a token has only the words. A token holds a number if it is an integer token with
exactly that value, so a token in which a number was clamped holds it no longer. In a layout a count
is the number of the places it counts.

What is written for an accepted description holds, place by place, the layout of the description.
-/
namespace SearchWire

/-- What is to stand at one place of a command. -/
inductive Slot where
  /-- A token as it is. -/
  | token (t : Token)
  /-- A number, whatever its size. -/
  | number (n : Int)

namespace Slot

/-- A text at its place. -/
def text (s : String) : Slot := token (.text s)

/-- A natural number at its place. -/
def natural (n : Nat) : Slot := number n

/-- A token at its place, where an integer token stands for its number. -/
def ofToken : Token → Slot
  | .integer w => number w.toInt
  | t => token t

/-- Whether a token is what is to stand at a place. -/
def Holds : Slot → Token → Prop
  | token t, written => written = t
  | number n, written => ∃ w, written = .integer w ∧ w.toInt = n

/-- Whether tokens are what is to stand at places, one by one. -/
def Hold : List Slot → List Token → Prop := List.Forall₂ Holds

/-- A keyword that stands there only if its option is on. -/
def flag (keyword : String) (on : Bool) : List Slot := if on then [text keyword] else []

/-- A keyword and a value that stand there only if there is a value. -/
def keyed (keyword : String) (value : Option Slot) : List Slot :=
  match value with
  | some value => [text keyword, value]
  | none => []

/-- The number of places, then the places. -/
def counted (items : List Slot) : List Slot := natural items.length :: items

/-- A keyword and counted places that stand there only if there are such places. -/
def listed (keyword : String) (items : Option (List Slot)) : List Slot :=
  match items with
  | some items => text keyword :: counted items
  | none => []

variable {slots slots' : List Slot} {tokens tokens' : List Token}

/-- A text holds its place. -/
theorem holds_text (s : String) : (text s).Holds (.text s) := rfl

/-- A number that an integer token can have holds its place. -/
theorem holds_natural {n : Nat} (small : n ≤ Word.greatest) : (natural n).Holds (.ofNat n) :=
  ⟨Word.saturate n, rfl, Word.toInt_saturate small⟩

/-- Every token holds its own place. -/
theorem holds_ofToken (t : Token) : (ofToken t).Holds t := by
  cases t with
  | text | double => rfl
  | integer w => exact ⟨w, rfl, rfl⟩

/-- Places are held as many as there are tokens. -/
theorem Hold.length_eq (held : Hold slots tokens) : slots.length = tokens.length :=
  List.Forall₂.length_eq held

/-- No place is held by no token. -/
theorem hold_nil : Hold [] [] := .nil

/-- The first place is held by the first token. -/
theorem Hold.cons {s : Slot} {t : Token} (first : s.Holds t) (held : Hold slots tokens) :
    Hold (s :: slots) (t :: tokens) :=
  List.Forall₂.cons first held

/-- Places in a row are held by tokens in a row. -/
theorem Hold.append (held : Hold slots tokens) (held' : Hold slots' tokens') :
    Hold (slots ++ slots') (tokens ++ tokens') := by
  induction held with
  | nil => exact held'
  | cons first _ ih => exact .cons first ih

/-- Places of the members of a list are held if those of each member are. -/
theorem hold_flatMap {α : Type} {layout : α → List Slot} {write : α → List Token}
    {items : List α} (each : ∀ a ∈ items, Hold (layout a) (write a)) :
    Hold (items.flatMap layout) (items.flatMap write) := by
  induction items with
  | nil => exact hold_nil
  | cons a items ih =>
    rw [List.forall_mem_cons] at each
    exact each.1.append (ih each.2)

/-- One place for each member of a list is held if each member holds its place. -/
theorem hold_map {α : Type} {layout : α → Slot} {write : α → Token} {items : List α}
    (each : ∀ a ∈ items, (layout a).Holds (write a)) :
    Hold (items.map layout) (items.map write) := by
  induction items with
  | nil => exact hold_nil
  | cons a items ih =>
    rw [List.forall_mem_cons] at each
    exact .cons each.1 (ih each.2)

/-- Texts hold their places. -/
theorem hold_texts (texts : List String) : Hold (texts.map text) (texts.map .text) :=
  hold_map fun s _ => holds_text s

/-- Tokens hold their own places. -/
theorem hold_ofTokens (tokens : List Token) : Hold (tokens.map ofToken) tokens := by
  have held : Hold (tokens.map ofToken) (tokens.map id) := hold_map fun t _ => holds_ofToken t
  rwa [List.map_id] at held

/-- A flag holds the place of a keyword. -/
theorem hold_flag (keyword : String) (on : Bool) :
    Hold (flag keyword on) (Token.flag keyword on) := by
  cases on with
  | false => exact hold_nil
  | true => exact .cons (holds_text keyword) hold_nil

/-- A keyword and a value hold their places if the value holds its place. -/
theorem hold_keyed {α : Type} (keyword : String) (layout : α → Slot) (write : α → Token)
    {value : Option α} (each : ∀ a ∈ value, (layout a).Holds (write a)) :
    Hold (keyed keyword (value.map layout)) (Token.keyed keyword (value.map write)) := by
  cases value with
  | none => exact hold_nil
  | some a => exact .cons (holds_text keyword) (.cons (each a rfl) hold_nil)

/-- A keyword and a text hold their places. -/
theorem hold_keyedText (keyword : String) (value : Option String) :
    Hold (keyed keyword (value.map text)) (Token.keyed keyword (value.map .text)) :=
  hold_keyed keyword text .text fun s _ => holds_text s

/-- Counted tokens hold their places if their number is one that an integer token can have. -/
theorem hold_counted (small : tokens.length ≤ Word.greatest) (held : Hold slots tokens) :
    Hold (counted slots) (Token.counted tokens) := by
  have number := holds_natural small
  rw [counted, held.length_eq]
  exact .cons number held

/-- The same behind a keyword. -/
theorem hold_listed {α : Type} (keyword : String) (layout : α → List Slot)
    (write : α → List Token) {items : Option α}
    (small : ∀ a ∈ items, (write a).length ≤ Word.greatest)
    (each : ∀ a ∈ items, Hold (layout a) (write a)) :
    Hold (listed keyword (items.map layout))
      (Section.counted keyword (items.map write)).tokens := by
  cases items with
  | none => exact hold_nil
  | some a => exact .cons (holds_text keyword) (hold_counted (small a rfl) (each a rfl))

/-- Places of optional sections are held if those of each section are. -/
theorem hold_sections {layouts : List (List Slot)} {sections : List Section}
    (each : List.Forall₂ (fun slots s => Hold slots s.tokens) layouts sections) :
    Hold layouts.flatten (sections.flatMap Section.tokens) := by
  induction each with
  | nil => exact hold_nil
  | cons first _ ih => exact first.append ih

end Slot

open Slot

namespace IndexSpec

/-- What is to stand for the options of an index. -/
def optionLayouts (spec : IndexSpec) : List (List Slot) :=
  let options := spec.options
  let keyStarts := if options.keyStarts.isEmpty then none else some options.keyStarts
  [listed "PREFIX" (keyStarts.map fun starts => starts.map text),
    keyed "FILTER" (options.filter.map text),
    keyed "LANGUAGE" (options.language.map text),
    keyed "LANGUAGE_FIELD" (options.languageField.map text),
    keyed "SCORE" ((options.score.filter fun s => !s.numericEq .one).map fun s =>
      token (.double s)),
    keyed "SCORE_FIELD" (options.scoreField.map text),
    keyed "PAYLOAD_FIELD" (options.payloadField.map text),
    flag "MAXTEXTFIELDS" options.maxTextFields,
    keyed "TEMPORARY" (options.temporary.map fun seconds => natural seconds.toNat),
    flag "NOOFFSETS" options.noOffsets,
    flag "NOHL" options.noHighlights,
    flag "NOFIELDS" options.noFields,
    flag "NOFREQS" options.noFrequencies,
    listed "STOPWORDS" ((writtenStopwords options).map fun words => words.map text),
    flag "SKIPINITIALSCAN" options.skipInitialScan]

/-- What is to stand in the body of an index. -/
def layout (spec : IndexSpec) : List Slot :=
  text "ON" :: text spec.document.keyword :: (spec.optionLayouts.flatten ++
    text "SCHEMA" :: spec.fields.flatMap fun f => f.tokens.map ofToken)

/-- The body of an index holds its layout if no number is clamped. -/
theorem hold_layout {spec : IndexSpec} (exact : spec.Exact) :
    Hold spec.layout spec.bodyTokens := by
  have keyStarts : Hold (listed "PREFIX"
      ((if spec.options.keyStarts.isEmpty then none else some spec.options.keyStarts).map
        fun starts => starts.map text)) _ :=
    hold_listed "PREFIX" _ (fun starts => starts.map Token.text)
      (fun starts present => exact.keyStarts_le (keyStarts_eq _ ▸ Option.mem_map_of_mem _ present))
      (fun starts _ => hold_texts starts)
  have stopwords : Hold (listed "STOPWORDS"
      ((writtenStopwords spec.options).map fun words => words.map text)) _ :=
    hold_listed "STOPWORDS" _ (fun words => words.map Token.text)
      (fun words present => exact.stopwords_le (Option.mem_map_of_mem _ present))
      (fun words _ => hold_texts words)
  have score : Hold (keyed "SCORE" ((spec.options.score.filter fun s => !s.numericEq .one).map
      fun s => token (.double s))) _ := hold_keyed "SCORE" _ Token.double fun _ _ => rfl
  have temporary := hold_keyed "TEMPORARY" _ (fun seconds : UInt64 => .ofNat seconds.toNat)
    fun seconds present => holds_natural (exact.temporary seconds present)
  have options : Hold spec.optionLayouts.flatten (spec.sections.flatMap Section.tokens) := by
    apply hold_sections
    simp only [optionLayouts, sections, keyStarts_eq, List.forall₂_cons,
      List.forall₂_nil_left_iff, Section.tokens_flag, Section.tokens_keyed, hold_flag,
      hold_keyedText, keyStarts, stopwords, score, temporary, and_self]
  have fields : Hold (spec.fields.flatMap fun f => f.tokens.map ofToken)
      (spec.fields.flatMap Field.tokens) := hold_flatMap fun f _ => hold_ofTokens f.tokens
  rw [bodyTokens_eq, layout]
  exact .cons (holds_text _) (.cons (holds_text _) (options.append (.cons (holds_text _) fields)))

end IndexSpec

namespace Reducer

/-- What is to stand in a reducer. -/
def layout (r : Reducer) : List Slot :=
  text "REDUCE" :: text r.function ::
    (counted (r.args.map ofToken) ++ keyed "AS" (r.label.map text))

/-- A reducer holds its layout if memory can hold its arguments. -/
theorem hold_layout {r : Reducer} (small : r.args.length ≤ Word.greatest) :
    Hold r.layout r.tokens :=
  .cons (holds_text _) (.cons (holds_text _)
    ((hold_counted small (hold_ofTokens r.args)).append (hold_keyedText "AS" r.label)))

/-- In a random sample stands the size that was given, if an integer token can have it. -/
theorem layout_randomSample {size : UInt64} (small : size.toNat ≤ Word.greatest) (name : String)
    (label : Option String) :
    ({ randomSample name size with label := label } : Reducer).layout =
      text "REDUCE" :: text "RANDOM_SAMPLE" :: natural 2 :: text (property name) ::
        natural size.toNat :: keyed "AS" (label.map text) := by
  have fits : Word.fits size.toNat = true := decide_eq_true small
  have number : ofToken (.ofNat size.toNat) = natural size.toNat :=
    congrArg Slot.number (Word.toInt_saturate small)
  simp only [layout, randomSample, call, fits, if_true, List.map_cons, List.map_nil, number]
  rfl

end Reducer

namespace Stage

/-- What is to stand in a stage. -/
def layout : Stage → List Slot
  | groupBy group =>
    text "GROUPBY" ::
      (counted (group.properties.map text) ++ group.reducers.flatMap Reducer.layout)
  | sortBy sort =>
    text "SORTBY" ::
      (counted (sort.keys.flatMap fun (name, direction) => [text name, text direction.keyword]) ++
        keyed "MAX" (sort.max.map fun most => natural most.toNat))
  | apply expression label => [text "APPLY", text expression, text "AS", text label]
  | filter expression => [text "FILTER", text expression]
  | limit offset count => [text "LIMIT", natural offset.toNat, natural count.toNat]

/-- A stage holds its layout if no number is clamped. -/
theorem hold_layout {s : Stage} (exact : s.Exact) : Hold s.layout s.tokens := by
  cases s with
  | groupBy group =>
    have properties := hold_counted (by rw [List.length_map]; exact exact.1)
      (hold_texts group.properties)
    have reducers := hold_flatMap fun r inside => Reducer.hold_layout (exact.2 r inside)
    exact .cons (holds_text _) (properties.append reducers)
  | sortBy sort =>
    have keys : Hold (sort.keys.flatMap fun (name, direction) =>
        [text name, text direction.keyword]) _ := hold_flatMap fun _ _ =>
      .cons (holds_text _) (.cons (holds_text _) hold_nil)
    have counted := hold_counted (by rw [SortBy.length_keyTokens]; exact exact.1) keys
    have max := hold_keyed "MAX" _ (fun most : UInt64 => .ofNat most.toNat)
      fun most present => holds_natural (exact.2 most present)
    rw [Token.counted, SortBy.length_keyTokens] at counted
    exact .cons (holds_text _) (counted.append max)
  | apply expression label => exact hold_texts ["APPLY", expression, "AS", label]
  | filter expression => exact hold_texts ["FILTER", expression]
  | limit offset count =>
    exact .cons (holds_text _)
      (.cons (holds_natural exact.1) (.cons (holds_natural exact.2) hold_nil))

end Stage

namespace Aggregation

/-- What is to stand behind `LOAD`. -/
def loadLayout : Load → List Slot
  | .all => [text "*"]
  | .fields properties => counted (properties.map text)

/-- What is to stand for the options in front of a pipeline. -/
def headLayouts (a : Aggregation) : List (List Slot) :=
  [flag "VERBATIM" a.verbatim,
    a.load.elim [] fun load => text "LOAD" :: loadLayout load,
    keyed "TIMEOUT" (a.timeout.map fun n => natural n.toNat)]

/-- What is to stand for the options behind a pipeline. -/
def tailLayouts (a : Aggregation) : List (List Slot) :=
  let params := if a.params.isEmpty then none else some (paramTokens a.params)
  [flag "WITHCURSOR" a.cursor.isSome,
    keyed "COUNT" ((a.cursor.bind CursorOptions.count).map fun n => natural n.toNat),
    keyed "MAXIDLE" ((a.cursor.bind CursorOptions.maxIdle).map fun n => natural n.toNat),
    listed "PARAMS" (params.map fun tokens => tokens.map ofToken),
    keyed "DIALECT" (a.dialect.map fun number => natural number.toNat)]

/-- What is to stand in the body of an aggregation. -/
def layout (a : Aggregation) : List Slot :=
  text a.query :: (a.headLayouts.flatten ++
    (a.stages.flatMap Stage.layout ++ a.tailLayouts.flatten))

/-- What is loaded holds its places if the number of its names is not clamped. -/
theorem hold_load {a : Aggregation} (exact : a.Exact) :
    Hold (a.load.elim [] fun load => text "LOAD" :: loadLayout load)
      (Section.tokens ⟨"LOAD", a.load.map Load.body⟩) := by
  cases given : a.load with
  | none => exact hold_nil
  | some load =>
    cases load with
    | all => exact hold_texts ["LOAD", "*"]
    | fields properties =>
      have small := (exact.storable.load properties given).length_le
      exact .cons (holds_text _) (hold_counted (by rwa [List.length_map]) (hold_texts _))

/-- The body of an aggregation holds its layout if no number is clamped. -/
theorem hold_layout {a : Aggregation} (exact : a.Exact) : Hold a.layout a.bodyTokens := by
  have number {value : Option UInt64} (keyword : String)
      (small : ∀ n ∈ value, n.toNat ≤ Word.greatest) :=
    hold_keyed keyword _ (fun n : UInt64 => .ofNat n.toNat) fun n present =>
      holds_natural (small n present)
  have head : Hold a.headLayouts.flatten (a.headSections.flatMap Section.tokens) := by
    apply hold_sections
    simp only [headLayouts, headSections, List.forall₂_cons, List.forall₂_nil_left_iff,
      Section.tokens_flag, Section.tokens_keyed, hold_flag, hold_load exact,
      number "TIMEOUT" exact.timeout, and_self]
  have params : Hold (listed "PARAMS" ((if a.params.isEmpty then none
      else some (paramTokens a.params)).map fun tokens => tokens.map ofToken)) _ :=
    hold_listed "PARAMS" _ (fun tokens => tokens)
      (fun tokens present => exact.storable.paramTokens_le present)
      (fun tokens _ => hold_ofTokens tokens)
  have dialect := hold_keyed "DIALECT" _ (fun number : UInt32 => .ofNat number.toNat)
    fun number (_ : number ∈ a.dialect) =>
      holds_natural (by have := number.toNat_lt; unfold Word.greatest; omega)
  have tail : Hold a.tailLayouts.flatten (a.tailSections.flatMap Section.tokens) := by
    apply hold_sections
    rw [Option.map_id'] at params
    simp only [tailLayouts, tailSections, List.forall₂_cons, List.forall₂_nil_left_iff,
      Section.tokens_flag, Section.tokens_keyed, hold_flag, number "COUNT" exact.count,
      number "MAXIDLE" exact.maxIdle, params, dialect, and_self]
  have stages := hold_flatMap fun s inside => Stage.hold_layout (exact.stages s inside)
  rw [bodyTokens_eq, layout]
  exact .cons (holds_text _) (head.append (stages.append tail))

end Aggregation

end SearchWire
