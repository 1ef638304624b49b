import SearchWire.Toml.Lexical
import SearchWire.Toml.Quoting
import Mathlib.Data.List.Basic

/-!
# Quoted text that is read back

Each of the four readers of quoted text takes the text as it was written, whatever follows the
closing quotes. A text is written piece by piece: each character other than a quote as a piece that
the reader takes for it, and quotes as they are while there are not too many in a row. On one line
no quote stands for itself and the first one closes the text; on several lines two may stand in a
row, also in front of the three that close the text. The form that is chosen for a text always
writes it so.
-/
namespace SearchWire.Toml

/-! ## Pieces -/

section Written
variable (read : List Char → Option (List Char × List Char)) (quote : Char)

/-- Whether a reader takes a piece of the written text for a character. A piece does not begin like
a closing quote, nor like the end of a line unless it is one. -/
structure Piece (c : Char) (piece : List Char) : Prop where
  /-- The reader takes it, whatever follows. -/
  read_append : ∀ rest, read (piece ++ rest) = prepend c (read rest)
  /-- How it begins. -/
  opens : ∃ first tail, piece = first :: tail ∧ first ≠ quote ∧ first ≠ '\r' ∧
    (first = '\n' → c = '\n')

/-- Whether a text is written so that a reader takes it, behind a run of quotes that stand for
themselves, of which there are at most so many in a row. -/
inductive Written (most : Nat) : Nat → List Char → List Char → Prop
  /-- Nothing is written. -/
  | nil (run : Nat) : Written most run [] []
  /-- A quote stands for itself and lengthens the run. -/
  | quote {run : Nat} {text written : List Char} (more : run < most)
    (later : Written most (run + 1) text written) :
    Written most run (quote :: text) (quote :: written)
  /-- A piece stands for a character and ends the run. -/
  | piece {run : Nat} {c : Char} {text piece written : List Char}
    (here : Piece read quote c piece) (later : Written most 0 text written) :
    Written most run (c :: text) (piece ++ written)

end Written

section Reading
variable {read : List Char → Option (List Char × List Char)} {quote : Char} {most run : Nat}
  {text written rest : List Char}

/-- Without quotes that stand for themselves, a text is read up to the quote that closes it. -/
theorem Written.read_eq (shape : Written read quote 0 run text written)
    (closed : ∀ rest, read (quote :: rest) = some ([], rest)) (rest : List Char) :
    read (written ++ quote :: rest) = some (text, rest) := by
  induction shape with
  | nil => exact closed rest
  | quote more => exact absurd more (Nat.not_lt_zero _)
  | piece here _ ih => rw [List.append_assoc, here.read_append, ih, prepend]

/-- Whether a reader takes up to two quotes in a row for themselves and is stopped by three. -/
structure TakesRuns (read : List Char → Option (List Char × List Char)) (quote : Char) : Prop where
  /-- Of the last quotes in a row three close the text. -/
  closed : ∀ run ≤ 2, ∀ rest, (∀ tail, rest ≠ quote :: tail) →
    read (List.replicate run quote ++ quote :: quote :: quote :: rest) =
      some (List.replicate run quote, rest)
  /-- In front of something else they stand for themselves. -/
  kept : ∀ run ≤ 2, ∀ first tail text rest, first ≠ quote → read (first :: tail) = some (text, rest) →
    read (List.replicate run quote ++ first :: tail) = some (List.replicate run quote ++ text, rest)

/-- Behind a run of quotes, a text with up to two in a row is read up to the three that close it. -/
theorem Written.read_run_eq (shape : Written read quote 2 run text written) (few : run ≤ 2)
    (takes : TakesRuns read quote) (apart : ∀ tail, rest ≠ quote :: tail) :
    read (List.replicate run quote ++ (written ++ quote :: quote :: quote :: rest)) =
      some (List.replicate run quote ++ text, rest) := by
  induction shape with
  | nil run =>
    rw [List.nil_append, List.append_nil]
    exact takes.closed run few rest apart
  | @quote run text written more _ ih =>
    have longer := ih more
    rw [List.replicate_succ', List.append_assoc, List.append_assoc] at longer
    exact longer
  | @piece run c text piece written here _ ih =>
    obtain ⟨first, tail, rfl, other, -⟩ := here.opens
    have behind := ih (Nat.zero_le 2)
    rw [List.replicate_zero, List.nil_append, List.nil_append] at behind
    have later := here.read_append (written ++ quote :: quote :: quote :: rest)
    rw [behind, prepend, List.cons_append] at later
    rw [List.append_assoc]
    exact takes.kept run few first _ _ rest other later

/-- With up to two quotes in a row, a text is read up to the three quotes that close it. -/
theorem Written.read_lines_eq (shape : Written read quote 2 0 text written)
    (takes : TakesRuns read quote) (apart : ∀ tail, rest ≠ quote :: tail) :
    read (written ++ quote :: quote :: quote :: rest) = some (text, rest) :=
  shape.read_run_eq (Nat.zero_le 2) takes apart

/-- Without quotes that stand for themselves, a text and the quote that closes it do not begin with
two quotes. -/
theorem Written.single (shape : Written read quote 0 run text written)
    (apart : ∀ tail, rest ≠ quote :: tail) (tail : List Char) :
    written ++ quote :: rest ≠ quote :: quote :: tail := by
  intro same
  cases shape with
  | nil => exact apart tail (List.cons.inj same).2
  | quote more => exact absurd more (Nat.not_lt_zero _)
  | piece here _ =>
    obtain ⟨first, more, rfl, other, -⟩ := here.opens
    exact other (List.cons.inj same).1

/-- A text without ends of lines does not begin with one, nor does the quote behind it. -/
theorem Written.newline?_eq_none (shape : Written read quote most run text written)
    (inline : '\n' ∉ text) (mark : quote ≠ '\n' ∧ quote ≠ '\r') (rest : List Char) :
    newline? (written ++ quote :: rest) = none := by
  have other : ∀ {first tail}, first ≠ '\n' → first ≠ '\r' → newline? (first :: tail) = none := by
    intro first tail line ret
    simp [newline?, line, ret]
  cases shape with
  | nil => exact other mark.1 mark.2
  | quote => exact other mark.1 mark.2
  | piece here _ =>
    obtain ⟨first, tail, rfl, -, ret, line⟩ := here.opens
    refine other (fun same => inline ?_) ret
    rw [line same]
    exact List.mem_cons_self

end Reading

/-! ## Escapes -/

/-- A control character is written by its number, which is read back. -/
theorem numbered_control : ∀ n < 0x80, isControl (Char.ofNat n) = true →
    (numbered (Char.ofNat n)).take 2 = ['\\', 'u'] ∧
      ((numbered (Char.ofNat n)).drop 2).length = 4 ∧
      character? ((numbered (Char.ofNat n)).drop 2) = some (Char.ofNat n) := by
  decide +kernel

/-- The number of a control character. -/
theorem toNat_lt_of_isControl {c : Char} (control : isControl c = true) : c.toNat < 0x80 := by
  simp only [isControl, Bool.and_eq_true, Bool.or_eq_true, decide_eq_true_eq, beq_iff_eq] at control
  omega

/-- A character that needs no escape may stand in a comment. -/
theorem isCommentChar_of_isControl {c : Char} (plain : isControl c = false) (inline : c ≠ '\n') :
    isCommentChar c = true := by
  simp only [isControl, Bool.and_eq_false_iff, bne_eq_false_iff_eq, Bool.or_eq_false_iff,
    decide_eq_false_iff_not, beq_eq_false_iff_ne] at plain
  simp only [isCommentChar, isBeyondAscii, Bool.or_eq_true, Bool.and_eq_true, beq_iff_eq,
    decide_eq_true_eq]
  rcases plain with (tab | line) | visible
  · exact .inl (.inl tab)
  · exact absurd line inline
  · omega

/-- How a character is written between basic quotes. -/
inductive Escaped (lines : Bool) (c : Char) : List Char → Prop
  /-- It stands for itself. -/
  | itself (plain : isBasicChar c = true) : Escaped lines c [c]
  /-- An end of a line stands for itself where there are lines. -/
  | line (many : lines = true) (last : c = '\n') : Escaped lines c [c]
  /-- A letter behind a backslash stands for it. -/
  | letter {l : Char} (known : escaped? l = some c) : Escaped lines c ['\\', l]
  /-- Its number stands for it. -/
  | number {digits : List Char} (four : digits.length = 4) (known : character? digits = some c) :
    Escaped lines c ('\\' :: 'u' :: digits)

/-- Every character but a quote is written in one of these ways. -/
theorem escaped_escape (lines : Bool) {c : Char} (other : c ≠ '"') :
    Escaped lines c (escape lines c) := by
  unfold escape
  split_ifs with backspace tab line many feed ret slash control
  · exact .letter (backspace ▸ rfl)
  · exact .letter (tab ▸ rfl)
  · exact .line many line
  · exact .letter (line ▸ rfl)
  · exact .letter (feed ▸ rfl)
  · exact .letter (ret ▸ rfl)
  · subst slash
    exact .letter rfl
  · have known := numbered_control c.toNat (toNat_lt_of_isControl control)
    rw [Char.ofNat_toNat] at known
    obtain ⟨mark, four, number⟩ := known control
    rw [← List.take_append_drop 2 (numbered c), mark]
    exact .number four number
  · have comment := isCommentChar_of_isControl (Bool.eq_false_iff.mpr control) line
    exact .itself (by simp [isBasicChar, comment, other, slash])

/-- An escape begins like no closing quote, and like the end of a line only if it is one. -/
theorem Escaped.opens {lines : Bool} {c : Char} {piece : List Char}
    (escaped : Escaped lines c piece) : ∃ first tail, piece = first :: tail ∧ first ≠ '"' ∧
      first ≠ '\r' ∧ (first = '\n' → c = '\n') := by
  cases escaped with
  | itself plain =>
    refine ⟨c, [], rfl, ?_, ?_, id⟩ <;> (rintro rfl; contradiction)
  | line _ last =>
    refine ⟨c, [], rfl, ?_, ?_, id⟩ <;> (rw [last]; decide)
  | letter | number => exact ⟨'\\', _, rfl, by decide, by decide, nofun⟩

/-- On one line, an escape is a piece. -/
theorem Escaped.piece {c : Char} {piece : List Char} (escaped : Escaped false c piece) :
    Piece basic? '"' c piece := by
  refine ⟨fun rest => ?_, escaped.opens⟩
  cases escaped with
  | itself plain =>
    have mark : c ≠ '"' := by rintro rfl; contradiction
    have slash : c ≠ '\\' := by rintro rfl; contradiction
    simp [basic?, slash, plain]
  | line many => contradiction
  | @letter l known =>
    have mark : l ≠ 'u' ∧ l ≠ 'U' := by constructor <;> (rintro rfl; contradiction)
    simp [basic?, mark, known]
  | @number digits four known =>
    match digits, four with
    | [a, b, d, e], _ => simp [basic?, known]

/-- On several lines, an escape is a piece. -/
theorem Escaped.piece_lines {c : Char} {piece : List Char} (escaped : Escaped true c piece) :
    Piece (basicLines? false) '"' c piece := by
  refine ⟨fun rest => ?_, escaped.opens⟩
  cases escaped with
  | itself plain =>
    have mark : c ≠ '"' := by rintro rfl; contradiction
    have slash : c ≠ '\\' := by rintro rfl; contradiction
    have line : c ≠ '\n' := by rintro rfl; contradiction
    have ret : c ≠ '\r' := by rintro rfl; contradiction
    simp [basicLines?, mark, slash, ret, plain]
  | line _ last => simp [basicLines?, last]
  | @letter l known =>
    have mark : l ≠ 'u' ∧ l ≠ 'U' := by constructor <;> (rintro rfl; contradiction)
    simp [basicLines?, mark, known]
  | @number digits four known =>
    match digits, four with
    | [a, b, d, e], _ => simp [basicLines?, known]

/-- A text with its escapes is written piece by piece. -/
theorem written_escapeBasic {read : List Char → Option (List Char × List Char)} {lines : Bool}
    (pieces : ∀ {c piece}, Escaped lines c piece → Piece read '"' c piece) (most run : Nat)
    (text : List Char) : Written read '"' most run text (escapeBasic most lines run text) := by
  induction text generalizing run with
  | nil => exact .nil run
  | cons c text ih =>
    rw [escapeBasic]
    split_ifs with mark more
    · subst mark
      exact .quote more (ih (run + 1))
    · subst mark
      exact .piece (pieces (.letter rfl)) (ih 0)
    · exact .piece (pieces (escaped_escape lines mark)) (ih 0)

/-! ## Literal text -/

/-- Whether a text has at most so many of one character in a row, behind a run of it. -/
def RunsWithin (c : Char) (most : Nat) : Nat → List Char → Prop
  | _, [] => True
  | run, d :: text =>
    if d = c then run < most ∧ RunsWithin c most (run + 1) text else RunsWithin c most 0 text

/-- The longest run is the bound of all runs. -/
theorem runsWithin_of_longestRun {c : Char} {most : Nat} {text : List Char}
    (bounded : longestRun c text ≤ most) : RunsWithin c most 0 text := by
  suffices counted : ∀ run longest, (text.foldl (fun state d =>
      if d = c then (state.1 + 1, max (state.1 + 1) state.2) else (0, state.2))
        (run, longest)).2 ≤ most →
      longest ≤ most ∧ RunsWithin c most run text from (counted 0 0 bounded).2
  clear bounded
  induction text with
  | nil => exact fun _ _ within => ⟨within, trivial⟩
  | cons d text ih =>
    intro run longest within
    rw [List.foldl_cons] at within
    rw [RunsWithin]
    split_ifs at within ⊢ with same
    · obtain ⟨bound, later⟩ := ih _ _ within
      exact ⟨(Nat.max_le.mp bound).2, (Nat.max_le.mp bound).1, later⟩
    · exact ih _ _ within

/-- A text that stands for itself is written piece by piece. -/
theorem written_self {read : List Char → Option (List Char × List Char)} {quote : Char} {most : Nat}
    {text : List Char} (pieces : ∀ c ∈ text, c ≠ quote → Piece read quote c [c]) {run : Nat}
    (runs : RunsWithin quote most run text) : Written read quote most run text text := by
  induction text generalizing run with
  | nil => exact .nil run
  | cons c text ih =>
    have later := fun d inside => pieces d (List.mem_cons_of_mem c inside)
    rw [RunsWithin] at runs
    split_ifs at runs with mark
    · subst mark
      exact .quote runs.1 (ih later runs.2)
    · exact .piece (pieces c List.mem_cons_self mark) (ih later runs)

/-- A literal character is no quote, no control character and no end of a line. -/
theorem isLiteralChar_of_isControl {c : Char} (plain : isControl c = false) (inline : c ≠ '\n')
    (other : c ≠ '\'') : isLiteralChar c = true := by
  simp [isLiteralChar, isCommentChar_of_isControl plain inline, other]

/-- On one line, a literal character is a piece. -/
theorem piece_literal {c : Char} (plain : isLiteralChar c = true) :
    Piece literal? '\'' c [c] := by
  have mark : c ≠ '\'' := by rintro rfl; contradiction
  have ret : c ≠ '\r' := by rintro rfl; contradiction
  exact ⟨fun rest => by simp [literal?, plain], c, [], rfl, mark, ret, id⟩

/-- On several lines, a literal character and the end of a line are pieces. -/
theorem piece_literalLines {c : Char} (plain : isLiteralChar c = true ∨ c = '\n') :
    Piece literalLines? '\'' c [c] := by
  rcases plain with plain | rfl
  · have mark : c ≠ '\'' := by rintro rfl; contradiction
    have line : c ≠ '\n' := by rintro rfl; contradiction
    have ret : c ≠ '\r' := by rintro rfl; contradiction
    exact ⟨fun rest => by simp [literalLines?, mark, ret, plain], c, [], rfl, mark, ret, id⟩
  · exact ⟨fun rest => by simp [literalLines?], '\n', [], rfl, by decide, by decide, id⟩

/-! ## The four forms -/

/-- Up to two double quotes stand for themselves. -/
theorem takesRuns_basicLines : TakesRuns (basicLines? false) '"' := by
  constructor
  · intro run few rest apart
    match run, few with
    | 0, _ | 1, _ | 2, _ => simp [basicLines?, apart]
  · intro run few first tail text rest other read
    match run, few with
    | 0, _ | 1, _ | 2, _ => simp [basicLines?, other, read, prepend]

/-- Up to two single quotes stand for themselves. -/
theorem takesRuns_literalLines : TakesRuns literalLines? '\'' := by
  constructor
  · intro run few rest apart
    match run, few with
    | 0, _ | 1, _ | 2, _ => simp [literalLines?, apart]
  · intro run few first tail text rest other read
    match run, few with
    | 0, _ | 1, _ | 2, _ => simp [literalLines?, other, read, prepend]

/-- A text that is written as it is on one line has no single quote in it, no control character and no
end of a line. -/
theorem of_choose_literal {text : List Char} (chosen : Quoting.choose text = .literal) :
    (∀ c ∈ text, isControl c = false) ∧ '\n' ∉ text ∧ longestRun '\'' text ≤ 0 := by
  unfold Quoting.choose at chosen
  dsimp only at chosen
  split_ifs at chosen with basic literal
  simp only [Bool.and_eq_true, Bool.not_eq_true', List.any_eq_false, Bool.not_eq_true,
    List.contains_eq_mem, decide_eq_false_iff_not, beq_iff_eq] at literal
  exact ⟨literal.1.1, literal.1.2, Nat.le_of_eq literal.2⟩

/-- A text that is written as it is on several lines has at most two single quotes in a row and no
control character. -/
theorem of_choose_literalLines {text : List Char} (chosen : Quoting.choose text = .literalLines) :
    (∀ c ∈ text, isControl c = false) ∧ longestRun '\'' text ≤ 2 := by
  unfold Quoting.choose at chosen
  dsimp only at chosen
  split_ifs at chosen with basic literal lines literalLines
  simp only [Bool.and_eq_true, Bool.not_eq_true', List.any_eq_false, Bool.not_eq_true,
    decide_eq_true_eq] at literalLines
  exact literalLines

/-- The end of a line behind three opening quotes is skipped, and written only if the text has one. -/
theorem skipFirstNewline_opening {read : List Char → Option (List Char × List Char)} {quote : Char}
    {most run : Nat} {text written : List Char}
    (shape : Written read quote most run text written) (mark : quote ≠ '\n' ∧ quote ≠ '\r')
    (rest : List Char) :
    skipFirstNewline ((if text.contains '\n' then ['\n'] else []) ++ (written ++ quote :: rest)) =
      written ++ quote :: rest := by
  rw [skipFirstNewline]
  split_ifs with lines
  · rfl
  · have inline : '\n' ∉ text := by simpa using lines
    rw [List.nil_append, shape.newline?_eq_none inline mark, Option.getD_none]

/-- A text is read back from its quotes, in whichever form it was written, if no further quote stands
behind them. -/
theorem quoted?_quoted (text rest : List Char)
    (apart : ∀ tail, rest ≠ '"' :: tail ∧ rest ≠ '\'' :: tail) :
    quoted? (quoted text ++ rest) = some (String.ofList text, rest) := by
  have apart₂ := fun tail => (apart tail).1
  have apart₁ := fun tail => (apart tail).2
  unfold quoted
  cases chosen : Quoting.choose text with
  | basic =>
    have shape := written_escapeBasic Escaped.piece 0 0 text
    have read := shape.read_eq (fun _ => rfl) rest
    -- so the opening quote is not taken for the first of three
    have single := shape.single apart₂
    simp [quoted?, read]
  | literal =>
    obtain ⟨plain, inline, runs⟩ := of_choose_literal chosen
    have pieces : ∀ c ∈ text, c ≠ '\'' → Piece literal? '\'' c [c] := fun c inside other =>
      piece_literal (isLiteralChar_of_isControl (plain c inside)
        (fun same => inline (same ▸ inside)) other)
    have shape := written_self pieces (runsWithin_of_longestRun runs)
    have read := shape.read_eq (fun _ => rfl) rest
    have single := shape.single apart₁
    simp [quoted?, read]
  | basicLines =>
    have shape := written_escapeBasic Escaped.piece_lines 2 0 text
    have read := shape.read_lines_eq takesRuns_basicLines apart₂
    have opening := skipFirstNewline_opening shape (by decide) ('"' :: '"' :: rest)
    simp only [List.append_assoc, List.cons_append, List.nil_append, quoted?, opening, read,
      Option.map_some]
  | literalLines =>
    obtain ⟨plain, runs⟩ := of_choose_literalLines chosen
    have pieces : ∀ c ∈ text, c ≠ '\'' → Piece literalLines? '\'' c [c] := by
      intro c inside other
      by_cases line : c = '\n'
      · exact piece_literalLines (.inr line)
      · exact piece_literalLines (.inl (isLiteralChar_of_isControl (plain c inside) line other))
    have shape := written_self pieces (runsWithin_of_longestRun runs)
    have read := shape.read_lines_eq takesRuns_literalLines apart₁
    have opening := skipFirstNewline_opening shape (by decide) ('\'' :: '\'' :: rest)
    simp only [List.append_assoc, List.cons_append, List.nil_append, quoted?, opening, read,
      Option.map_some]

end SearchWire.Toml
