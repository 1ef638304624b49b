import SearchWire.Text.Blank
import Mathlib.Data.List.TakeWhile

/-!
# Texts and the blanks around them

A trimmed text is the one way to write a text as blanks, something that neither begins nor ends
with a blank, and blanks. What a number or a count between blanks is read as is decided by that
middle part.
-/
namespace SearchWire.Blank

/-- A digit is not a blank. -/
theorem isBlank_of_isDigit {c : Char} (digit : c.isDigit = true) : isBlank c = false := by
  simp only [Char.isDigit, Bool.and_eq_true, decide_eq_true_eq] at digit
  have lower : 48 ≤ c.toNat := UInt32.le_iff_toNat_le.mp digit.1
  have upper : c.toNat ≤ 57 := UInt32.le_iff_toNat_le.mp digit.2
  simp only [isBlank, Bool.or_eq_false_iff, Bool.and_eq_false_iff, decide_eq_false_iff_not,
    beq_eq_false_iff_ne]
  omega

/-- Whether a text is made of blanks. -/
def Blanks (text : List Char) : Prop := ∀ c ∈ text, isBlank c = true

/-- Whether a text neither begins nor ends with a blank. -/
def Tight (text : List Char) : Prop :=
  (∀ c ∈ text.head?, isBlank c = false) ∧ ∀ c ∈ text.getLast?, isBlank c = false

/-- A text without blanks neither begins nor ends with one. -/
theorem tight_of_forall {text : List Char} (visible : ∀ c ∈ text, isBlank c = false) :
    Tight text :=
  ⟨fun c first => visible c (List.mem_of_mem_head? first),
    fun c last => visible c (List.mem_of_mem_getLast? last)⟩

/-- What remains behind leading blanks does not begin with a blank. -/
theorem head?_dropWhile (text : List Char) :
    ∀ c ∈ (text.dropWhile isBlank).head?, isBlank c = false := by
  intro c first
  have stopped := List.head?_dropWhile_not isBlank text
  rw [Option.mem_def.mp first] at stopped
  exact stopped

/-- Nothing is dropped from a text that does not begin with a blank. -/
theorem dropWhile_eq_self {text : List Char} (visible : ∀ c ∈ text.head?, isBlank c = false) :
    text.dropWhile isBlank = text := by
  cases text with
  | nil => rfl
  | cons c rest =>
    have first : isBlank c = false := visible c rfl
    exact List.dropWhile_cons_of_neg (by rw [first]; exact Bool.false_ne_true)

/-- Blanks in front of a text are dropped, and if nothing else is there, so are those behind it. -/
theorem dropWhile_append {left word right : List Char} (before : Blanks left)
    (after : Blanks right) (visible : ∀ c ∈ word.head?, isBlank c = false) :
    (left ++ (word ++ right)).dropWhile isBlank =
      if word = [] then [] else word ++ right := by
  rw [List.dropWhile_append_of_pos before]
  split
  · next empty =>
    rw [empty, List.nil_append, List.dropWhile_eq_nil_iff]
    exact after
  · next present =>
    obtain ⟨c, rest, rfl⟩ := List.exists_cons_of_ne_nil present
    exact dropWhile_eq_self visible

/-- A text between blanks is trimmed to itself. -/
theorem trim_append {left word right : List Char} (before : Blanks left) (after : Blanks right)
    (tight : Tight word) : trim (left ++ (word ++ right)) = word := by
  rw [trim, dropWhile_append before after tight.1]
  split
  · next empty => rw [empty]; rfl
  · have reversed : Blanks right.reverse := fun c inside => after c (List.mem_reverse.mp inside)
    have last : ∀ c ∈ word.reverse.head?, isBlank c = false := by
      rw [List.head?_reverse]
      exact tight.2
    rw [List.reverse_append, List.dropWhile_append_of_pos reversed, dropWhile_eq_self last,
      List.reverse_reverse]

/-- What trailing blanks are taken from is what remains and these blanks. -/
theorem append_reverse_takeWhile (text : List Char) :
    (text.reverse.dropWhile isBlank).reverse ++ (text.reverse.takeWhile isBlank).reverse =
      text := by
  rw [← List.reverse_append, List.takeWhile_append_dropWhile, List.reverse_reverse]

/-- Trimming takes away blanks at the two ends. -/
theorem exists_trim (text : List Char) :
    ∃ left right, text = left ++ (trim text ++ right) ∧ Blanks left ∧ Blanks right := by
  let rest := text.dropWhile isBlank
  refine ⟨text.takeWhile isBlank, (rest.reverse.takeWhile isBlank).reverse, ?_, ?_, ?_⟩
  · rw [trim, append_reverse_takeWhile, List.takeWhile_append_dropWhile]
  · exact fun c inside => List.mem_takeWhile_imp inside
  · exact fun c inside => List.mem_takeWhile_imp (List.mem_reverse.mp inside)

/-- A trimmed text neither begins nor ends with a blank. -/
theorem tight_trim (text : List Char) : Tight (trim text) := by
  constructor
  · intro c first
    have split := append_reverse_takeWhile (text.dropWhile isBlank)
    refine head?_dropWhile text c ?_
    rw [← split, List.head?_append, ← trim, Option.mem_def.mp first]
    rfl
  · intro c last
    rw [trim, List.getLast?_reverse] at last
    exact head?_dropWhile _ c last

/-- A text is trimmed to the part between the blanks at its ends. -/
theorem trim_eq_iff {text word : List Char} :
    trim text = word ↔
      ∃ left right, text = left ++ (word ++ right) ∧ Blanks left ∧ Blanks right ∧ Tight word := by
  constructor
  · rintro rfl
    obtain ⟨left, right, same, before, after⟩ := exists_trim text
    exact ⟨left, right, same, before, after, tight_trim text⟩
  · rintro ⟨left, right, rfl, before, after, tight⟩
    exact trim_append before after tight

end SearchWire.Blank
