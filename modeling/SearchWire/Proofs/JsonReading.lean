import SearchWire.Json.Basic
import Mathlib.Data.List.Nodup

/-!
# Reading what was written

Readers of a data exchange undo writers, member by member and element by element, wherever nothing
is lost on the way. Only a double that is not finite is lost: it has no written form. What is read
back is therefore stated with the doubles of a value: the value itself if all of them are finite,
and nothing at all otherwise.
-/
namespace SearchWire.Json

/-! ## Members of a record -/

/-- An object with names that differ has its members. -/
theorem members?_object {known : List String} {members : List (String × Json)}
    (distinct : (members.map Prod.fst).Nodup) (required : Nat) :
    (object members).members? known required = some members := by
  have single : ∀ name, (members.filter (·.1 == name)).length ≤ 1 := by
    intro name
    have count : (members.map Prod.fst).count name ≤ 1 :=
      List.nodup_iff_count_le_one.mp distinct name
    rwa [List.count, List.countP_map, List.countP_eq_length_filter] at count
  have all : (known.all fun name => decide ((members.filter (·.1 == name)).length ≤ 1)) = true :=
    List.all_eq_true.mpr fun name _ => decide_eq_true (single name)
  rw [members?, if_pos all]

/-- A member that is left out if its value is missing has its own name at most. -/
theorem map_fst_memberIf {α : Type} (name : String) (write : α → Json) (value : Option α) :
    ((memberIf name write value).map Prod.fst).Sublist [name] := by
  cases value with
  | none => exact List.nil_sublist _
  | some => exact List.Sublist.refl _

/-- A member that may be left out is found under its name. -/
@[simp] theorem lookup_memberIf_self {α : Type} (name : String) (write : α → Json)
    (value : Option α) : (memberIf name write value).lookup name = value.map write := by
  cases value <;> simp [memberIf]

/-- A member that may be left out is not found under another name. -/
theorem lookup_memberIf_of_ne {α : Type} {name other : String} (differs : name ≠ other)
    (write : α → Json) (value : Option α) : (memberIf other write value).lookup name = none := by
  have apart : (name == other) = false := beq_eq_false_iff_ne.mpr differs
  cases value with
  | none => rfl
  | some a => rw [memberIf, List.lookup_cons, apart, List.lookup_nil]

/-- What is not `null` is read as a value that is there. -/
theorem nullable?_of_ne {α : Type} {read : Json → Option α} {j : Json} (given : j ≠ null) :
    nullable? read j = (read j).map some := by
  cases j with
  | null => contradiction
  | _ => rfl

/-- A value that may be missing is read back if it is never written as `null`. -/
theorem nullable?_ofOption {α : Type} {write : α → Json} {read : Json → Option α}
    {value : Option α} (given : ∀ a ∈ value, write a ≠ null)
    (back : ∀ a ∈ value, read (write a) = some a) :
    nullable? read (ofOption write value) = some value := by
  cases value with
  | none => rfl
  | some a => rw [ofOption, nullable?_of_ne (given a rfl), back a rfl, Option.map_some]

/-- A member that is left out if its value is missing is read back if it is never written as
`null`. -/
theorem optional_of_lookup {α : Type} {write : α → Json} {read : Json → Option α}
    {value : Option α} {members : List (String × Json)} {name : String}
    (found : members.lookup name = value.map write) (given : ∀ a ∈ value, write a ≠ null)
    (back : ∀ a ∈ value, read (write a) = some a) :
    optional members name read = some value := by
  rw [optional, found]
  cases value with
  | none => rfl
  | some a =>
    have read := nullable?_ofOption given back
    exact read

/-! ## Simple values -/

/-- A number is not `null`. -/
theorem ofNat_ne_null (n : Nat) : ofNat n ≠ null := nofun

/-- A signed word is read back. -/
@[simp] theorem int64?_ofInt64 (n : Int64) : (ofInt64 n).int64? = some n :=
  Word.int64?_eq_some_iff.mpr rfl

/-- An unsigned word is read back. -/
@[simp] theorem uint64?_ofNat (n : UInt64) : (ofNat n.toNat).uint64? = some n :=
  Word.uint64?_eq_some_iff.mpr rfl

/-- An unsigned 32-bit word is read back. -/
@[simp] theorem uint32?_ofNat (n : UInt32) : (ofNat n.toNat).uint32? = some n :=
  Word.uint32?_eq_some_iff.mpr rfl

/-- An octet is read back. -/
@[simp] theorem uint8?_ofNat (n : UInt8) : (ofNat n.toNat).uint8? = some n := by
  have upper := n.toNat_lt
  change Word.uint8? n.toNat = some n
  rw [Word.uint8?, if_pos ⟨by omega, by omega⟩, Int.toNat_natCast, UInt8.ofNat_toNat]

/-- A character is read back from its text. -/
@[simp] theorem character?_toString (c : Char) : (string c.toString).character? = some c := by
  simp [character?, Char.toString]

/-- Elements are read back one by one, each as what it becomes. -/
theorem list?_ofList_eq_some {α : Type} {write : α → Json} {read : Json → Option α}
    {become : α → α} {items : List α} (each : ∀ a ∈ items, read (write a) = some (become a)) :
    (ofList write items).list? read = some (items.map become) := by
  change (items.map write).mapM read = _
  induction items with
  | nil => rfl
  | cons a items ih =>
    rw [List.forall_mem_cons] at each
    simp [each.1, ih each.2]

/-- Elements that are read back as they were are read back as a list. -/
theorem list?_ofList_self {α : Type} {write : α → Json} {read : Json → Option α}
    {items : List α} (each : ∀ a ∈ items, read (write a) = some a) :
    (ofList write items).list? read = some items := by
  have back : (ofList write items).list? read = some (items.map id) := list?_ofList_eq_some each
  rwa [List.map_id] at back

/-- A list of texts is read back. -/
theorem list?_ofList_strings (texts : List String) :
    (ofList string texts).list? text? = some texts :=
  list?_ofList_self fun _ _ => rfl

/-! ## Values with doubles -/

/-- A value if all of these doubles are finite. -/
def kept {α : Type} (doubles : List Double) (a : α) : Option α :=
  if ∀ d ∈ doubles, d.isFinite = true then some a else none

section
variable {α β : Type} {doubles doubles' : List Double} {a : α}

/-- Without doubles nothing is lost. -/
@[simp] theorem kept_nil (a : α) : kept [] a = some a := by
  simp [kept]

/-- What is made of a value is kept as long as the value. -/
@[simp] theorem map_kept (f : α → β) (a : α) : (kept doubles a).map f = kept doubles (f a) := by
  unfold kept
  split <;> rfl

/-- Two values in a row are kept if the doubles of both are finite. -/
@[simp] theorem kept_bind_kept (f : α → β) (b : α → List Double) (a : α) :
    ((kept doubles a).bind fun a => kept (b a) (f a)) = kept (doubles ++ b a) (f a) := by
  unfold kept
  by_cases finite : ∀ d ∈ doubles, d.isFinite = true
  · rw [if_pos finite, Option.bind_some]
    simp only [List.forall_mem_append, and_iff_right finite]
  · rw [if_neg finite, if_neg fun all => finite (List.forall_mem_append.mp all).1]
    rfl

/-- What is made of a value in a last step is kept as long as the value. -/
@[simp] theorem kept_bind_some (f : α → β) (a : α) :
    ((kept doubles a).bind fun a => some (f a)) = kept doubles (f a) := by
  unfold kept
  split <;> rfl

/-- A double is read back if it is finite. -/
theorem double?_ofDouble (d : Double) : (ofDouble d).double? = kept [d] d := by
  by_cases finite : d.isFinite = true <;> simp [ofDouble, kept, finite, double?]

/-- A list is read back if the doubles of its elements are finite. -/
theorem list?_ofList_kept {write : α → Json} {read : Json → Option α} {doubles : α → List Double}
    {items : List α} (each : ∀ a ∈ items, read (write a) = kept (doubles a) a) :
    (ofList write items).list? read = kept (items.flatMap doubles) items := by
  change (items.map write).mapM read = _
  induction items with
  | nil => rfl
  | cons a items ih =>
    rw [List.forall_mem_cons] at each
    simp [each.1, ih each.2]

end

end SearchWire.Json
