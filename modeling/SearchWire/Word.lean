/-!
# Machine words read from integers

Counts, identifiers and integer values are machine words of fixed width. An integer becomes a word
only when the word holds exactly that integer; nothing wraps. The two saturating conversions keep
the largest signed word for everything above it.
-/
namespace SearchWire.Word

/-- The signed 64-bit word of an integer in its range. -/
def int64? (n : Int) : Option Int64 :=
  if -0x8000000000000000 ≤ n ∧ n ≤ 0x7fffffffffffffff then some (Int64.ofInt n) else none

/-- The unsigned 64-bit word of an integer in its range. -/
def uint64? (n : Int) : Option UInt64 :=
  if 0 ≤ n ∧ n ≤ 0xffffffffffffffff then some (UInt64.ofNat n.toNat) else none

/-- The unsigned 32-bit word of an integer in its range. -/
def uint32? (n : Int) : Option UInt32 :=
  if 0 ≤ n ∧ n ≤ 0xffffffff then some (UInt32.ofNat n.toNat) else none

/-- The octet of an integer in its range. -/
def uint8? (n : Int) : Option UInt8 :=
  if 0 ≤ n ∧ n ≤ 0xff then some (UInt8.ofNat n.toNat) else none

/-- The largest signed 64-bit word, as a natural number. -/
def greatest : Nat := 0x7fffffffffffffff

/-- Whether a signed 64-bit word holds the number. -/
def fits (n : Nat) : Bool := decide (n ≤ greatest)

/-- The signed 64-bit word of a natural number, the largest word for numbers above it. -/
def saturate (n : Nat) : Int64 := Int64.ofNat (min n greatest)

/-- The word of an integer has that integer as its value. -/
theorem int64?_eq_some_iff {n : Int} {w : Int64} : int64? n = some w ↔ w.toInt = n := by
  unfold int64?
  constructor
  · intro found
    split at found
    · cases found
      rw [Int64.toInt_ofInt]
      exact Int.bmod_eq_of_le (by simp only [Int64.size]; omega) (by simp only [Int64.size]; omega)
    · contradiction
  · rintro rfl
    have lower := Int64.le_toInt w
    have upper := Int64.toInt_lt w
    rw [if_pos ⟨by omega, by omega⟩, Int64.ofInt_toInt]

/-- The unsigned word of an integer has that integer as its value. -/
theorem uint64?_eq_some_iff {n : Int} {w : UInt64} : uint64? n = some w ↔ (w.toNat : Int) = n := by
  unfold uint64?
  constructor
  · intro found
    split at found
    · cases found
      rw [UInt64.toNat_ofNat']
      omega
    · contradiction
  · rintro rfl
    have upper := w.toNat_lt
    rw [if_pos ⟨by omega, by omega⟩, Int.toNat_natCast, UInt64.ofNat_toNat]

/-- The short unsigned word of an integer has that integer as its value. -/
theorem uint32?_eq_some_iff {n : Int} {w : UInt32} : uint32? n = some w ↔ (w.toNat : Int) = n := by
  unfold uint32?
  constructor
  · intro found
    split at found
    · cases found
      rw [UInt32.toNat_ofNat']
      omega
    · contradiction
  · rintro rfl
    have upper := w.toNat_lt
    rw [if_pos ⟨by omega, by omega⟩, Int.toNat_natCast, UInt32.ofNat_toNat]

/-- A number that fits is the value of its word. -/
theorem toInt_saturate {n : Nat} (small : n ≤ greatest) : (saturate n).toInt = n := by
  simp only [greatest] at small
  simp only [saturate, greatest, Nat.min_eq_left small, Int64.toInt_ofNat']
  exact Int.bmod_eq_of_le (by simp only [Int64.size]; omega) (by simp only [Int64.size]; omega)

/-- Two numbers that fit and have one word are the same. -/
theorem saturate_inj {m n : Nat} (small : m ≤ greatest) (small' : n ≤ greatest)
    (same : saturate m = saturate n) : m = n := by
  have values := congrArg Int64.toInt same
  rw [toInt_saturate small, toInt_saturate small'] at values
  exact Int.ofNat_inj.mp values

end SearchWire.Word
