import SearchWire.Proofs.Assembly

/-!
# Faults of an assembly

Two guards watch the clauses of a command: the writer takes no token beyond the total that all
clauses announce together, and after each clause the tokens taken are counted. The first clause that
does not keep its word decides which of them stops the assembly. Up to it exactly as many tokens
were taken as were announced, so the total stops it if its tokens run past the total, and its own
count stops it if they do not, although it may only have used places of later clauses, and although
a later clause may be short by as many tokens. Once all clauses have passed, the total is filled.
-/
namespace SearchWire

namespace AssemblyFault

/-- The fault of a clause that does not keep its word, where `reach` tokens would be written with it
and `length` were announced by all clauses. -/
def stopping (length reach : Nat) : AssemblyFault :=
  if length < reach then .pastEnd length else .miscounted

/-- A clause that runs past the total is told so. -/
theorem message_stopping_of_lt {length reach : Nat} (past : length < reach) :
    (stopping length reach).message =
      "clause wrote past the precomputed command length " ++ toString length := by
  rw [stopping, if_pos past]
  rfl

/-- A clause that stays within the total is told that its count is wrong. -/
theorem message_stopping_of_le {length reach : Nat} (within : reach ≤ length) :
    (stopping length reach).message = "clause token count disagrees with tokens written" := by
  rw [stopping, if_neg (Nat.not_lt.mpr within)]
  rfl

/-- A clause is never stopped for a total that is not filled. -/
theorem stopping_ne_unfilled (length reach written length' : Nat) :
    stopping length reach ≠ .unfilled written length' := by
  unfold stopping
  split <;> nofun

end AssemblyFault

open AssemblyFault

namespace Writer

/-- A clause that is not honest is stopped, at the total or by its own count. -/
theorem write_dishonest {w : Writer} {c : Clause} (within : w.written.size ≤ w.length)
    (dishonest : ¬c.Honest) :
    w.write c = .error (stopping w.length (w.written.size + c.tokens.length)) := by
  have pushed := foldlM_push w c.tokens within
  by_cases past : w.length < w.written.size + c.tokens.length
  · rw [if_neg (Nat.not_le.mpr past)] at pushed
    rw [write, pushed, stopping, if_pos past]
    rfl
  · rw [if_pos (Nat.not_lt.mp past)] at pushed
    have taken : (w.after c.tokens).written.size - w.written.size = c.tokens.length := by
      rw [size_after]
      omega
    have miscounted : c.tokens.length ≠ c.announced := dishonest
    rw [write, pushed, stopping, if_neg past]
    change (if _ = c.announced then _ else _) = _
    rw [taken, if_neg miscounted]

end Writer

namespace Clause

/-- Clauses in a row announce together what those in front and those behind announce. -/
theorem total_append (before after : List Clause) :
    total (before ++ after) = total before + total after := by
  induction before with
  | nil => exact (Nat.zero_add _).symm
  | cons c before ih =>
    rw [List.cons_append, total, total, ih]
    omega

/-- Several clauses are honest, or there is a first one among them that is not. -/
theorem honest_or_first_dishonest (clauses : List Clause) :
    (∀ c ∈ clauses, c.Honest) ∨
      ∃ before c after, clauses = before ++ c :: after ∧ (∀ b ∈ before, b.Honest) ∧ ¬c.Honest := by
  cases found : clauses.find? fun c => !decide c.Honest with
  | none =>
    left
    intro c inside
    simpa using List.find?_eq_none.mp found c inside
  | some c =>
    right
    obtain ⟨dishonest, before, after, split, honest⟩ := List.find?_eq_some_iff_append.mp found
    refine ⟨before, c, after, split, fun b inside => ?_, by simpa using dishonest⟩
    simpa using honest b inside

/-- The first clause that is not honest stops the assembly, reaching as far as its tokens run behind
what the clauses in front of it announced. -/
theorem assemble_dishonest {before after : List Clause} {c : Clause}
    (honest : ∀ b ∈ before, b.Honest) (dishonest : ¬c.Honest) :
    assemble (before ++ c :: after) =
      .error (stopping (total (before ++ c :: after)) (total before + c.tokens.length)) := by
  let start : Writer := ⟨total (before ++ c :: after), #[]⟩
  let reached := start.after (before.flatMap tokens)
  have empty : start.written.size = 0 := rfl
  have room : total before ≤ total (before ++ c :: after) := by
    rw [total_append]
    omega
  have size : reached.written.size = total before := by
    rw [Writer.size_after, length_flatMap_tokens honest, empty, Nat.zero_add]
  have taken : before.foldlM Writer.write start = .ok reached :=
    Writer.foldlM_write honest (by rw [empty, Nat.zero_add]; exact room)
  have stopped := Writer.write_dishonest (by rw [size]; exact room) dishonest
  rw [size] at stopped
  rw [assemble, List.foldlM_append, taken]
  change ((c :: after).foldlM Writer.write reached >>= _) = _
  rw [List.foldlM_cons, stopped]
  rfl

/-- The first clause that does not write as many tokens as it announced stops the assembly: at the
total of all clauses if its tokens run past it, and by its own count if they do not. Without such a
clause the tokens of all clauses come back in order. So whatever comes back has the announced
length, and the last comparison with it never fails. -/
theorem assembly_stopped_by_first_dishonest (clauses : List Clause) :
    ((∀ c ∈ clauses, c.Honest) → assemble clauses = .ok (clauses.flatMap tokens)) ∧
    (∀ before c after, clauses = before ++ c :: after → (∀ b ∈ before, b.Honest) → ¬c.Honest →
      ∃ fault, assemble clauses = .error fault ∧
        (total clauses < total before + c.tokens.length →
          fault.message = "clause wrote past the precomputed command length " ++
            toString (total clauses)) ∧
        (total before + c.tokens.length ≤ total clauses →
          fault.message = "clause token count disagrees with tokens written")) ∧
    (∀ tokens, assemble clauses = .ok tokens → tokens.length = total clauses) ∧
    ∀ written length, assemble clauses ≠ .error (.unfilled written length) := by
  refine ⟨assemble_honest, ?_, ?_⟩
  · rintro before c after rfl honest dishonest
    exact ⟨_, assemble_dishonest honest dishonest, message_stopping_of_lt, message_stopping_of_le⟩
  · rcases honest_or_first_dishonest clauses with honest | ⟨before, c, after, rfl, honest, broken⟩
    · rw [assemble_honest honest]
      refine ⟨fun tokens same => ?_, fun _ _ => nofun⟩
      cases same
      exact length_flatMap_tokens honest
    · rw [assemble_dishonest honest broken]
      refine ⟨fun _ => nofun, fun written length same => ?_⟩
      exact stopping_ne_unfilled _ _ written length (Except.error.inj same)

/-- A clause that takes a place of the next one is stopped by its own count, though the next one
would have left that place free; the last clause is stopped at the total. -/
theorem dishonest_stopped_before_compensation :
    (∃ fault, assemble [⟨1, [.text "a"]⟩, ⟨1, [.text "b", .text "c"]⟩, ⟨2, [.text "d"]⟩] =
        .error fault ∧
      fault.message = "clause token count disagrees with tokens written") ∧
    ∃ fault, assemble [⟨1, [.text "a"]⟩, ⟨1, [.text "b", .text "c"]⟩] = .error fault ∧
      fault.message = "clause wrote past the precomputed command length 2" := by
  have stopped (after : List Clause) :=
    (assembly_stopped_by_first_dishonest _).2.1 [⟨1, [.text "a"]⟩] ⟨1, [.text "b", .text "c"]⟩ after
      rfl (by decide) (by decide)
  constructor
  · obtain ⟨fault, failed, -, within⟩ := stopped [⟨2, [.text "d"]⟩]
    exact ⟨fault, failed, within (by decide)⟩
  · obtain ⟨fault, failed, past, -⟩ := stopped []
    exact ⟨fault, failed, past (by decide)⟩

end Clause

end SearchWire
