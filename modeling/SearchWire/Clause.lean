import SearchWire.Token

/-!
# Clauses and their assembly

A command is put together from clauses. Each clause announces how many tokens it will write before
it writes them, so the length of the command is known in advance: the writer is given the total and
takes no token beyond it, and after each clause the number of tokens taken is compared with the
number announced. A clause that does not keep its word is a fault of the clause, reported apart
from every error a caller can cause.
-/
namespace SearchWire

/-- A piece of a command: the number of tokens it announces and the tokens it writes. -/
structure Clause where
  /-- How many tokens are announced. -/
  announced : Nat
  /-- The tokens written. -/
  tokens : List Token
deriving DecidableEq

namespace Clause

/-- A clause that announces as many tokens as it writes. -/
def Honest (c : Clause) : Prop := c.tokens.length = c.announced

instance (c : Clause) : Decidable c.Honest := inferInstanceAs (Decidable (_ = _))

/-- How many tokens several clauses announce together. -/
def total : List Clause → Nat
  | [] => 0
  | c :: rest => c.announced + total rest

/-- Several clauses as one. -/
def group (clauses : List Clause) : Clause := ⟨total clauses, clauses.flatMap tokens⟩

/-- Honest clauses form an honest group. -/
theorem honest_group {clauses : List Clause} (honest : ∀ c ∈ clauses, c.Honest) :
    (group clauses).Honest := by
  induction clauses with
  | nil => rfl
  | cons c rest ih =>
    have first : c.tokens.length = c.announced := honest c (by simp)
    have later := ih fun other inside => honest other (by simp [inside])
    simp only [Honest, group, total, List.flatMap_cons, List.length_append] at later ⊢
    rw [first, later]

end Clause

/-- The shapes of clauses that options are written in. -/
inductive Part where
  /-- A value in a fixed place. -/
  | bare (value : Token)
  /-- A keyword alone. -/
  | flag (keyword : String)
  /-- A keyword and its value. -/
  | keyed (keyword : String) (value : Token)
  /-- A keyword, the number of items, the items. -/
  | counted (keyword : String) (items : List Token)
deriving DecidableEq

namespace Part

/-- How many tokens a part takes. -/
def tokenCount : Part → Nat
  | bare _ | flag _ => 1
  | keyed _ _ => 2
  | counted _ items => 2 + items.length

/-- The tokens of a part. -/
def tokens : Part → List Token
  | bare value => [value]
  | flag keyword => [.text keyword]
  | keyed keyword value => [.text keyword, value]
  | counted keyword items => .text keyword :: Token.counted items

/-- A part as a clause. -/
def clause (p : Part) : Clause := ⟨p.tokenCount, p.tokens⟩

/-- A part takes as many tokens as it has. -/
theorem length_tokens (p : Part) : p.tokens.length = p.tokenCount := by
  cases p with
  | bare | flag | keyed => rfl
  | counted => simp only [tokens, tokenCount, Token.counted, List.length_cons]; omega

end Part

/-- How an assembly fails. -/
inductive AssemblyFault where
  /-- A clause wrote a token beyond the announced total. -/
  | pastEnd (length : Nat)
  /-- A clause wrote another number of tokens than it announced. -/
  | miscounted
  /-- The clauses together did not fill the announced total. -/
  | unfilled (written length : Nat)
deriving DecidableEq

namespace AssemblyFault

/-- The fault in words. -/
def message : AssemblyFault → String
  | pastEnd length => "clause wrote past the precomputed command length " ++ toString length
  | miscounted => "clause token count disagrees with tokens written"
  | unfilled written length =>
    "fill pass wrote " ++ toString written ++ " tokens but length pass computed " ++
      toString length

end AssemblyFault

/-- The tokens of a command while it is written, and their announced number. -/
structure Writer where
  /-- How many tokens the command will have. -/
  length : Nat
  /-- The tokens taken so far. -/
  written : Array Token

namespace Writer

/-- Take one more token. -/
def push (w : Writer) (t : Token) : Except AssemblyFault Writer :=
  if w.written.size < w.length then .ok { w with written := w.written.push t }
  else .error (.pastEnd w.length)

/-- Take the tokens of a clause and compare their number with the one announced. -/
def write (w : Writer) (c : Clause) : Except AssemblyFault Writer := do
  let after ← c.tokens.foldlM push w
  if after.written.size - w.written.size = c.announced then .ok after else .error .miscounted

/-- The finished command. -/
def finish (w : Writer) : Except AssemblyFault (List Token) :=
  if w.written.size = w.length then .ok w.written.toList
  else .error (.unfilled w.written.size w.length)

end Writer

/-- Put clauses together in order. -/
def assemble (clauses : List Clause) : Except AssemblyFault (List Token) := do
  let writer ← clauses.foldlM Writer.write ⟨Clause.total clauses, #[]⟩
  writer.finish

/-- Why a command could not be compiled: it was refused, or a clause broke its word. -/
inductive CompileFault (α : Type) where
  /-- The command is not well formed. -/
  | refused (cause : α)
  /-- A clause wrote another number of tokens than it announced. -/
  | broken (fault : AssemblyFault)
deriving DecidableEq

end SearchWire
