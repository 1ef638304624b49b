import SearchWire.Pipeline.Aggregation
import SearchWire.Schema.Index

/-!
# Assembly of honest clauses

Pushing a list of tokens on a writer either takes all of them or fails at the first token beyond
the announced total. From this one step, honest clauses are assembled to the concatenation of their
tokens, and every clause the library writes itself is honest. An index or an aggregation is
therefore either refused or compiled, and the tokens of its body are a plain list.
-/
namespace SearchWire

namespace Writer

/-- The writer after a list of tokens that it has taken. -/
def after (w : Writer) (tokens : List Token) : Writer :=
  { w with written := w.written ++ tokens.toArray }

/-- Taking no token changes nothing. -/
theorem after_nil (w : Writer) : w.after [] = w := by
  simp [after]

/-- Tokens are taken one after the other. -/
theorem after_after (w : Writer) (first second : List Token) :
    (w.after first).after second = w.after (first ++ second) := by
  simp [after, Array.append_assoc]

/-- Taking tokens keeps the announced total. -/
theorem length_after (w : Writer) (tokens : List Token) : (w.after tokens).length = w.length := rfl

/-- Every token taken counts. -/
theorem size_after (w : Writer) (tokens : List Token) :
    (w.after tokens).written.size = w.written.size + tokens.length := by
  simp [after]

/-- A writer within its total takes a list of tokens exactly if they stay within it too. -/
theorem foldlM_push (w : Writer) (tokens : List Token) (within : w.written.size ≤ w.length) :
    tokens.foldlM push w =
      if w.written.size + tokens.length ≤ w.length then .ok (w.after tokens)
      else .error (.pastEnd w.length) := by
  induction tokens generalizing w with
  | nil =>
    rw [if_pos (by simpa using within), after_nil]
    rfl
  | cons t rest ih =>
    rw [List.foldlM_cons]
    by_cases room : w.written.size < w.length
    · have taken : w.push t = .ok (w.after [t]) := by
        simp [push, room, after]
      have grown : (w.after [t]).written.size = w.written.size + 1 := size_after w [t]
      have later := ih (w.after [t]) (by rw [grown]; exact room)
      rw [taken]
      change rest.foldlM push (w.after [t]) = _
      rw [later, grown, length_after, after_after, List.singleton_append, List.length_cons,
        Nat.add_assoc, Nat.add_comm 1]
    · have refused : w.push t = .error (.pastEnd w.length) := by
        simp [push, room]
      rw [refused, if_neg (by rw [List.length_cons]; omega)]
      rfl

/-- An honest clause that stays within the total is taken as it is. -/
theorem write_honest {w : Writer} {c : Clause} (honest : c.Honest)
    (room : w.written.size + c.announced ≤ w.length) : w.write c = .ok (w.after c.tokens) := by
  have count : c.tokens.length = c.announced := honest
  have taken : c.tokens.foldlM push w = .ok (w.after c.tokens) := by
    rw [foldlM_push w c.tokens (by omega), if_pos (by omega)]
  have counted : (w.after c.tokens).written.size - w.written.size = c.announced := by
    rw [size_after, count]
    omega
  rw [write, taken]
  change (if _ = _ then _ else _) = _
  rw [if_pos counted]

/-- Honest clauses that stay within the total together are taken in order. -/
theorem foldlM_write {w : Writer} {clauses : List Clause} (honest : ∀ c ∈ clauses, c.Honest)
    (room : w.written.size + Clause.total clauses ≤ w.length) :
    clauses.foldlM write w = .ok (w.after (clauses.flatMap Clause.tokens)) := by
  induction clauses generalizing w with
  | nil =>
    rw [List.flatMap_nil, after_nil]
    rfl
  | cons c rest ih =>
    have first : c.Honest := honest c (by simp)
    have count : c.tokens.length = c.announced := first
    rw [Clause.total] at room
    have taken : w.write c = .ok (w.after c.tokens) := write_honest first (by omega)
    have later := ih (w := w.after c.tokens) (fun other inside => honest other (by simp [inside]))
      (by rw [size_after, count, length_after]; omega)
    rw [List.foldlM_cons, taken]
    change rest.foldlM write (w.after c.tokens) = _
    rw [later, after_after, List.flatMap_cons]

end Writer

namespace Clause

/-- Honest clauses have as many tokens as they announce together. -/
theorem length_flatMap_tokens {clauses : List Clause} (honest : ∀ c ∈ clauses, c.Honest) :
    (clauses.flatMap tokens).length = total clauses :=
  honest_group honest

/-- Honest clauses are assembled to the concatenation of their tokens. -/
theorem assemble_honest {clauses : List Clause} (honest : ∀ c ∈ clauses, c.Honest) :
    assemble clauses = .ok (clauses.flatMap tokens) := by
  have taken : clauses.foldlM Writer.write ⟨total clauses, #[]⟩ =
      .ok (Writer.after ⟨total clauses, #[]⟩ (clauses.flatMap tokens)) :=
    Writer.foldlM_write honest (by simp)
  have filled : (Writer.after ⟨total clauses, #[]⟩ (clauses.flatMap tokens)).written.size =
      total clauses := by
    rw [Writer.size_after, length_flatMap_tokens honest]
    simp
  rw [assemble, taken]
  change Writer.finish _ = _
  rw [Writer.finish, Writer.length_after, if_pos filled]
  simp [Writer.after]

/-- The clauses the library writes itself, and groups of them nested to any depth. -/
inductive Standard : Clause → Prop where
  /-- A part. -/
  | part (p : Part) : Standard p.clause
  /-- A schema field. -/
  | field (f : Field) : Standard f.clause
  /-- A reducer. -/
  | reducer (r : Reducer) : Standard r.clause
  /-- A stage of a pipeline. -/
  | stage (s : Stage) : Standard s.clause
  /-- The section of all schema fields. -/
  | schema (fields : List Field) : Standard (IndexSpec.schemaClause fields)
  /-- Several of these as one clause. -/
  | group (clauses : List Clause) (each : ∀ c ∈ clauses, Standard c) : Standard (group clauses)

end Clause

/-- A part announces as many tokens as it writes. -/
theorem Part.honest_clause (p : Part) : p.clause.Honest := p.length_tokens

/-- A field announces as many tokens as it writes. -/
theorem Field.honest_clause (f : Field) : f.clause.Honest := by
  change f.tokens.length = f.tokenCount
  simp only [Field.tokens, Field.tokenCount, List.length_append, List.length_cons,
    Token.length_keyed, Token.length_flag, List.length_map, Option.isSome_map]
  cases f.sorting with
  | no | yes | unnormalized =>
    simp only [Sorting.keywords, List.length_cons, List.length_nil]
    omega

/-- A reducer announces as many tokens as it writes. -/
theorem Reducer.honest_clause (r : Reducer) : r.clause.Honest := by
  change r.tokens.length = r.tokenCount
  simp only [Reducer.tokens, Reducer.tokenCount, List.length_append, List.length_cons,
    Token.length_counted, Token.length_keyed, Option.isSome_map]
  omega

/-- The schema section announces as many tokens as it writes. -/
theorem IndexSpec.honest_schemaClause (fields : List Field) : (schemaClause fields).Honest := by
  apply Clause.honest_group
  intro c inside
  rcases List.mem_cons.mp inside with rfl | inside
  · rfl
  · obtain ⟨f, -, rfl⟩ := List.mem_map.mp inside
    exact f.honest_clause

/-- Items written as two tokens each take twice as many tokens. -/
theorem Token.length_flatMap_pair {α : Type} (first second : α → Token) (items : List α) :
    (items.flatMap fun a => [first a, second a]).length = 2 * items.length := by
  induction items with
  | nil => rfl
  | cons a rest ih =>
    rw [List.flatMap_cons, List.length_append, ih, List.length_cons, List.length_cons,
      List.length_cons, List.length_nil]
    omega

/-- The names and directions of sort keys take two tokens each. -/
theorem SortBy.length_keyTokens (keys : List (String × Direction)) :
    (keys.flatMap fun (name, direction) =>
      [Token.text name, Token.text direction.keyword]).length = 2 * keys.length :=
  Token.length_flatMap_pair _ _ keys

/-- A stage announces as many tokens as it writes. -/
theorem Stage.honest_clause (s : Stage) : s.clause.Honest := by
  change s.tokens.length = s.tokenCount
  cases s with
  | groupBy group =>
    have reducers : (group.reducers.flatMap Reducer.tokens).length =
        Clause.total (group.reducers.map Reducer.clause) := by
      rw [← Clause.length_flatMap_tokens (by simp [Reducer.honest_clause]), List.flatMap_map]
      rfl
    simp only [Stage.tokens, Stage.tokenCount, List.length_append, List.length_cons,
      Token.length_counted, List.length_map, reducers]
    omega
  | sortBy sort =>
    simp only [Stage.tokens, Stage.tokenCount, List.length_append, List.length_cons,
      SortBy.length_keyTokens, Token.length_keyed, Option.isSome_map]
    omega
  | apply | filter | limit => rfl

/-- Every clause the library writes itself announces as many tokens as it writes. -/
theorem Clause.Standard.honest {c : Clause} (standard : c.Standard) : c.Honest := by
  induction standard with
  | part p => exact p.honest_clause
  | field f => exact f.honest_clause
  | reducer r => exact r.honest_clause
  | stage s => exact s.honest_clause
  | schema fields => exact IndexSpec.honest_schemaClause fields
  | group clauses _ ih => exact Clause.honest_group ih

/-! ## Compilation -/

/-- Parts as clauses write the tokens of the parts. -/
theorem Part.flatMap_clause (parts : List Part) :
    (parts.map clause).flatMap Clause.tokens = parts.flatMap tokens := by
  rw [List.flatMap_map]
  rfl

namespace IndexSpec

/-- The tokens of the body of an index. -/
def bodyTokens (spec : IndexSpec) : List Token := spec.clauses.flatMap Clause.tokens

/-- Every clause of an index is one the library writes itself. -/
theorem standard_clauses (spec : IndexSpec) : ∀ c ∈ spec.clauses, c.Standard := by
  intro c inside
  rcases List.mem_append.mp inside with inside | inside
  · obtain ⟨p, -, rfl⟩ := List.mem_map.mp inside
    exact .part p
  · obtain rfl := List.mem_singleton.mp inside
    exact .schema spec.fields

/-- An index that passes its checks is compiled to its tokens, and any other is refused. -/
theorem compile_eq (spec : IndexSpec) :
    spec.compile = match spec.validate with
      | .ok () => .ok ⟨spec.document, spec.bodyTokens⟩
      | .error cause => .error (.refused cause) := by
  have assembled : assemble spec.clauses = .ok spec.bodyTokens :=
    Clause.assemble_honest fun c inside => (spec.standard_clauses c inside).honest
  rw [compile, assembled]
  cases spec.validate <;> rfl

/-- A compiled index passed its checks and consists of its tokens. -/
theorem compile_eq_ok_iff {spec : IndexSpec} {body : IndexBody} :
    spec.compile = .ok body ↔
      spec.validate = .ok () ∧ body = ⟨spec.document, spec.bodyTokens⟩ := by
  rw [compile_eq]
  cases spec.validate with
  | ok => simp only [Except.ok.injEq, true_and, eq_comm]
  | error => simp only [reduceCtorEq, false_and]

end IndexSpec

namespace Aggregation

/-- The tokens of the body of an aggregation. -/
def bodyTokens (a : Aggregation) : List Token := a.clauses.flatMap Clause.tokens

/-- Every clause of an aggregation is one the library writes itself. -/
theorem standard_clauses (a : Aggregation) : ∀ c ∈ a.clauses, c.Standard := by
  intro c inside
  rcases List.mem_append.mp inside with inside | inside
  · rcases List.mem_append.mp inside with inside | inside
    · obtain ⟨p, -, rfl⟩ := List.mem_map.mp inside
      exact .part p
    · obtain ⟨s, -, rfl⟩ := List.mem_map.mp inside
      exact .stage s
  · obtain ⟨p, -, rfl⟩ := List.mem_map.mp inside
    exact .part p

/-- An aggregation that passes its checks is compiled to its tokens, and any other is refused. -/
theorem compile_eq (a : Aggregation) :
    a.compile = match a.validate with
      | .ok () => .ok ⟨a.index, a.bodyTokens, a.dialect, a.cursor.isSome⟩
      | .error cause => .error (.refused cause) := by
  have assembled : assemble a.clauses = .ok a.bodyTokens :=
    Clause.assemble_honest fun c inside => (a.standard_clauses c inside).honest
  rw [compile, assembled]
  cases a.validate <;> rfl

/-- A compiled aggregation passed its checks and consists of its tokens and what its sender has to
know. -/
theorem compile_eq_ok_iff {a : Aggregation} {body : AggregationBody} :
    a.compile = .ok body ↔
      a.validate = .ok () ∧ body = ⟨a.index, a.bodyTokens, a.dialect, a.cursor.isSome⟩ := by
  rw [compile_eq]
  cases a.validate with
  | ok => simp only [Except.ok.injEq, true_and, eq_comm]
  | error => simp only [reduceCtorEq, false_and]

end Aggregation

end SearchWire
