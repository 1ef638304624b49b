/-!
# Errors

The errors a caller sees, in four groups: a command that is not well formed, a reply that is not
understood, a failure reported from the other side of the connection, and a configuration that
cannot be used. Each carries the text that was given for it, because errors are also exchanged in
serialized form; what can go wrong inside the library is listed by cause elsewhere and worded on
the way here.
-/
namespace SearchWire

/-- What a caller is told when an operation fails. -/
inductive Error where
  /-- An index has no schema field. -/
  | missingSchema
  /-- Two options exclude each other. -/
  | configConflict (reason : String)
  /-- An option or a descriptor has a value the engine would refuse. -/
  | invalidArgument (reason : String)
  /-- A reply has not the expected shape. -/
  | replyFormat (reason : String)
  /-- A record has no field of this name. -/
  | fieldNotFound (field : String)
  /-- A value cannot be read as the requested type. -/
  | conversion (expected actual : String)
  /-- The engine answered with an error. -/
  | server (message : String)
  /-- The command did not get through. -/
  | transport (reason : String)
  /-- The configuration cannot be read, written or used. -/
  | config (reason : String)
deriving DecidableEq

namespace Error

/-- The text shown for an error. -/
def message : Error → String
  | missingSchema => "index definition has no schema fields"
  | configConflict reason => "configuration conflict: " ++ reason
  | invalidArgument reason => "invalid argument: " ++ reason
  | replyFormat reason => "reply format error: " ++ reason
  | fieldNotFound field => "field not found: " ++ field
  | conversion expected actual => "cannot convert " ++ actual ++ " to " ++ expected
  | server message => "server error: " ++ message
  | transport reason => "transport error: " ++ reason
  | config reason => "config error: " ++ reason

/-- Whether the error is found while a command is compiled, before anything is sent. -/
def isCompileError : Error → Bool
  | missingSchema | configConflict _ | invalidArgument _ => true
  | _ => false

end Error

/-! ## Computations that can fail -/

section
variable {ε α β : Type} {x : Except ε α}

/-- Two steps succeed if each of them does. -/
theorem bind_eq_ok_iff {f : α → Except ε β} {b : β} :
    (x >>= f) = .ok b ↔ ∃ a, x = .ok a ∧ f a = .ok b := by
  cases x with
  | error e => exact iff_of_false nofun nofun
  | ok a =>
    constructor
    · exact fun done => ⟨a, rfl, done⟩
    · rintro ⟨_, ⟨⟩, done⟩
      exact done

/-- Two steps fail if the first fails, or if the second fails after it. -/
theorem bind_eq_error_iff {f : α → Except ε β} {e : ε} :
    (x >>= f) = .error e ↔ x = .error e ∨ ∃ a, x = .ok a ∧ f a = .error e := by
  cases x with
  | error e' =>
    constructor
    · rintro ⟨⟩
      exact .inl rfl
    · rintro (⟨⟨⟩⟩ | ⟨_, ⟨⟩, _⟩)
      rfl
  | ok a =>
    constructor
    · exact fun failed => .inr ⟨a, rfl, failed⟩
    · rintro (⟨⟨⟩⟩ | ⟨_, ⟨⟩, failed⟩)
      exact failed

/-- A result is changed if there is one. -/
theorem map_eq_ok_iff {f : α → β} {b : β} : x.map f = .ok b ↔ ∃ a, x = .ok a ∧ f a = b := by
  cases x with
  | error e => exact iff_of_false nofun nofun
  | ok a =>
    constructor
    · rintro ⟨⟩
      exact ⟨a, rfl, rfl⟩
    · rintro ⟨_, ⟨⟩, rfl⟩
      rfl

/-- Changing the result keeps every failure. -/
theorem map_eq_error_iff {f : α → β} {e : ε} : x.map f = .error e ↔ x = .error e := by
  cases x with
  | error e' =>
    constructor
    · rintro ⟨⟩
      rfl
    · rintro ⟨⟩
      rfl
  | ok a => exact iff_of_false nofun nofun

/-- Two steps fail in a certain way only if each of them does. -/
theorem forall_error_bind {p : ε → Prop} {f : α → Except ε β} (first : ∀ e, x = .error e → p e)
    (second : ∀ a e, f a = .error e → p e) : ∀ e, (x >>= f) = .error e → p e := by
  intro e failed
  rcases bind_eq_error_iff.mp failed with failed | ⟨a, -, failed⟩
  · exact first e failed
  · exact second a e failed

/-- Changing a result adds no way to fail. -/
theorem forall_error_map {p : ε → Prop} {f : α → β} (first : ∀ e, x = .error e → p e) :
    ∀ e, x.map f = .error e → p e :=
  fun e failed => first e (map_eq_error_iff.mp failed)

end

end SearchWire
