import SearchWire.Proofs.Acceptance
import SearchWire.Proofs.FrameUniqueness
import SearchWire.Proofs.Layout

/-!
# Numbers beyond the range of integer tokens

A conversion to an integer token clamps what it cannot hold, so that no wrong number is sent depends
on the checks: each option that takes a number is checked in its own place. A number beyond the
range of integer tokens is refused wherever it is given, and a command that is compiled or framed
holds its layout, in which all numbers are as they were given.
-/
namespace SearchWire

/-- Whether a command is refused for one of its arguments. -/
def Refusal.IsArgument (cause : Refusal) : Prop := ∃ reason, cause.error = .invalidArgument reason

namespace Check

/-- A cause that is reported is that of a check that applies. -/
theorem exists_of_run_eq_error {checks : List Check} {cause : Refusal}
    (refused : run checks = .error cause) :
    ∃ check ∈ checks, check.applies = true ∧ check.refusal = cause := by
  unfold run at refused
  cases found : checks.find? Check.applies with
  | none => simp [found] at refused
  | some check =>
    rw [found] at refused
    exact ⟨check, List.mem_of_find?_eq_some found, List.find?_some found, Except.error.inj refused⟩

/-- If a check applies, some cause is reported. -/
theorem exists_error_of_applies {checks : List Check} {check : Check} (inside : check ∈ checks)
    (applies : check.applies = true) : ∃ cause, run checks = .error cause := by
  cases refused : run checks with
  | error cause => exact ⟨cause, rfl⟩
  | ok =>
    have passed := run_eq_ok_iff.mp refused check inside
    exact absurd applies (by simp [passed])

/-- A number beyond the range of integer tokens does not pass. -/
theorem applies_fits_of_lt {option : String} {value : UInt64}
    (large : Word.greatest < value.toNat) : (fits option value).applies = true := by
  simp [fits, Word.fits, large]

end Check

namespace IndexSpec

/-- The checks of an index are those of the same index without a lifespan and two of the
lifespan. -/
theorem mem_checks_of_temporary {spec : IndexSpec} {seconds : UInt64}
    (given : spec.options.temporary = some seconds) {check : Check} (inside : check ∈ spec.checks) :
    check ∈ { spec with options.temporary := none }.checks ∨
      check = ⟨some seconds == some 0, .zeroLifespan⟩ ∨ check = .fits "TEMPORARY" seconds := by
  simp only [checks, optionChecks, given, Check.optional, Option.map_some, Option.toList_some,
    List.mem_append, List.mem_cons, List.not_mem_nil, or_false] at inside ⊢
  tauto

/-- A lifespan beyond the range is refused, and it is the cause if the index would be accepted
without it. -/
theorem compile_eq_error_of_lt {spec : IndexSpec} {seconds : UInt64}
    (given : spec.options.temporary = some seconds) (large : Word.greatest < seconds.toNat) :
    ∃ cause, spec.compile = .error (.refused cause) ∧
      ({ spec with options.temporary := none }.validate = .ok () →
        cause = .beyondInteger "TEMPORARY" seconds) := by
  have checked : Check.fits "TEMPORARY" seconds ∈ spec.checks := by
    simp [checks, optionChecks, given, Check.optional]
  obtain ⟨cause, refused⟩ :=
    Check.exists_error_of_applies checked (Check.applies_fits_of_lt large)
  refine ⟨cause, by rw [compile_eq, validate, refused], fun rest => ?_⟩
  obtain ⟨check, inside, applies, rfl⟩ := Check.exists_of_run_eq_error refused
  rcases mem_checks_of_temporary given inside with other | rfl | rfl
  · rw [Check.run_eq_ok_iff.mp rest check other] at applies
    contradiction
  · obtain rfl : seconds = 0 := by simpa using applies
    exact absurd large (by decide)
  · rfl

end IndexSpec

/-- A reducer is refused for its arguments only. -/
theorem Reducer.isArgument_of_mem_checks (r : Reducer) :
    ∀ check ∈ r.checks, check.refusal.IsArgument := by
  simp only [checks, List.forall_mem_cons, List.not_mem_nil, false_implies, implies_true, and_true]
  exact ⟨⟨_, rfl⟩, ⟨_, rfl⟩, ⟨_, rfl⟩, ⟨_, rfl⟩⟩

/-- A stage is refused for its arguments only. -/
theorem Stage.isArgument_of_mem_checks (s : Stage) :
    ∀ check ∈ s.checks, check.refusal.IsArgument := by
  cases s with
  | groupBy group =>
    intro check inside
    obtain ⟨r, -, found⟩ := List.mem_flatMap.mp inside
    exact r.isArgument_of_mem_checks check found
  | sortBy sort =>
    refine List.forall_mem_cons.mpr ⟨⟨_, rfl⟩, ?_⟩
    exact Check.forall_mem_optional.mpr fun _ _ => ⟨_, rfl⟩
  | apply | filter => exact List.forall_mem_singleton.mpr ⟨_, rfl⟩
  | limit => exact List.forall_mem_cons.mpr ⟨⟨_, rfl⟩, List.forall_mem_singleton.mpr ⟨_, rfl⟩⟩

namespace Aggregation

/-- Whether a number is given to an aggregation, in an option or in a stage. -/
inductive Offers (a : Aggregation) : UInt64 → Prop where
  /-- The milliseconds that the query may take. -/
  | timeout {n : UInt64} (given : a.timeout = some n) : Offers a n
  /-- The records on a page. -/
  | count {options : CursorOptions} {n : UInt64} (cursor : a.cursor = some options)
    (given : options.count = some n) : Offers a n
  /-- The milliseconds after which an idle cursor is forgotten. -/
  | maxIdle {options : CursorOptions} {n : UInt64} (cursor : a.cursor = some options)
    (given : options.maxIdle = some n) : Offers a n
  /-- The records that a sort keeps. -/
  | most {sort : SortBy} {n : UInt64} (inside : .sortBy sort ∈ a.stages)
    (given : sort.max = some n) : Offers a n
  /-- The records that are skipped. -/
  | offset {n count : UInt64} (inside : .limit n count ∈ a.stages) : Offers a n
  /-- The records that are kept behind those that are skipped. -/
  | length {offset n : UInt64} (inside : .limit offset n ∈ a.stages) : Offers a n
  /-- The size of a random sample, whatever its name. -/
  | sample {group : GroupBy} {name : String} {n : UInt64} {label : Option String}
    (inside : .groupBy group ∈ a.stages)
    (reducer : { Reducer.randomSample name n with label := label } ∈ group.reducers) : Offers a n

/-- An aggregation is refused for its arguments only. -/
theorem isArgument_of_mem_checks {a : Aggregation} :
    ∀ check ∈ a.checks, check.refusal.IsArgument := by
  have options : ∀ check ∈ a.optionChecks, check.refusal.IsArgument := by
    simp only [optionChecks, List.forall_mem_append, List.forall_mem_cons,
      Check.forall_mem_optional, List.not_mem_nil, false_implies, implies_true, and_true]
    exact ⟨⟨⟨⟨⟨_, rfl⟩, ⟨_, rfl⟩, ⟨_, rfl⟩, ⟨_, rfl⟩, ⟨_, rfl⟩⟩, fun _ _ => ⟨_, rfl⟩⟩,
      fun _ _ => ⟨_, rfl⟩⟩, fun _ _ => ⟨_, rfl⟩⟩
  intro check inside
  rcases List.mem_append.mp inside with option | stage
  · exact options check option
  · obtain ⟨s, -, found⟩ := List.mem_flatMap.mp stage
    exact s.isArgument_of_mem_checks check found

/-- Each number that is given is checked. -/
theorem Offers.exists_applies {a : Aggregation} {n : UInt64} (offers : a.Offers n)
    (large : Word.greatest < n.toNat) : ∃ check ∈ a.checks, check.applies = true := by
  have option (keyword : String) (value : Option UInt64) (given : value = some n)
      (inside : ∀ check ∈ Check.optional value (Check.fits keyword), check ∈ a.optionChecks) :
      ∃ check ∈ a.checks, check.applies = true :=
    ⟨_, List.mem_append_left _ (inside _ (Check.mem_optional given)),
      Check.applies_fits_of_lt large⟩
  have staged {s : Stage} {check : Check} (stage : s ∈ a.stages) (inside : check ∈ s.checks)
      (applies : check.applies = true) : ∃ check ∈ a.checks, check.applies = true :=
    ⟨check, List.mem_append_right _ (List.mem_flatMap.mpr ⟨s, stage, inside⟩), applies⟩
  cases offers with
  | timeout given =>
    exact option "TIMEOUT" a.timeout given fun check inside => by simp [optionChecks, inside]
  | count cursor given =>
    exact option "COUNT" (a.cursor.bind CursorOptions.count) (by rw [cursor]; exact given)
      fun check inside => by simp [optionChecks, inside]
  | maxIdle cursor given =>
    exact option "MAXIDLE" (a.cursor.bind CursorOptions.maxIdle) (by rw [cursor]; exact given)
      fun check inside => by simp [optionChecks, inside]
  | most inside given =>
    exact staged inside (List.mem_cons_of_mem _ (Check.mem_optional given))
      (Check.applies_fits_of_lt large)
  | offset inside =>
    exact staged inside List.mem_cons_self (Check.applies_fits_of_lt large)
  | length inside =>
    exact staged inside (List.mem_cons_of_mem _ List.mem_cons_self)
      (Check.applies_fits_of_lt large)
  | @sample group name n label inside reducer =>
    -- A size that is too large was kept as a text, and the argument is no integer token.
    have text : Word.fits n.toNat = false := decide_eq_false (Nat.not_le.mpr large)
    let r : Reducer := { Reducer.randomSample name n with label := label }
    have checked : ⟨r.function == "RANDOM_SAMPLE" && (r.args[1]?.bind Token.integer?).isNone,
        .badSampleSize⟩ ∈ r.checks := by simp [Reducer.checks]
    refine staged inside (List.mem_flatMap.mpr ⟨r, reducer, checked⟩) ?_
    simp [r, Reducer.randomSample, Reducer.call, text, Token.integer?]

/-- A number beyond the range is refused wherever it is given to an aggregation. -/
theorem Offers.compile_eq_error {a : Aggregation} {n : UInt64} (offers : a.Offers n)
    (large : Word.greatest < n.toNat) :
    ∃ cause, a.compile = .error (.refused cause) ∧ cause.IsArgument := by
  obtain ⟨check, inside, applies⟩ := offers.exists_applies large
  obtain ⟨cause, refused⟩ := Check.exists_error_of_applies inside applies
  obtain ⟨found, among, -, rfl⟩ := Check.exists_of_run_eq_error refused
  exact ⟨_, by rw [compile_eq, validate, refused], isArgument_of_mem_checks found among⟩

/-- No number that was given to an accepted aggregation is beyond the range. -/
theorem Offers.le_of_compile {a : Aggregation} {n : UInt64} {body : AggregationBody}
    (offers : a.Offers n) (compiled : a.compile = .ok body) : n.toNat ≤ Word.greatest := by
  by_contra large
  obtain ⟨cause, refused, -⟩ := offers.compile_eq_error (Nat.not_le.mp large)
  rw [refused] at compiled
  cases compiled

end Aggregation

namespace Command

open Slot

/-- A cursor or a page beyond the range is refused. -/
theorem frame_cursorRead_eq_error {config : Config} {index : String} {cursor : UInt64}
    {count : Option UInt64}
    (large : Word.greatest < cursor.toNat ∨ ∃ n ∈ count, Word.greatest < n.toNat) :
    ∃ cause, (cursorRead index cursor count).frame config = .error cause ∧ cause.IsArgument := by
  cases refused : (cursorRead index cursor count).frame config with
  | ok f =>
    obtain ⟨cursorFits, countFits⟩ := cursor_le_of_frame refused
    rcases large with large | ⟨n, given, large⟩
    · exact absurd cursorFits (Nat.not_le.mpr large)
    · exact absurd (countFits n given) (Nat.not_le.mpr large)
  | error cause =>
    have arguments : ∀ check ∈ (cursorRead index cursor count).checks,
        check.refusal.IsArgument := by
      simp only [checks, List.forall_mem_cons, List.not_mem_nil, false_implies, implies_true,
        and_true]
      exact ⟨⟨_, rfl⟩, ⟨_, rfl⟩, ⟨_, rfl⟩⟩
    rw [frame, map_eq_error_iff] at refused
    obtain ⟨check, inside, -, rfl⟩ := Check.exists_of_run_eq_error refused
    exact ⟨_, rfl, arguments check inside⟩

/-- What is to stand behind the name of a command that was built from a description. -/
inductive Laid (config : Config) : Command → List Slot → Prop where
  /-- An index and its name. -/
  | createIndex {spec : IndexSpec} {body : IndexBody} (index : String) (storable : spec.Storable)
    (compiled : spec.compile = .ok body) :
    Laid config (.createIndex index body) (text index :: spec.layout)
  /-- An aggregation with the dialect that is sent for it. -/
  | aggregate {a : Aggregation} {body : AggregationBody} (storable : a.Storable)
    (compiled : a.compile = .ok body) :
    Laid config (.aggregate body) (text a.index :: (a.resolved config).layout)
  /-- A cursor and the size of its page. -/
  | cursorRead (index : String) (cursor : UInt64) (count : Option UInt64) :
    Laid config (.cursorRead index cursor count)
      (text "READ" :: text index :: natural cursor.toNat ::
        keyed "COUNT" (count.map fun n => natural n.toNat))

/-- The arguments of a command that is sent hold its layout. -/
theorem Laid.hold {config : Config} {c : Command} {slots : List Slot} {f : Frame}
    (laid : c.Laid config slots) (framed : c.frame config = .ok f) : Hold slots f.args := by
  cases laid with
  | @createIndex spec body index storable compiled =>
    obtain ⟨valid, rfl⟩ := IndexSpec.compile_eq_ok_iff.mp compiled
    obtain ⟨-, rfl⟩ := frame_eq_ok_iff.mp framed
    have exact := IndexSpec.exact_of_validate valid storable
    dsimp only [Command.framed]
    exact .cons (holds_text _) (IndexSpec.hold_layout exact)
  | @aggregate a body storable compiled =>
    obtain rfl := Except.ok.inj (framed.symm.trans (Aggregation.frame_compiled compiled config))
    have valid := (Aggregation.compile_eq_ok_iff.mp compiled).1
    have exact := (Aggregation.exact_of_validate valid storable).resolved config
    exact .cons (holds_text _) (Aggregation.hold_layout exact)
  | cursorRead index cursor count =>
    obtain ⟨cursorFits, countFits⟩ := cursor_le_of_frame framed
    obtain ⟨-, rfl⟩ := frame_eq_ok_iff.mp framed
    have page := hold_keyed "COUNT" _ (fun n : UInt64 => .ofNat n.toNat) fun n given =>
      holds_natural (countFits n given)
    exact .cons (holds_text _) (.cons (holds_text _) (.cons (holds_natural cursorFits) page))

end Command

open Slot in
/-- No number is clamped on its way into a command: one beyond the range of integer tokens is
refused wherever it is given, as an invalid argument unless something else is wrong, and what is
compiled or sent holds its layout place by place, the sizes of random samples included. -/
theorem numbers_refused_or_held :
    (∀ (spec : IndexSpec) (seconds : UInt64), spec.options.temporary = some seconds →
      Word.greatest < seconds.toNat →
      ∃ cause, spec.compile = .error (.refused cause) ∧
        ({ spec with options.temporary := none }.validate = .ok () → cause.IsArgument)) ∧
    (∀ (a : Aggregation) (n : UInt64), a.Offers n → Word.greatest < n.toNat →
      ∃ cause, a.compile = .error (.refused cause) ∧ cause.IsArgument) ∧
    (∀ (config : Config) (index : String) (cursor : UInt64) (count : Option UInt64),
      (Word.greatest < cursor.toNat ∨ ∃ n ∈ count, Word.greatest < n.toNat) →
      ∃ cause, (Command.cursorRead index cursor count).frame config = .error cause ∧
        cause.IsArgument) ∧
    (∀ (spec : IndexSpec) (body : IndexBody), spec.Storable → spec.compile = .ok body →
      Hold spec.layout body.tokens) ∧
    (∀ (a : Aggregation) (body : AggregationBody), a.Storable → a.compile = .ok body →
      Hold a.layout body.tokens ∧
      ∀ group name (n : UInt64) label, .groupBy group ∈ a.stages →
        { Reducer.randomSample name n with label := label } ∈ group.reducers →
        ({ Reducer.randomSample name n with label := label } : Reducer).layout =
          text "REDUCE" :: text "RANDOM_SAMPLE" :: natural 2 :: text (property name) ::
            natural n.toNat :: keyed "AS" (label.map text)) ∧
    ∀ (config : Config) (c : Command) (slots : List Slot) (f : Frame), c.Laid config slots →
      c.frame config = .ok f → Hold slots f.args := by
  refine ⟨fun spec seconds given large => ?_, fun a n offers large => offers.compile_eq_error large,
    fun config index cursor count large => Command.frame_cursorRead_eq_error large,
    fun spec body storable compiled => ?_, fun a body storable compiled => ⟨?_, ?_⟩,
    fun config c slots f laid framed => laid.hold framed⟩
  · obtain ⟨cause, refused, reported⟩ := IndexSpec.compile_eq_error_of_lt given large
    refine ⟨cause, refused, fun rest => ?_⟩
    rw [reported rest]
    exact ⟨_, rfl⟩
  · obtain ⟨valid, rfl⟩ := IndexSpec.compile_eq_ok_iff.mp compiled
    dsimp only
    exact IndexSpec.hold_layout (IndexSpec.exact_of_validate valid storable)
  · obtain ⟨valid, rfl⟩ := Aggregation.compile_eq_ok_iff.mp compiled
    dsimp only
    exact Aggregation.hold_layout (Aggregation.exact_of_validate valid storable)
  · intro group name n label inside reducer
    have offers : a.Offers n := .sample inside reducer
    exact Reducer.layout_randomSample (offers.le_of_compile compiled) name label

open Aggregation Slot in
/-- The greatest integer token is the size of a random sample, and the number above it is refused,
though the sample stands in a later stage. -/
theorem sample_refused_or_held :
    (∃ body, (ofSteps "i" [.stage (.limit 0 7),
        .stage (.groupBy (.on ["g"] [.randomSample "f" 0x7fffffffffffffff]))]).compile = .ok body ∧
      Hold (ofSteps "i" [.stage (.limit 0 7),
        .stage (.groupBy (.on ["g"] [.randomSample "f" 0x7fffffffffffffff]))]).layout
          body.tokens) ∧
    ∃ cause, (ofSteps "i" [.stage (.limit 0 7),
        .stage (.groupBy (.on ["g"] [.randomSample "f" 0x8000000000000000]))]).compile =
        .error (.refused cause) ∧
      cause.IsArgument := by
  constructor
  · have compiled : (ofSteps "i" [.stage (.limit 0 7),
        .stage (.groupBy (.on ["g"] [.randomSample "f" 0x7fffffffffffffff]))]).compile =
          .ok _ := compile_eq_ok_iff.mpr ⟨rfl, rfl⟩
    have storable : (ofSteps "i" [.stage (.limit 0 7),
        .stage (.groupBy (.on ["g"] [.randomSample "f" 0x7fffffffffffffff]))]).Storable :=
      ⟨by rintro _ ⟨⟩, by decide, by decide⟩
    exact ⟨_, compiled, (numbers_refused_or_held.2.2.2.2.1 _ _ storable compiled).1⟩
  · refine numbers_refused_or_held.2.1 _ 0x8000000000000000 ?_ (by decide)
    exact .sample (List.mem_cons_of_mem _ List.mem_cons_self) List.mem_cons_self

end SearchWire
