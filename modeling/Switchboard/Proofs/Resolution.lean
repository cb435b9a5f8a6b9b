import Switchboard.Proofs.DirectCall

/-!
# What references resolve to

A reference is split in one way only: `Reference.split_eq_some_iff` says that the two parts which
count are the texts before the first and before the second dot, and `Reference.split_eq_none_iff`
that nothing else than a dot makes a function part. The module part is what the engine looks up,
so that an export under a name with a dot is out of reach of every program, and what is exported
there bears on no item (`references_decompose_uniquely`).
-/

namespace Switchboard

namespace Reference

/-- The parts of a reference that count. Neither has a dot in it, and behind the second one the
reference ends or goes on with another dot. -/
structure Parts (reference module function : Text) : Prop where
  plainModule : dot ∉ module
  plainFunction : dot ∉ function
  joined : ∃ tail, (tail = [] ∨ ∃ more, tail = dot :: more) ∧
    reference = module ++ [dot] ++ function ++ tail

variable {reference module function : Text}

/-- The text before the first dot has no dot in it. -/
theorem dot_not_mem_segment (source : Text) : dot ∉ segment source := by
  intro inside
  have passed := List.mem_takeWhile_imp inside
  simp at passed

/-- Behind a segment the text ends or goes on with a dot. -/
theorem exists_segment_append (source : Text) :
    ∃ tail, (tail = [] ∨ ∃ more, tail = dot :: more) ∧ source = segment source ++ tail := by
  refine ⟨source.dropWhile (· ≠ dot), ?_, List.takeWhile_append_dropWhile.symm⟩
  rcases left : source.dropWhile (· ≠ dot) with _ | ⟨point, more⟩
  · exact .inl rfl
  · have stopped := List.head?_dropWhile_not (· ≠ dot) source
    rw [left] at stopped
    have isDot : point = dot := by simpa using stopped
    exact .inr ⟨more, by rw [isDot]⟩

theorem Parts.split_eq (parts : Parts reference module function) :
    split reference = (module, some function) := by
  obtain ⟨tail, ends, rfl⟩ := parts.joined
  have atDot : ∀ point ∈ tail.head?, point = dot := by
    rcases ends with rfl | ⟨more, rfl⟩
    · nofun
    · exact fun point here => (Option.mem_some_iff.mp here).symm
  rw [List.append_assoc, List.append_assoc, List.singleton_append]
  exact split_dotted parts.plainModule parts.plainFunction atDot

/-- A reference with a dot has parts. -/
theorem exists_parts (dotted : dot ∈ reference) :
    ∃ module function, Parts reference module function := by
  obtain ⟨before, rest, rfl, plain⟩ := List.eq_append_cons_of_mem dotted
  obtain ⟨tail, ends, whole⟩ := exists_segment_append rest
  refine ⟨before, segment rest, plain, dot_not_mem_segment rest, tail, ends, ?_⟩
  rw [List.append_assoc, List.append_assoc, ← whole, List.singleton_append]

/-- Splitting gives a module and a function exactly when these are the parts that count. -/
theorem split_eq_some_iff :
    split reference = (module, some function) ↔ Parts reference module function := by
  refine ⟨fun parted => ?_, Parts.split_eq⟩
  have dotted : dot ∈ reference := by
    by_contra plain
    rw [split_plain plain] at parted
    cases parted
  obtain ⟨first, second, parts⟩ := exists_parts dotted
  rw [parts.split_eq] at parted
  cases parted
  exact parts

/-- Splitting gives no function exactly when there is no dot. -/
theorem split_eq_none_iff :
    split reference = (module, none) ↔ dot ∉ reference ∧ module = reference := by
  constructor
  · intro whole
    by_cases dotted : dot ∈ reference
    · obtain ⟨first, second, parts⟩ := exists_parts dotted
      rw [parts.split_eq] at whole
      cases whole
    · rw [split_plain dotted] at whole
      cases whole
      exact ⟨dotted, rfl⟩
  · rintro ⟨plain, rfl⟩
    exact split_plain plain

end Reference

/-! ## What items look up -/

/-- Only a call of a reference looks anything up, and the parts of that reference are what it looks
up. -/
theorem Item.demand_eq_call {item : Item} {module function : Text}
    (demand : item.demand = .call module function) :
    ∃ instruction reference, item.accept = .ok instruction ∧ instruction.isCall = true ∧
      instruction.name = .string reference ∧ Reference.Parts reference module function := by
  unfold Item.demand at demand
  split at demand
  · cases demand
  · next instruction accepted =>
    unfold Instruction.demand at demand
    split at demand
    · next isCall =>
      split at demand
      · cases demand
      · next reference named =>
        split at demand
        · cases demand
        · next parted =>
          cases demand
          exact ⟨instruction, reference, accepted, isCall, named,
            Reference.split_eq_some_iff.mp parted⟩
      · cases demand
    · split at demand <;> cases demand

/-- A call of a name and a function without a dot looks up the name. -/
theorem Item.demand_calling {name function : Text} (plain : Reference.dot ∉ name)
    (plainToo : Reference.dot ∉ function) :
    (Item.raw (.calling (name ++ [Reference.dot] ++ function))).demand = .call name function :=
  Value.demand_calling
    (Reference.Parts.split_eq ⟨plain, plainToo, [], .inl rfl, (List.append_nil _).symm⟩)

namespace Engine

variable {engine : Engine} {enter : Enter} {index : Nat} {item : Item} {name : Text}
  {world other : World}

/-- A run reaches the snapshot that is exported under a name: it comes to a call that is looked up
under the name, and finds the snapshot there. -/
def Reaches (engine : Engine) (enter : Enter) (program : Program) (world : World) (name : Text)
    (snapshot : SnapshotRef) : Prop :=
  ∃ visit ∈ engine.visits enter program world, ∃ function,
    visit.item.demand = .call name function ∧
      (visit.world.exports.read engine.exports).get? name = some snapshot

/-- A name that some run looks up has no dot. -/
theorem Reaches.plain {program : Program} {snapshot : SnapshotRef}
    (reaches : engine.Reaches enter program world name snapshot) : Reference.dot ∉ name := by
  obtain ⟨visit, -, function, demand, -⟩ := reaches
  obtain ⟨_, reference, -, -, -, parts⟩ := Item.demand_eq_call demand
  exact parts.plainModule

/-- A program that does nothing but call a name without a dot reaches what is exported there. -/
theorem reaches_calling {snapshot : SnapshotRef} (plain : Reference.dot ∉ name)
    (exported : (world.exports.read engine.exports).get? name = some snapshot) :
    engine.Reaches enter (.calling (name ++ [Reference.dot] ++ [])) world name snapshot :=
  ⟨_, List.mem_cons_self, [], Item.demand_calling plain List.not_mem_nil, exported⟩

/-- A call that finds a snapshot enters the function of that snapshot, or reports that it has none
of the name. -/
theorem callVerdict_of_present {function : Text} {snapshot : Snapshot}
    (present : world.entries engine.exports name = some snapshot) :
    engine.callVerdict name function world =
      match snapshot.functions.function? function with
      | none => .unknownFunction function snapshot.name
      | some native => .entered native := by
  obtain ⟨ref, found, rfl⟩ := Option.map_eq_some_iff.mp present
  unfold callVerdict
  split
  · next missing => exact nomatch found.symm.trans missing
  · next foundToo =>
    cases found.symm.trans foundToo
    rfl

/-- What is exported under a name bears on calls of that name only. -/
theorem verdict_eq_of_entries_eq (elsewhere : ∀ function, item.demand ≠ .call name function)
    (alike : ∀ module, module ≠ name →
      world.entries engine.exports module = other.entries engine.exports module) :
    engine.verdict index item world = engine.verdict index item other := by
  unfold verdict
  cases demand : item.demand with
  | call module function =>
    have different : module ≠ name := by
      rintro rfl
      exact elsewhere function demand
    have entries := alike module different
    cases here : world.entries engine.exports module with
    | none =>
      have missing := Option.map_eq_none_iff.mp here
      have missingToo := Option.map_eq_none_iff.mp (entries.symm.trans here)
      simp only [callVerdict, missing, missingToo]
    | some snapshot =>
      calc engine.callVerdict module function world
          = _ := callVerdict_of_present here
        _ = engine.callVerdict module function other :=
            (callVerdict_of_present (entries.symm.trans here)).symm
  | rejected | unnamedCall | misnamedCall | exit | unknown => rfl

/-- A step at a call of a name and a function without a dot reports that the snapshot exported
under the name lacks the function, or enters it and counts the call when it returns. -/
theorem perform_step_calling {function : Text} {snapshot : Snapshot}
    (plain : Reference.dot ∉ name) (plainToo : Reference.dot ∉ function)
    (present : world.entries engine.exports name = some snapshot) (tally : Tally) :
    (engine.step enter index (.raw (.calling (name ++ [Reference.dot] ++ function)))
        tally).perform world =
      match snapshot.functions.function? function with
      | none =>
          (.ok (.goesOn ⟨tally.executed + 1, tally.calls,
              tally.diagnostics ++ [.unknownFunction function]⟩),
            world.record [.logged (.unknownFunction function snapshot.name)])
      | some native =>
          (do enter native
              return .goesOn ⟨tally.executed + 1, tally.calls + 1, tally.diagnostics⟩ :
            Op Progress).perform world := by
  rw [perform_step, verdict, Item.demand_calling plain plainToo]
  dsimp only
  rw [callVerdict_of_present present]
  cases snapshot.functions.function? function with
  | none => rfl
  | some native =>
    have counted : tally.count (.entered native) =
        ⟨tally.executed + 1, tally.calls + 1, tally.diagnostics⟩ := by
      simp [Tally.count, Verdict.calls, Verdict.diagnostics]
    dsimp only [carryOut]
    rw [counted, Op.perform_bind]
    rcases (enter native).perform world with ⟨failure | ⟨⟩, after⟩ <;> rfl

end Engine

/-! ## What is within reach -/

/-- A reference without a dot has no function part. A reference with a dot has two parts without a
dot, and behind them it ends or goes on with another dot; there are no other parts, whatever stands
behind them.

So an export can be reached by some program exactly when there is no dot in its name. A call of a
name without a dot and any function without a dot comes to that export: the engine reports that the
export lacks the function, or enters it. What is exported under a name with a dot bears on no item:
whatever stands there instead, the engine comes to the same verdict and carries it out. -/
theorem references_decompose_uniquely :
    (∀ reference, Reference.dot ∉ reference → Reference.split reference = (reference, none)) ∧
    (∀ reference, Reference.dot ∈ reference → ∃ module function,
      Reference.split reference = (module, some function) ∧
      Reference.dot ∉ module ∧ Reference.dot ∉ function ∧
      ∃ tail, (tail = [] ∨ ∃ more, tail = Reference.dot :: more) ∧
        reference = module ++ [Reference.dot] ++ function ++ tail) ∧
    (∀ module function tail : Text, Reference.dot ∉ module → Reference.dot ∉ function →
      (tail = [] ∨ ∃ more, tail = Reference.dot :: more) →
      Reference.split (module ++ [Reference.dot] ++ function ++ tail) =
        (module, some function)) ∧
    ∀ (engine : Engine) (name : Text),
      (∀ enter world snapshot, (world.exports.read engine.exports).get? name = some snapshot →
        ((∃ program, engine.Reaches enter program world name snapshot) ↔
          Reference.dot ∉ name)) ∧
      (Reference.dot ∉ name → ∀ function, Reference.dot ∉ function → ∀ index world snapshot,
        world.entries engine.exports name = some snapshot →
        engine.verdict index (.raw (.calling (name ++ [Reference.dot] ++ function))) world =
          match snapshot.functions.function? function with
          | none => .unknownFunction function snapshot.name
          | some native => .entered native) ∧
      (Reference.dot ∉ name → ∀ function, Reference.dot ∉ function →
        ∀ enter index tally world snapshot,
        world.entries engine.exports name = some snapshot →
        (engine.step enter index (.raw (.calling (name ++ [Reference.dot] ++ function)))
            tally).perform world =
          match snapshot.functions.function? function with
          | none =>
              (.ok (.goesOn ⟨tally.executed + 1, tally.calls,
                  tally.diagnostics ++ [.unknownFunction function]⟩),
                world.record [.logged (.unknownFunction function snapshot.name)])
          | some native =>
              (do enter native
                  return .goesOn ⟨tally.executed + 1, tally.calls + 1, tally.diagnostics⟩ :
                Op Progress).perform world) ∧
      (Reference.dot ∈ name → ∀ index item world other,
        (∀ module, module ≠ name →
          world.entries engine.exports module = other.entries engine.exports module) →
        engine.verdict index item world = engine.verdict index item other ∧
        ∀ enter tally, ∃ verdict,
          (engine.step enter index item tally).perform world =
            engine.carryOut enter verdict tally world ∧
          (engine.step enter index item tally).perform other =
            engine.carryOut enter verdict tally other) := by
  refine ⟨fun _ plain => Reference.split_eq_none_iff.mpr ⟨plain, rfl⟩, ?_, ?_, ?_⟩
  · intro reference dotted
    obtain ⟨module, function, parts⟩ := Reference.exists_parts dotted
    exact ⟨module, function, parts.split_eq, parts.plainModule, parts.plainFunction, parts.joined⟩
  · intro module function tail plain plainToo ends
    exact Reference.Parts.split_eq ⟨plain, plainToo, tail, ends, rfl⟩
  · intro engine name
    refine ⟨?_, ?_, ?_, ?_⟩
    · intro enter world snapshot exported
      exact ⟨fun ⟨program, reaches⟩ => reaches.plain,
        fun plain => ⟨_, Engine.reaches_calling plain exported⟩⟩
    · intro plain function plainToo index world snapshot present
      rw [Engine.verdict, Item.demand_calling plain plainToo]
      exact Engine.callVerdict_of_present present
    · intro plain function plainToo enter index tally world snapshot present
      exact Engine.perform_step_calling plain plainToo present tally
    · intro dotted index item world other alike
      have elsewhere : ∀ function, item.demand ≠ .call name function := by
        intro function demand
        obtain ⟨_, reference, -, -, -, parts⟩ := Item.demand_eq_call demand
        exact parts.plainModule dotted
      have same : engine.verdict index item world = engine.verdict index item other :=
        Engine.verdict_eq_of_entries_eq elsewhere alike
      refine ⟨same, fun enter tally => ⟨engine.verdict index item world,
        engine.perform_step enter index item tally world, ?_⟩⟩
      rw [same]
      exact engine.perform_step enter index item tally other

/-- One snapshot is exported under a name without a dot and under one with a dot. The first name is
within reach, and a call of it says hi or is reported. The second is not: a call that seems to name
it looks up what stands before its dot, and would do the same if nothing were exported there. -/
theorem references_decompose_uniquely_twice_exported :
    let greet : Native := ⟨0, .say (text "hi")⟩
    let exported : World :=
      { snapshots := Store.empty.allocate { functions := Table.empty.put (text "f") (some greet) }
        exports := Store.empty.allocate
          ((Table.empty.put (text "M") ⟨0⟩).put (text "M.f") ⟨0⟩) }
    let withdrawn : World :=
      { exported with exports := Store.empty.allocate (Table.empty.put (text "M") ⟨0⟩) }
    let engine : Engine := ⟨⟨0⟩, {}, none⟩
    let enter := Op.enterNative fun _ => pure ()
    Reference.split (text "M") = (text "M", none) ∧
      Reference.split (text "M" ++ [Reference.dot] ++ text "f" ++ text ".g.h") =
        (text "M", some (text "f")) ∧
      Reference.split ([] ++ [Reference.dot] ++ [] ++ text "..") = ([], some []) ∧
      (∃ module function, Reference.split (text "a..b") = (module, some function) ∧
        Reference.dot ∉ module ∧ Reference.dot ∉ function) ∧
      (∃ program, engine.Reaches enter program exported (text "M") ⟨0⟩) ∧
      (¬ ∃ program, engine.Reaches enter program exported (text "M.f") ⟨0⟩) ∧
      engine.verdict 0 (.raw (.calling (text "M" ++ [Reference.dot] ++ text "f"))) exported =
        .entered greet ∧
      (engine.step enter 0 (.raw (.calling (text "M" ++ [Reference.dot] ++ text "f")))
          {}).perform exported =
        (.ok (.goesOn ⟨1, 1, []⟩), exported.record [.wrote .stdout (text "hi" ++ [newline])]) ∧
      (engine.step enter 0 (.raw (.calling (text "M" ++ [Reference.dot] ++ text "g")))
          {}).perform exported =
        (.ok (.goesOn ⟨1, 0, [.unknownFunction (text "g")]⟩),
          exported.record [.logged (.unknownFunction (text "g") none)]) ∧
      engine.verdict 0 (.raw (.calling (text "M.f.f"))) exported =
        engine.verdict 0 (.raw (.calling (text "M.f.f"))) withdrawn ∧
      ∃ verdict,
        (engine.step enter 0 (.raw (.calling (text "M.f.f"))) {}).perform exported =
          engine.carryOut enter verdict {} exported ∧
        (engine.step enter 0 (.raw (.calling (text "M.f.f"))) {}).perform withdrawn =
          engine.carryOut enter verdict {} withdrawn := by
  intro greet exported withdrawn engine enter
  obtain ⟨plain, dotted, joined, reached⟩ := references_decompose_uniquely
  have noDot : Reference.dot ∉ text "M" ∧ Reference.dot ∉ text "f" := by decide
  have noDotToo : Reference.dot ∉ text "g" := by decide
  have hasDot : Reference.dot ∈ text "M.f" ∧ Reference.dot ∈ text "a..b" := by decide
  obtain ⟨module, function, parted, plainModule, plainFunction, -⟩ := dotted (text "a..b") hasDot.2
  obtain ⟨within, entered, stepped, -⟩ := reached engine (text "M")
  obtain ⟨beyond, -, -, heedless⟩ := reached engine (text "M.f")
  have alike : ∀ module, module ≠ text "M.f" →
      exported.entries engine.exports module = withdrawn.entries engine.exports module := by
    intro module different
    have elsewhere : ¬ text "M.f" = module := fun same => different same.symm
    change ((Table.put _ _ _).get? module).map _ = _
    rw [Table.get?_put, if_neg elsewhere]
    rfl
  refine ⟨plain (text "M") noDot.1, joined (text "M") (text "f") (text ".g.h") noDot.1 noDot.2
    (.inr ⟨text "g.h", rfl⟩), joined [] [] (text "..") nofun nofun (.inr ⟨text ".", rfl⟩),
    ⟨module, function, parted, plainModule, plainFunction⟩,
    (within enter exported ⟨0⟩ rfl).mpr noDot.1,
    fun reaches => (beyond enter exported ⟨0⟩ rfl).mp reaches hasDot.1, ?_, ?_, ?_, ?_⟩
  · exact entered noDot.1 (text "f") noDot.2 0 exported _ rfl
  · exact stepped noDot.1 (text "f") noDot.2 enter 0 {} exported _ rfl
  · exact stepped noDot.1 (text "g") noDotToo enter 0 {} exported _ rfl
  · obtain ⟨same, carried⟩ := heedless hasDot.1 0 (.raw (.calling (text "M.f.f"))) exported
      withdrawn alike
    exact ⟨same, carried enter {}⟩

end Switchboard
