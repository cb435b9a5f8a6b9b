import Switchboard.Proofs.Dotted
import Switchboard.Proofs.Walk
import Switchboard.Session

/-!
# Direct calls and calls by programs

A function of an exported module can be called by its host directly or by a program that names
it. The two resolve names by code of their own: `Op.perform_callDirect` and
`Op.perform_runProgram_call` say what each of them does with what a name leads to. They agree but
for a name without a function (`direct_and_programmed_calls_agree`).
-/

namespace Switchboard

/-- A value that calls a name. -/
def Value.calling (name : Text) : Value :=
  .object [(text "type", .string (text "call")), (text "name", .string name)]

/-- A program that calls a name and does nothing else. -/
def Program.calling (name : Text) : Program := [.raw (.calling name)]

/-- What a dotted name asks for when it is called. -/
theorem Value.demand_calling {name module function : Text}
    (parts : Reference.split name = (module, some function)) :
    (Item.raw (.calling name)).demand = .call module function := by
  have accepted : (Item.raw (.calling name)).accept =
      .ok ⟨text "call", .string name, .null, .null, []⟩ := rfl
  rw [Item.demand, accepted]
  simp [Instruction.demand, Instruction.isCall, parts]

namespace Op

/-- An operation and a value to return fail exactly as the operation does, and leave its world. -/
theorem perform_returning {α : Type} (operation : Op Unit) (value : α) (world : World) :
    (do operation; return value : Op α).perform world =
      ((operation.perform world).1.map fun _ => value, (operation.perform world).2) := by
  rw [perform_bind]
  rcases operation.perform world with ⟨failure | ⟨⟩, after⟩ <;> rfl

/-- A direct call enters the function that a name leads to. It passes over missing modules and
names, and a name without a function can not be called. -/
theorem perform_callDirect (enter : Enter) (host : HostRef) (module function : Text)
    (world : World) :
    (callDirect enter host module function).perform world =
      match world.entries (world.hosts.read host).exports module with
      | none => (.ok false, world)
      | some snapshot =>
          match snapshot.functions.get? function with
          | none => (.ok false, world)
          | some none => (.error .notCallable, world)
          | some (some native) => (do enter native; return true : Op Bool).perform world := by
  have found : (importExport host module).perform world =
      (.ok ((world.exports.read (world.hosts.read host).exports).get? module), world) := rfl
  rw [callDirect, perform_bind, found, World.entries]
  dsimp only
  cases (world.exports.read (world.hosts.read host).exports).get? module with
  | none => rfl
  | some ref =>
    dsimp only [Option.map_some]
    rw [perform_bind, perform_readSnapshot]
    dsimp only
    rcases (world.snapshots.read ref).functions.get? function with _ | _ | native <;> rfl

/-- A program that calls a name enters the function that the name leads to, and is counted as
a call when the function returns. All else is reported. -/
theorem perform_runProgram_call {item : Item} {module function : Text}
    (demand : item.demand = .call module function) (enter : Enter) (host : HostRef)
    (world : World) :
    (runProgram enter host [item]).perform world =
      match world.entries (world.hosts.read host).exports module with
      | none =>
          if (world.hosts.read host).reporting.unknownModules then
            (.ok (.completed ⟨1, 0, [.unknownModule module]⟩),
              world.record [.logged (.diagnosed (.unknownModule module))])
          else (.ok (.completed ⟨1, 0, []⟩), world.record [.logged (.skippedCall module)])
      | some snapshot =>
          match snapshot.functions.function? function with
          | none =>
              (.ok (.completed ⟨1, 0, [.unknownFunction function]⟩),
                world.record [.logged (.unknownFunction function snapshot.name)])
          | some native =>
              (do enter native; return .completed ⟨1, 1, []⟩ : Op RunResult).perform world := by
  let engine : Engine := ⟨(world.hosts.read host).exports, (world.hosts.read host).reporting,
    (world.hosts.read host).stream⟩
  have started : (runProgram enter host [item]).perform world =
      (engine.run enter [item]).perform world := rfl
  have verdict : engine.verdict 0 item world = engine.callVerdict module function world := by
    rw [Engine.verdict, demand]
  rw [started, Engine.perform_run, Engine.perform_runFrom_cons, verdict, Engine.callVerdict,
    World.entries]
  cases (world.exports.read (world.hosts.read host).exports).get? module with
  | none =>
    by_cases reported : (world.hosts.read host).reporting.unknownModules = true
    · simp only [engine, reported, if_true]
      rfl
    · simp only [engine, reported, Bool.false_eq_true, if_false]
      rfl
  | some ref =>
    dsimp only [Option.map_some]
    cases (world.snapshots.read ref).functions.function? function with
    | none => rfl
    | some native =>
      simp only [Engine.carryOut, perform_bind]
      rcases (enter native).perform world with ⟨failure | ⟨⟩, after⟩ <;> rfl

/-- A run that returns has completed. -/
theorem completed_of_runProgram {enter : Enter} {host : HostRef} {program : Program}
    {world after : World} {result : RunResult}
    (returned : (runProgram enter host program).perform world = (.ok result, after)) :
    result.report.state = .completed := by
  have ran : (Engine.run ⟨(world.hosts.read host).exports, (world.hosts.read host).reporting,
      (world.hosts.read host).stream⟩ enter program).perform world = (.ok result, after) := returned
  obtain ⟨tally, rfl, -⟩ := Engine.perform_run_eq_ok_iff.mp ran
  rfl

end Op

/-! ## What a name leads to -/

/-- A name is missing when its module is not exported or has no such name. -/
def Missing (exported : Option Snapshot) (function : Text) : Prop :=
  exported = none ∨ ∃ snapshot, exported = some snapshot ∧ snapshot.hasFunction function = false

/-- A name is missing, has no function, or has one. -/
theorem missing_or_vacant_or_bound (exported : Option Snapshot) (function : Text) :
    Missing exported function ∨
      (∃ snapshot, exported = some snapshot ∧ snapshot.functions.get? function = some none) ∨
      ∃ snapshot native, exported = some snapshot ∧
        snapshot.functions.get? function = some (some native) := by
  cases exported with
  | none => exact .inl (.inl rfl)
  | some snapshot =>
    rcases found : snapshot.functions.get? function with _ | _ | native
    · refine .inl (.inr ⟨snapshot, rfl, ?_⟩)
      rw [Snapshot.hasFunction, Table.contains, found]
      rfl
    · exact .inr (.inl ⟨snapshot, rfl, found⟩)
    · exact .inr (.inr ⟨snapshot, native, rfl, found⟩)

section

variable (enter : Enter) {host : HostRef} {world : World} {module function name : Text}
  {snapshot : Snapshot} {native : Native}
  (parts : Reference.split name = (module, some function))

include parts

theorem calls_of_bound
    (present : world.entries (world.hosts.read host).exports module = some snapshot)
    (bound : snapshot.functions.get? function = some (some native)) :
    (Op.callDirect enter host module function).perform world =
        (do enter native; return true : Op Bool).perform world ∧
      (Op.runProgram enter host (.calling name)).perform world =
        (do enter native; return .completed ⟨1, 1, []⟩ : Op RunResult).perform world := by
  have function? : snapshot.functions.function? function = some native := by
    rw [FunctionTable.function?, bound, Option.join_some]
  rw [Op.perform_callDirect, Program.calling,
    Op.perform_runProgram_call (Value.demand_calling parts), present]
  simp only [bound, function?, and_self]

theorem calls_of_missing
    (missing : Missing (world.entries (world.hosts.read host).exports module) function) :
    (Op.callDirect enter host module function).perform world = (.ok false, world) ∧
      ∃ result notice, (Op.runProgram enter host (.calling name)).perform world =
          (.ok result, world.record [.logged notice]) ∧
        result.report.state = .completed ∧ result.report.calls = 0 := by
  rw [Op.perform_callDirect, Program.calling,
    Op.perform_runProgram_call (Value.demand_calling parts)]
  rcases missing with unexported | ⟨snapshot, present, unnamed⟩
  · rw [unexported]
    refine ⟨rfl, ?_⟩
    dsimp only
    split
    · exact ⟨_, _, rfl, rfl, rfl⟩
    · exact ⟨_, _, rfl, rfl, rfl⟩
  · have absent : snapshot.functions.get? function = none := by
      rwa [Snapshot.hasFunction, Table.contains, Option.isSome_eq_false_iff,
        Option.isNone_iff_eq_none] at unnamed
    rw [present]
    simp only [absent, FunctionTable.function?, Option.join_none, true_and]
    exact ⟨_, _, rfl, rfl, rfl⟩

theorem calls_of_vacant
    (present : world.entries (world.hosts.read host).exports module = some snapshot)
    (vacant : snapshot.functions.get? function = some none) :
    (Op.callDirect enter host module function).perform world = (.error .notCallable, world) ∧
      ∃ result notice, (Op.runProgram enter host (.calling name)).perform world =
          (.ok result, world.record [.logged notice]) ∧
        result.report.state = .completed ∧ result.report.calls = 0 ∧
        result.report.diagnostics = [text "Unknown function: " ++ function] := by
  rw [Op.perform_callDirect, Program.calling,
    Op.perform_runProgram_call (Value.demand_calling parts), present]
  simp only [vacant, FunctionTable.function?, Option.join_some, true_and]
  exact ⟨_, _, rfl, rfl, rfl, rfl⟩

end

/-! ## Agreement -/

/-- A host that calls a function directly and one that runs a program with nothing but a call of
it do the same thing, for all module and function names without a dot and whatever it means to
enter a function.

* A function that is there is entered once by either, and what it raises passes through. The host
  answers that a function ran exactly when the run completes with one call.
* When the module is not exported or has no such name, the host answers that none ran, and nothing
  shows of it; the run leaves no more than one log record and completes without a call.
* Only when the name has no function do they come to different ends: the host can not call it, and
  the run reports an unknown function.

What stands behind a second dot makes no difference to the program. -/
theorem direct_and_programmed_calls_agree (enter : Enter) (host : HostRef) (world : World)
    {module function : Text} (plain : Reference.dot ∉ module)
    (plainToo : Reference.dot ∉ function) :
    let direct := (Op.callDirect enter host module function).perform world
    let programmed (name : Text) := (Op.runProgram enter host (.calling name)).perform world
    let name := module ++ Reference.dot :: function
    let exported := world.entries (world.hosts.read host).exports module
    (∀ snapshot native, exported = some snapshot →
      snapshot.functions.get? function = some (some native) →
        direct = (do enter native; return true : Op Bool).perform world ∧
        programmed name =
          (do enter native; return .completed ⟨1, 1, []⟩ : Op RunResult).perform world ∧
        direct.2 = (programmed name).2 ∧
        ∀ failure, ((enter native).perform world).1 = .error failure →
          direct.1 = .error failure ∧ (programmed name).1 = .error failure) ∧
    (exported = none ∨ (∃ snapshot, exported = some snapshot ∧
        snapshot.hasFunction function = false) →
      direct = (.ok false, world) ∧
      ∃ result notice, programmed name = (.ok result, world.record [.logged notice]) ∧
        result.report.state = .completed ∧ result.report.calls = 0) ∧
    (∀ snapshot, exported = some snapshot → snapshot.functions.get? function = some none →
      direct = (.error .notCallable, world) ∧
      ∃ result notice, programmed name = (.ok result, world.record [.logged notice]) ∧
        result.report.state = .completed ∧ result.report.calls = 0 ∧
        result.report.diagnostics = [text "Unknown function: " ++ function]) ∧
    (direct.1 = .ok true ↔ ∃ result, (programmed name).1 = .ok result ∧
      result.report.state = .completed ∧ result.report.calls = 1) ∧
    (direct.1 = (programmed name).1.map (fun result => decide (result.report.calls = 1)) ↔
      ∀ snapshot, exported = some snapshot → snapshot.functions.get? function ≠ some none) ∧
    ∀ more, programmed (name ++ Reference.dot :: more) = programmed name := by
  intro direct programmed name exported
  have parts : Reference.split name = (module, some function) := by
    have whole : Reference.split (module ++ Reference.dot :: (function ++ [])) = _ :=
      Reference.split_dotted plain plainToo nofun
    rwa [List.append_nil] at whole
  -- The two answers side by side, for a name that is not without a function.
  have answers : (∀ snapshot, exported = some snapshot →
      snapshot.functions.get? function ≠ some none) →
      direct.1 = (programmed name).1.map fun result => decide (result.report.calls = 1) := by
    intro filled
    rcases missing_or_vacant_or_bound exported function with
      missing | ⟨snapshot, present, vacant⟩ | ⟨snapshot, native, present, bound⟩
    · obtain ⟨called, result, notice, ran, -, calls⟩ := calls_of_missing enter parts missing
      rw [show direct = _ from called, show programmed name = _ from ran, Except.map, calls]
      rfl
    · exact absurd vacant (filled snapshot present)
    · obtain ⟨called, ran⟩ := calls_of_bound enter parts present bound
      rw [show direct = _ from called, show programmed name = _ from ran, Op.perform_returning,
        Op.perform_returning]
      cases ((enter native).perform world).1 <;> rfl
  refine ⟨?_, calls_of_missing enter parts, fun snapshot => calls_of_vacant enter parts, ?_, ?_, ?_⟩
  · intro snapshot native present bound
    obtain ⟨called, ran⟩ := calls_of_bound enter parts present bound
    refine ⟨called, ran, ?_, ?_⟩
    · rw [show direct = _ from called, show programmed name = _ from ran, Op.perform_returning,
        Op.perform_returning]
    · intro failure raised
      rw [show direct = _ from called, show programmed name = _ from ran, Op.perform_returning,
        Op.perform_returning, raised]
      exact ⟨rfl, rfl⟩
  · by_cases vacant : ∃ snapshot, exported = some snapshot ∧
        snapshot.functions.get? function = some none
    · obtain ⟨snapshot, present, vacant⟩ := vacant
      obtain ⟨called, other, notice, ran, -, none, -⟩ := calls_of_vacant enter parts present vacant
      rw [show direct = _ from called, show programmed name = _ from ran]
      refine iff_of_false nofun ?_
      rintro ⟨result, ⟨⟩, -, calls⟩
      omega
    · rw [answers fun snapshot present found => vacant ⟨snapshot, present, found⟩]
      rcases performed : programmed name with ⟨failure | result, after⟩
      · exact iff_of_false nofun nofun
      · have completed := Op.completed_of_runProgram performed
        simp [Except.map, completed]
  · constructor
    · intro same snapshot present vacant
      obtain ⟨called, result, notice, ran, -⟩ := calls_of_vacant enter parts present vacant
      rw [show direct = _ from called, show programmed name = _ from ran] at same
      cases same
    · exact answers
  · intro more
    have partsToo : Reference.split (name ++ Reference.dot :: more) = (module, some function) := by
      rw [List.append_assoc, List.cons_append]
      exact Reference.split_dotted plain plainToo (by simp)
    exact (Op.perform_runProgram_call (Value.demand_calling partsToo) enter host world).trans
      (Op.perform_runProgram_call (Value.demand_calling parts) enter host world).symm

/-- An exported module with a function that prints and then fails, and with a name that has no
function. -/
theorem direct_and_programmed_calls_agree_raising :
    let around : Surroundings := ⟨⟨fun _ => .error .notFound⟩, ⟨[]⟩⟩
    let fails : Body := [(none, .print (text "hi")), (none, .raise .value (text "stop"))]
    let functions : FunctionTable :=
      (Table.empty.put (text "f") (some ⟨0, .script fails⟩)).put (text "g") none
    let world : World :=
      { snapshots := Store.empty.allocate { name := some (text "m"), functions }
        exports := Store.empty.allocate (Table.empty.put (text "M") ⟨0⟩)
        hosts := Store.empty.allocate { exports := ⟨0⟩ } }
    let enter := Op.enterNative (Op.runBody around 1)
    let direct (name : Text) := (Op.callDirect enter ⟨0⟩ (text "M") name).perform world
    let programmed (name : Text) := (Op.runProgram enter ⟨0⟩ (.calling name)).perform world
    Reference.dot ∉ text "M" ∧ Reference.dot ∉ text "f" ∧ Reference.dot ∉ text "g" ∧
      (direct (text "f")).1 = .error (.raised .value (text "stop")) ∧
      (programmed (text "M.f")).1 = .error (.raised .value (text "stop")) ∧
      (direct (text "f")).2 = (programmed (text "M.f")).2 ∧
      (direct (text "g")).1 = .error .notCallable ∧
      programmed (text "M.g.h") = programmed (text "M.g") ∧
      ∃ result notice, programmed (text "M.g") = (.ok result, world.record [.logged notice]) ∧
        result.report.diagnostics = [text "Unknown function: g"] := by
  intro around fails functions world enter direct programmed
  have noDot : Reference.dot ∉ text "M" ∧ Reference.dot ∉ text "f" ∧ Reference.dot ∉ text "g" := by
    decide
  obtain ⟨inModule, inF, inG⟩ := noDot
  have nameF : text "M" ++ Reference.dot :: text "f" = text "M.f" := rfl
  have nameG : text "M" ++ Reference.dot :: text "g" = text "M.g" := rfl
  have agreeF := direct_and_programmed_calls_agree enter ⟨0⟩ world inModule inF
  have agreeG := direct_and_programmed_calls_agree enter ⟨0⟩ world inModule inG
  rw [nameF] at agreeF
  rw [nameG] at agreeG
  obtain ⟨bound, -⟩ := agreeF
  obtain ⟨-, -, vacant, -, -, longer⟩ := agreeG
  have present : world.entries (world.hosts.read ⟨0⟩).exports (text "M") =
      some (world.snapshots.read ⟨0⟩) := rfl
  have defined : (world.snapshots.read ⟨0⟩).functions.get? (text "f") =
      some (some ⟨0, .script fails⟩) := rfl
  obtain ⟨-, -, same, passesOn⟩ := bound _ _ present defined
  obtain ⟨raised, raisedToo⟩ := passesOn (.raised .value (text "stop")) rfl
  obtain ⟨called, result, notice, ran, -, -, diagnostics⟩ := vacant _ present rfl
  have longerG := longer (text "h")
  have nameH : text "M.g" ++ Reference.dot :: text "h" = text "M.g.h" := rfl
  rw [nameH] at longerG
  exact ⟨inModule, inF, inG, raised, raisedToo, same, congrArg Prod.fst called, longerG, result,
    notice, ran, diagnostics⟩

end Switchboard
