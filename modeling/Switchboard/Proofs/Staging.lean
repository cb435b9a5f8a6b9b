import Mathlib
import Switchboard.CommandLine
import Switchboard.Proofs.Loading
import Switchboard.Proofs.Provenance

/-!
# The stages of a run from the command line

A run goes through its stages in order: the program file, the plugins one by one, the program.
`Loads` is the stage in the middle when every plugin loads. Each stage that fails ends the call
where it stands, and a call that comes through all of them has the status that the summary of
the program foretells, whatever the flags (`run_goes_through_stages`). A load error and an error of
a plugin are reported; any other failure to load the program is left to whoever made the call.
-/

namespace Switchboard

/-! ## What the summary foretells -/

/-- The status of a program whose functions return, as its summary tells it: the code of the
first exit, or zero when there is none. -/
inductive Foretold (program : Program) : Int → Prop where
  | zero (exitless : (Summary.ofProgram program).exitsAt = none) : Foretold program 0
  | code {place : Nat} {item : Item} {instruction : Instruction}
      (exitsAt : (Summary.ofProgram program).exitsAt = some place)
      (found : program[place]? = some item) (accepted : item.accept = .ok instruction)
      (isExit : instruction.isExit = true)
      (first : ∀ earlier, earlier < place → ∀ other passed, program[earlier]? = some other →
        other.accept = .ok passed → passed.isExit = false) :
      Foretold program instruction.exitCode

/-- A program has one status only. -/
theorem Foretold.unique {program : Program} {first second : Int} (foretold : Foretold program first)
    (foretoldToo : Foretold program second) : first = second := by
  cases foretold with
  | zero exitless =>
    cases foretoldToo with
    | zero => rfl
    | code exitsAt => exact nomatch exitless.symm.trans exitsAt
  | code exitsAt found accepted =>
    cases foretoldToo with
    | zero exitless => exact nomatch exitless.symm.trans exitsAt
    | code exitsAtToo foundToo acceptedToo =>
      cases exitsAt.symm.trans exitsAtToo
      cases found.symm.trans foundToo
      cases accepted.symm.trans acceptedToo
      rfl

/-- An accepted exit instruction demands an exit. -/
theorem Item.exits_of_isExit {item : Item} {instruction : Instruction}
    (accepted : item.accept = .ok instruction) (isExit : instruction.isExit = true) :
    item.demand.exits = true := by
  have kind : instruction.kind = text "jexit" := by simpa [Instruction.isExit] using isExit
  have notCall : instruction.isCall = false := by
    rw [Instruction.isCall, kind]
    decide
  simp [Item.demand, accepted, Instruction.demand, notCall, isExit, Demand.exits]

/-- What was predicted of a result is what the summary foretells of its status. -/
theorem Predicts.foretold {program : Program} {result : RunResult}
    (predicts : Predicts program 0 program.firstExit? result) :
    Foretold program (result.exitCode.getD 0) := by
  have exitsAt := (Summary.ofProgram_demands program).2.1
  generalize first : program.firstExit? = foreseen at predicts exitsAt
  cases predicts with
  | completes => exact .zero exitsAt
  | exits found demand =>
    obtain ⟨instruction, accepted, isExit, rfl⟩ := Item.demand_eq_exit demand
    refine .code exitsAt found accepted isExit ?_
    intro earlier before other passed foundToo acceptedToo
    obtain ⟨_, -, stays⟩ := List.findIdx?_eq_some_iff_getElem.mp first
    obtain ⟨inside, rfl⟩ := List.getElem?_eq_some_iff.mp foundToo
    refine Bool.eq_false_iff.mpr fun exits => ?_
    exact stays earlier before (Item.exits_of_isExit acceptedToo exits)

namespace CommandLine

/-! ## Calls that ask for a run -/

/-- The flags of a run. -/
structure RunFlags where
  json : Bool
  reportUnknownModules : Bool
  verbose : Bool

namespace RunFlags

/-- The run that is asked for. -/
def request (flags : RunFlags) (path : Text) (plugins : List Text) : Request :=
  .run path plugins flags.reportUnknownModules flags.json

/-- The call that asks for a run. -/
def call (flags : RunFlags) (path : Text) (plugins : List Text) : Call :=
  ⟨flags.request path plugins, flags.verbose⟩

/-- What stands behind the name of the command, in one spelling. -/
def operands (flags : RunFlags) (path : Text) (plugins : List Text) : List Text :=
  plugins.flatMap (fun plugin => [text "--plugin", plugin]) ++
    (if flags.reportUnknownModules then [text "--report-unknown-modules"] else []) ++
    (if flags.json then [text "--json"] else []) ++ [endOfOptions, path]

/-- The call in one spelling. -/
def arguments (flags : RunFlags) (path : Text) (plugins : List Text) : List Text :=
  (if flags.verbose then [text "--verbose"] else []) ++ text "run" :: flags.operands path plugins

/-- What the host of the run reports. -/
def reporting (flags : RunFlags) : Reporting := ⟨flags.reportUnknownModules, !flags.json⟩

/-- Where the host of the run prints. -/
def stream (flags : RunFlags) : Option Stream := if flags.json then some .stderr else none

/-- The world in which the host of the run has just been made. -/
def opening (flags : RunFlags) : World :=
  { exports := Store.empty.allocate .empty
    hosts := Store.empty.allocate ⟨⟨0⟩, flags.reporting, flags.stream, none⟩ }

end RunFlags

/-- The host of a run. -/
def runHost : HostRef := ⟨0⟩

theorem perform_newHost_opening (flags : RunFlags) :
    (Op.newHost none flags.reporting flags.stream).perform {} = (.ok runHost, flags.opening) := rfl

/-- Plugins are read in order. -/
theorem readArguments_plugins (plugins rest : List Text) (read : Arguments) :
    readArguments Command.run.options true
        (plugins.flatMap (fun plugin => [text "--plugin", plugin]) ++ rest) read =
      readArguments Command.run.options true rest
        { read with options := read.options ++ plugins.map (Switch.plugin, ·) } := by
  induction plugins generalizing read with
  | nil => simp
  | cons plugin others inductionHypothesis =>
    have understood : readOption Command.run.options (text "--plugin") =
        .ok (.pending [] .plugin (text "--plugin")) := rfl
    rw [List.flatMap_cons, List.cons_append, List.cons_append, readArguments,
      if_neg (by decide), if_pos (by decide), understood]
    simp [inductionHypothesis]

/-- A flag is read if it is given. -/
theorem readArguments_flag {switch : Switch} {word : Text} (long : word ≠ endOfOptions)
    (dashed : [dash].isPrefixOf word ∧ 1 < word.length)
    (understood : readOption Command.run.options word = .ok (.options [(switch, [])]))
    (given : Bool) (rest : List Text) (read : Arguments) :
    readArguments Command.run.options true ((if given then [word] else []) ++ rest) read =
      readArguments Command.run.options true rest
        { read with options := read.options ++ if given then [(switch, [])] else [] } := by
  cases given with
  | false => simp
  | true =>
    rw [if_pos rfl, List.singleton_append, readArguments, if_neg long, if_pos dashed, understood]
    simp

/-- The options of a run. -/
def RunFlags.switches (flags : RunFlags) (plugins : List Text) : List (Switch × Text) :=
  plugins.map (Switch.plugin, ·) ++
    (if flags.reportUnknownModules then [(.reportUnknownModules, [])] else []) ++
    if flags.json then [(.json, [])] else []

/-- The arguments of a run are its options and its program. -/
theorem readFor_operands (flags : RunFlags) (path : Text) (plugins : List Text) :
    readFor .run (flags.operands path plugins) = .ok ⟨flags.switches plugins, [path]⟩ := by
  have unknown : readOption Command.run.options (text "--report-unknown-modules") =
      .ok (.options [(.reportUnknownModules, [])]) := rfl
  have json : readOption Command.run.options (text "--json") = .ok (.options [(.json, [])]) := rfl
  have interspersed : Command.run.interspersed = true := rfl
  rw [readFor, interspersed, RunFlags.operands, List.append_assoc, List.append_assoc,
    readArguments_plugins, readArguments_flag (by decide) (by decide) unknown,
    readArguments_flag (by decide) (by decide) json, readArguments, if_pos rfl]
  rfl

/-- The options of a run are the ones that were given. -/
theorem has_switches (flags : RunFlags) (plugins operands : List Text) :
    let read : Arguments := ⟨flags.switches plugins, operands⟩
    read.has .help = false ∧ read.has .reportUnknownModules = flags.reportUnknownModules ∧
      read.has .json = flags.json ∧ read.values .plugin = plugins := by
  obtain ⟨_ | _, _ | _, _⟩ := flags <;>
    simp [Arguments.has, Arguments.values, RunFlags.switches, List.filter_map, Function.comp_def]

/-- The group reads its own flag and leaves the rest to the command. -/
theorem readFor_arguments (flags : RunFlags) (path : Text) (plugins : List Text) :
    readFor .group (flags.arguments path plugins) =
      .ok ⟨if flags.verbose then [(.verbose, [])] else [],
        text "run" :: flags.operands path plugins⟩ := by
  have interspersed : Command.group.interspersed = false := rfl
  have verbose : readOption Command.group.options (text "--verbose") =
      .ok (.options [(.verbose, [])]) := rfl
  have command : ∀ read, readArguments Command.group.options false
      (text "run" :: flags.operands path plugins) read =
      .ok (read.addOperands (text "run" :: flags.operands path plugins)) := by
    intro read
    rw [readArguments, if_neg (by decide), if_neg (by decide), if_neg Bool.false_ne_true]
  rw [readFor, interspersed, RunFlags.arguments]
  cases flags.verbose with
  | false => rw [if_neg Bool.false_ne_true, List.nil_append, command]; rfl
  | true =>
    rw [if_pos rfl, List.singleton_append, readArguments, if_neg (by decide), if_pos (by decide),
      verbose]
    simp only [command]
    rfl

/-- A call with these arguments asks for the run, if there is a file to run. -/
theorem callOf_arguments {files : FileSystem} {path : Text} {octets : List UInt8}
    (readable : files.lookup path = .ok (.file octets)) (flags : RunFlags) (plugins : List Text) :
    callOf files (flags.arguments path plugins) = .ok (flags.call path plugins) := by
  have asked : requestOf files .run (flags.operands path plugins) =
      .ok (flags.request path plugins) := by
    obtain ⟨help, unknown, json, values⟩ := has_switches flags plugins [path]
    rw [requestOf, readFor_operands]
    simp only [bind, Except.bind, help, programFile, readable, unknown, json, values]
    rfl
  have given : (flags.arguments path plugins).isEmpty = false := by
    cases verbose : flags.verbose <;> simp [RunFlags.arguments, verbose]
  have named : Command.named.find? (fun command => decide (command.1 = text "run")) =
      some (text "run", .run) := rfl
  simp only [callOf, given, readFor_arguments, bind, Except.bind, named, asked, RunFlags.call]
  cases flags.verbose <;> rfl

/-! ## The stages -/

/-- Load one plugin for a host. -/
def load (around : Surroundings) (host : HostRef) (plugin : Text) : Op Unit :=
  Op.loadPlugin around.plugins (Op.runBody around Op.maxDepth) host plugin

/-- Plugins load one after another, each from the world that the one before it left. -/
inductive Loads (around : Surroundings) (host : HostRef) : List Text → World → World → Prop where
  | nil {world : World} : Loads around host [] world world
  | cons {plugin : Text} {rest : List Text} {world between after : World}
      (loaded : (load around host plugin).perform world = (.ok (), between))
      (others : Loads around host rest between after) :
      Loads around host (plugin :: rest) world after

/-- An operation whose outcome is known leaves what it leaves. -/
theorem perform_of_outcome {α : Type} {operation : Op α} {world : World}
    {outcome : Except Failure α} (ended : (operation.perform world).1 = outcome) :
    operation.perform world = (outcome, (operation.perform world).2) :=
  Prod.ext ended rfl

theorem Loads.cons_of_ok {around : Surroundings} {host : HostRef} {plugin : Text}
    {rest : List Text} {world after : World}
    (returned : ((load around host plugin).perform world).1 = .ok ())
    (others : Loads around host rest ((load around host plugin).perform world).2 after) :
    Loads around host (plugin :: rest) world after :=
  .cons (perform_of_outcome returned) others

/-- What stands behind plugins that load begins in the world that they leave. -/
theorem Loads.perform_loadPlugins {around : Surroundings} {host : HostRef}
    {early : List Text} {world between : World} (loads : Loads around host early world between)
    (late : List Text) :
    (loadPlugins around host (early ++ late)).perform world =
      (loadPlugins around host late).perform between := by
  induction loads with
  | nil => rfl
  | cons loaded _ inductionHypothesis =>
    rw [List.cons_append, loadPlugins, Op.perform_bind, Op.perform_tryCatch, Op.perform_bind,
      ← load, loaded]
    exact inductionHypothesis

/-- A plugin that fails to load ends the loading there, and an error of its own is reported. -/
theorem perform_loadPlugins_failing {around : Surroundings} {host : HostRef} {failing : Text}
    {world after : World} {error : PluginError}
    (failed : (load around host failing).perform world = (.error (.plugin error), after))
    (late : List Text) :
    (loadPlugins around host (failing :: late)).perform world =
      (.ok (.reported error.message), after) := by
  rw [loadPlugins, Op.perform_bind, Op.perform_tryCatch, Op.perform_bind, ← load, failed]
  rfl

/-- The result that a run came to, at the end of its program or at an exit of its own. -/
def resultOf : Except Failure RunResult → Option RunResult
  | .ok result => some result
  | .error (.exit _ result) => result
  | .error _ => none

/-- What is printed of the result of a run. -/
def documents (json : Bool) (outcome : Except Failure RunResult) : List Event :=
  if json then
    (resultOf outcome).toList.map fun result =>
      .wrote .stdout (Json.write result.report.toValue ++ [newline])
  else []

/-- The last stage runs the program once and prints nothing but its result. -/
theorem perform_runInstructions (around : Surroundings) (host : HostRef) (items : List Value)
    (json : Bool) (world : World) :
    let ran := (Op.runProgram (around.enter Op.maxDepth) host (.ofValues items)).perform world
    (runInstructions around host items json).perform world =
      (ran.1.map fun _ => .done, ran.2.record (documents json ran.1)) := by
  intro ran
  rw [runInstructions, Op.perform_bind, Op.perform_tryCatch, ← Surroundings.enter]
  rcases performed :
    (Op.runProgram (around.enter Op.maxDepth) host (.ofValues items)).perform world with
      ⟨failure | result, after⟩
  · have ended : ran = (.error failure, after) := performed
    rw [ended]
    -- the handler prints the result of an exit and nothing of any other failure
    cases failure with
    | exit code result =>
      cases result with
      | none => cases json <;> simp [documents, resultOf, Except.map]
      | some result =>
        cases json with
        | false => simp [documents, Except.map]
        | true => rfl
    | _ => cases json <;> simp [documents, resultOf, Except.map]
  · have ended : ran = (.ok result, after) := performed
    rw [ended]
    cases json with
    | false => simp [documents, Except.map]
    | true => rfl

/-- The engine of a host in a world. -/
def engineOf (world : World) (host : HostRef) : Engine :=
  ⟨(world.hosts.read host).exports, (world.hosts.read host).reporting,
    (world.hosts.read host).stream⟩

/-- A run for a host is a run of its engine. -/
theorem perform_runProgram (enter : Enter) (host : HostRef) (program : Program) (world : World) :
    (Op.runProgram enter host program).perform world =
      ((engineOf world host).run enter program).perform world := by
  rw [Op.runProgram, Op.perform_bind]
  rfl

/-! ## A run from stage to stage -/

section

variable {around : Surroundings} {path : Text} {plugins : List Text} {items : List Value}

/-- A failure that leaves a request without ending the process is all that comes of it. -/
theorem outcomeOf_error {failure : Failure} (stays : failure.endsProcess = false)
    (verbose : Bool) (world : World) :
    outcomeOf verbose (.error failure, world) =
      { status := .int 1
        stdout := Event.written .stdout world.trace
        stderr := errorText verbose world.trace
        failure := some failure
        events := world.trace } := by
  cases failure with
  | exit => cases stays
  | raised kind =>
    cases kind with
    | processExit => cases stays
    | runtime | value | type | importing | operatingSystem => rfl
  | _ => rfl

/-- Behind the program file comes the host, then the plugins and then the program. -/
theorem perform_carryOut_loaded (loaded : Program.load around.files path = .ok items)
    (flags : RunFlags) :
    (carryOut around (flags.request path plugins)).perform {} =
      match (loadPlugins around runHost plugins).perform flags.opening with
      | (.ok .done, after) => (runInstructions around runHost items flags.json).perform after
      | (.ok (.reported message), after) => (.ok (.reported message), after)
      | (.error failure, after) => (.error failure, after) := by
  have made := perform_newHost_opening flags
  rw [RunFlags.request, carryOut, withProgram, loaded]
  simp only [RunFlags.reporting, RunFlags.stream] at made
  simp only [Op.perform_bind, made]
  rcases (loadPlugins around runHost plugins).perform flags.opening with
    ⟨failure | ⟨⟩ | message, after⟩ <;> rfl

/-- A plugin with an error ends the run in the world that it leaves. -/
theorem perform_carryOut_failing (loaded : Program.load around.files path = .ok items)
    {flags : RunFlags} {early : List Text} {failing : Text} {between after : World}
    {error : PluginError} (loads : Loads around runHost early flags.opening between)
    (failed : (load around runHost failing).perform between = (.error (.plugin error), after))
    (late : List Text) :
    (carryOut around (flags.request path (early ++ failing :: late))).perform {} =
      (.ok (.reported error.message), after) := by
  rw [perform_carryOut_loaded loaded, loads.perform_loadPlugins,
    perform_loadPlugins_failing failed]

/-- When all plugins load, the rest of the run is the program. -/
theorem perform_carryOut_running (loaded : Program.load around.files path = .ok items)
    {flags : RunFlags} {world : World} (loads : Loads around runHost plugins flags.opening world) :
    let ran := (Op.runProgram (around.enter Op.maxDepth) runHost (.ofValues items)).perform world
    (carryOut around (flags.request path plugins)).perform {} =
      (ran.1.map fun _ => .done, ran.2.record (documents flags.json ran.1)) := by
  have through := loads.perform_loadPlugins []
  rw [List.append_nil] at through
  rw [perform_carryOut_loaded loaded, through]
  exact perform_runInstructions around runHost items flags.json world

/-- A call that asks for a run has the outcome of carrying it out. -/
theorem execute_run {arguments : List Text} {flags : RunFlags}
    (asked : callOf around.files arguments = .ok (flags.call path plugins)) :
    execute around arguments =
      outcomeOf flags.verbose ((carryOut around (flags.request path plugins)).perform {}) := by
  rw [execute, asked]
  rfl

end

/-- All plugins of a run load, and every function that its program then enters returns. -/
def RunsThrough (around : Surroundings) (flags : RunFlags) (plugins : List Text)
    (program : Program) : Prop :=
  ∃ loaded, Loads around runHost plugins flags.opening loaded ∧
    (engineOf loaded runHost).NativesReturn (around.enter Op.maxDepth) program loaded

/-- A run whose plugins load and whose functions return has the status that the summary
foretells. -/
theorem RunsThrough.status {around : Surroundings} {path : Text} {plugins : List Text}
    {items : List Value} {flags : RunFlags} {arguments : List Text}
    (runs : RunsThrough around flags plugins (.ofValues items))
    (loaded : Program.load around.files path = .ok items)
    (asked : callOf around.files arguments = .ok (flags.call path plugins)) :
    ∃ code, (execute around arguments).status = .int code ∧
      Foretold (.ofValues items) code := by
  obtain ⟨world, loads, returns⟩ := runs
  obtain ⟨result, after, concluded, walked⟩ := Engine.run_of_nativesReturn returns
  refine ⟨result.exitCode.getD 0, ?_, (walked.predicted rfl).foretold⟩
  rw [execute_run asked, perform_carryOut_running loaded loads, perform_runProgram, concluded]
  cases result with
  | completed tally => rfl
  | exited code tally => rfl

/-- A run goes through its stages in order, and each of them ends the run when it fails. A program
that does not load is all that there is: nothing is imported, no function entered and nothing shown.
A load error is reported, and any other failure leaves the call as it is. Then the plugins load in
the order in which they are given, up to the first with an error, which is reported in the world
that it leaves. When all of them load, the program is run once by the host that they were given; if
its functions return, the status is the one that the summary foretells. That is so for every
combination of the flags, all of which can be asked for. -/
theorem run_goes_through_stages (around : Surroundings) (path : Text) (octets : List UInt8)
    (plugins : List Text) (readable : around.files.lookup path = .ok (.file octets)) :
    (∀ flags : RunFlags, callOf around.files (flags.arguments path plugins) =
      .ok (flags.call path plugins)) ∧
    (∀ arguments, ∀ flags : RunFlags,
      callOf around.files arguments = .ok (flags.call path plugins) →
      let staged := carryOut around (flags.request path plugins)
      let outcome := execute around arguments
      (∀ error, Program.load around.files path = .error (.load error) →
        staged = pure (.reported error.message) ∧
        outcome = { status := .int 1, stderr := errorLine error.message }) ∧
      (∀ failure, Program.load around.files path = .error failure →
        (∀ error, failure ≠ .load error) →
        staged = throw failure ∧ outcome = { status := .int 1, failure := some failure }) ∧
      ∀ items, Program.load around.files path = .ok items →
        (∀ early failing late between error after, plugins = early ++ failing :: late →
          Loads around runHost early flags.opening between →
          (load around runHost failing).perform between = (.error (.plugin error), after) →
          staged.perform {} = (.ok (.reported error.message), after) ∧
          outcome =
            { status := .int 1
              stdout := Event.written .stdout after.trace
              stderr := errorText flags.verbose after.trace ++ errorLine error.message
              events := after.trace }) ∧
        ∀ loaded, Loads around runHost plugins flags.opening loaded →
          let program := Program.ofValues items
          let ran := (Op.runProgram (around.enter Op.maxDepth) runHost program).perform loaded
          staged.perform {} =
            (ran.1.map fun _ => .done, ran.2.record (documents flags.json ran.1)) ∧
          ((engineOf loaded runHost).NativesReturn (around.enter Op.maxDepth) program loaded →
            ∃ code, outcome.status = .int code ∧ Foretold program code)) ∧
    ∀ items, Program.load around.files path = .ok items →
      ∀ arguments argumentsToo, ∀ flags flagsToo : RunFlags,
        callOf around.files arguments = .ok (flags.call path plugins) →
        callOf around.files argumentsToo = .ok (flagsToo.call path plugins) →
        RunsThrough around flags plugins (.ofValues items) →
        RunsThrough around flagsToo plugins (.ofValues items) →
        (execute around arguments).status = (execute around argumentsToo).status := by
  refine ⟨fun flags => callOf_arguments readable flags plugins, ?_, ?_⟩
  · intro arguments flags asked staged outcome
    refine ⟨fun error refused => ?_, fun failure failed other => ?_,
      fun items loaded => ⟨?_, ?_⟩⟩
    · have reported : staged = pure (.reported error.message) :=
        carryOut_of_load_error rfl refused
      refine ⟨reported, (execute_run asked).trans ?_⟩
      rw [show carryOut around (flags.request path plugins) = _ from reported]
      rfl
    · have thrown : staged = throw failure := carryOut_unloaded rfl failed other
      refine ⟨thrown, (execute_run asked).trans ?_⟩
      rw [show carryOut around (flags.request path plugins) = _ from thrown]
      exact outcomeOf_error (Op.load_endsProcess failed) flags.verbose {}
    · rintro early failing late between error after rfl loads failed
      have reported := perform_carryOut_failing loaded loads failed late
      refine ⟨reported, (execute_run asked).trans ?_⟩
      rw [reported]
      rfl
    · intro world loads program ran
      refine ⟨perform_carryOut_running loaded loads, fun returns => ?_⟩
      exact RunsThrough.status ⟨world, loads, returns⟩ loaded asked
  · intro items loaded arguments argumentsToo flags flagsToo asked askedToo runs runsToo
    obtain ⟨code, status, foretold⟩ := runs.status loaded asked
    obtain ⟨codeToo, statusToo, foretoldToo⟩ := runsToo.status loaded askedToo
    rw [status, statusToo, foretold.unique foretoldToo]

/-- What is reported of a plugin that can not be registered. -/
theorem errorLine_unregistered :
    errorLine (PluginError.message ⟨text "b", text "has no register(context) function"⟩) =
      text "Error: Plugin 'b': has no register(context) function\n" := by
  cbv

/-- Plugins are not loaded whenever the program fails otherwise than with a load error. Behind an
octet that begins no text a plugin that offers nothing is not reported, though loading it fails with
an error that would be; the failure of the program is all that there is. -/
theorem plugins_wait_for_program :
    let around : Surroundings := ⟨⟨fun _ => .ok (.file [0xFF])⟩, ⟨[(text "b", {})]⟩⟩
    let flags : RunFlags := ⟨false, false, false⟩
    let error : PluginError := ⟨text "b", text "has no register(context) function"⟩
    let outcome := execute around (flags.arguments (text "p") [text "b"])
    around.files.lookup (text "p") = .ok (.file [0xFF]) ∧
      (∀ error, Program.load around.files (text "p") ≠ .error (.load error)) ∧
      ((load around runHost (text "b")).perform flags.opening).1 = .error (.plugin error) ∧
      errorLine error.message =
        text "Error: Plugin 'b': has no register(context) function\n" ∧
      outcome.status = .int 1 ∧ outcome.stderr = [] ∧
      outcome.failure = some (.undecodable ⟨0, 0xFF, 1, .invalidStart⟩) := by
  intro around flags error outcome
  have failed : Program.load around.files (text "p") =
      .error (.undecodable ⟨0, 0xFF, 1, .invalidStart⟩) := by cbv
  have readable : around.files.lookup (text "p") = .ok (.file [0xFF]) := rfl
  have thrown : carryOut around (flags.request (text "p") [text "b"]) = throw _ :=
    carryOut_unloaded rfl failed (fun _ => Failure.noConfusion)
  have whole : outcome =
      { status := .int 1, failure := some (.undecodable ⟨0, 0xFF, 1, .invalidStart⟩) } := by
    refine (execute_run (callOf_arguments readable flags [text "b"])).trans ?_
    rw [thrown]
    exact outcomeOf_error rfl flags.verbose {}
  rw [whole]
  exact ⟨readable, by simp [failed], rfl, errorLine_unregistered, rfl, rfl, rfl⟩

/-- A program of one call and one exit, as it is read from its file. -/
theorem load_call_then_exit :
    Program.load
      ⟨fun _ => .ok (.file (Text.Utf8.encode (text
        "[\x7b\"type\":\"call\",\"name\":\"M.f\"\x7d,\x7b\"type\":\"jexit\",\"code\":300\x7d]")))⟩
      (text "p") =
      .ok
        [.object [(text "type", .string (text "call")), (text "name", .string (text "M.f"))],
          .object [(text "type", .string (text "jexit")), (text "code", .int 300)]] := by
  generalize written :
    text "[\x7b\"type\":\"call\",\"name\":\"M.f\"\x7d,\x7b\"type\":\"jexit\",\"code\":300\x7d]" =
      document
  have decoded : Text.Utf8.decode (Text.Utf8.encode document) = .ok document := by
    rw [← written]
    cbv
  have folded : document.foldNewlines = document := by
    rw [← written]
    cbv
  have read : Json.read document = .ok (.array
      [.object [(text "type", .string (text "call")), (text "name", .string (text "M.f"))],
        .object [(text "type", .string (text "jexit")), (text "code", .int 300)]]) := by
    rw [← written]
    simp [Json.read, Json.readValue, Json.readItems, Json.readFields,
      Json.readString, Json.readPieces, Json.joinPieces, Json.skipBlanks, Json.isBlank, text,
      Json.readScalar, Json.constants, Json.readNumber, bind, Except.bind, pure, Except.pure,
      CodePoint.code, Text.dropOpening?, Json.splitSign, Json.integerPart?, Json.spanDigits,
      Decimal.isDigit, Json.fractionPart?, Json.exponentPart?, Decimal.value, Pairs.ofAssignments,
      Pairs.put, Json.maxIntegerDigits]
    rfl
  have octets : (FileSystem.mk fun _ => .ok (.file (Text.Utf8.encode document))).readFile
      (Path.normalize (text "p")) = .ok (Text.Utf8.encode document) := rfl
  rw [Program.load, octets]
  simp only [Program.ofOctets, decoded, folded, Program.ofDocument, read, Program.ofValue]

/-- A plugin that exports a function, and one that cannot be registered. With the first alone the
program calls the function and exits, whatever the flags; with the second behind it, neither a third
plugin nor the program is reached, and the error is all that there is on standard error. A file that
ends inside its array, in the place of the program, is reported, and no plugin is reached. -/
theorem run_goes_through_stages_exiting :
    let document := text
      "[\x7b\"type\":\"call\",\"name\":\"M.f\"\x7d,\x7b\"type\":\"jexit\",\"code\":300\x7d]"
    let items : List Value :=
      [.object [(text "type", .string (text "call")), (text "name", .string (text "M.f"))],
        .object [(text "type", .string (text "jexit")), (text "code", .int 300)]]
    let greeting : Body :=
      [(none, .newModule (text "m") none [] true none),
        (none, .define (text "m") (text "f") (some [])),
        (none, .adopt registeringHost (text "m")),
        (none, .exportCurrent registeringHost (some []) (text "M") none)]
    let around : Surroundings :=
      ⟨⟨fun _ => .ok (.file (Text.Utf8.encode document))⟩,
        ⟨[(text "a", { registration := .script greeting }), (text "b", {})]⟩⟩
    let torn : Surroundings := { around with files := ⟨fun _ => .ok (.file [0x5B])⟩ }
    let path := text "p"
    Program.load around.files path = .ok items ∧
      (∀ flags : RunFlags,
        (execute around (flags.arguments path [text "a"])).status = .int 300) ∧
      (∀ flags : RunFlags,
        (execute around (flags.arguments path [text "a", text "b", text "a"])).status = .int 1) ∧
      (∀ json reportUnknownModules : Bool,
        let flags : RunFlags := ⟨json, reportUnknownModules, false⟩
        (execute around (flags.arguments path [text "a", text "b", text "a"])).stderr =
          text "Error: Plugin 'b': has no register(context) function\n") ∧
      ∀ flags : RunFlags,
        execute torn (flags.arguments path [text "a"]) =
          { status := .int 1
            stderr := text
              "Error: p: invalid JSON - Expecting value: line 1 column 2 (char 1)\n" } := by
  intro document items greeting around torn path
  have loaded : Program.load around.files path = .ok items := load_call_then_exit
  have registered : ∀ flags : RunFlags,
      ((load around runHost (text "a")).perform flags.opening).1 = .ok () := fun _ => rfl
  have refusal : ∀ flags : RunFlags,
      let outcome := execute around (flags.arguments path [text "a", text "b", text "a"])
      outcome.status = .int 1 ∧
      outcome.stderr =
        errorText flags.verbose ((load around runHost (text "b")).perform
          ((load around runHost (text "a")).perform flags.opening).2).2.trace ++
        errorLine (PluginError.message ⟨text "b", text "has no register(context) function"⟩) := by
    intro flags outcome
    obtain ⟨spelt, staged, -⟩ :=
      run_goes_through_stages around path _ [text "a", text "b", text "a"] rfl
    obtain ⟨-, -, going⟩ := staged _ flags (spelt flags)
    obtain ⟨failing, -⟩ := going items loaded
    let between := ((load around runHost (text "a")).perform flags.opening).2
    have early : Loads around runHost [text "a"] flags.opening between :=
      .cons_of_ok (registered flags) .nil
    have refused : ((load around runHost (text "b")).perform between).1 =
        .error (.plugin ⟨text "b", text "has no register(context) function"⟩) := rfl
    obtain ⟨-, whole⟩ := failing [text "a"] (text "b") [text "a"] _ _ _ rfl early
      (perform_of_outcome refused)
    have status := congrArg Outcome.status whole
    have stderr := congrArg Outcome.stderr whole
    exact ⟨status, stderr⟩
  have quiet : ∀ json unknown : Bool, errorText (RunFlags.verbose ⟨json, unknown, false⟩)
      ((load around runHost (text "b")).perform ((load around runHost (text "a")).perform
        (RunFlags.opening ⟨json, unknown, false⟩)).2).2.trace = [] := by
    decide +kernel +zetaReduce
  refine ⟨loaded, fun flags => ?_, fun flags => ?_, fun json unknown => ?_, fun flags => ?_⟩
  · obtain ⟨spelt, staged, -⟩ := run_goes_through_stages around path _ [text "a"] rfl
    obtain ⟨-, -, going⟩ := staged _ flags (spelt flags)
    obtain ⟨-, running⟩ := going items loaded
    obtain ⟨-, returning⟩ := running _ (.cons_of_ok (registered flags) .nil)
    have result :
        (((engineOf ((load around runHost (text "a")).perform flags.opening).2 runHost).runFrom
          (around.enter Op.maxDepth) 0 (.ofValues items) {}).perform
            ((load around runHost (text "a")).perform flags.opening).2).1 =
          .ok (.exited 300 ⟨2, 1, []⟩) := by
      obtain ⟨_ | _, _, _⟩ := flags <;> rfl
    obtain ⟨code, status, foretold⟩ := returning (Engine.nativesReturn_iff.mpr ⟨_, result⟩)
    have exits : Foretold (.ofValues items)
        (Instruction.exitCode ⟨text "jexit", .null, .null, .int 300, []⟩) := by
      refine .code rfl rfl rfl rfl fun earlier before other passed found accepted => ?_
      obtain rfl : earlier = 0 := Nat.lt_one_iff.mp before
      cases found
      cases accepted
      rfl
    rw [status, foretold.unique exits]
    rfl
  · exact (refusal flags).1
  · have stderr := (refusal ⟨json, unknown, false⟩).2
    rw [errorLine_unregistered, quiet json unknown, List.nil_append] at stderr
    exact stderr
  · obtain ⟨spelt, staged, -⟩ := run_goes_through_stages torn path _ [text "a"] rfl
    obtain ⟨reported, -⟩ := staged _ flags (spelt flags)
    obtain ⟨-, outcome⟩ := reported
      ⟨text "invalid JSON - Expecting value: line 1 column 2 (char 1)", some (text "p")⟩ rfl
    have told : errorLine (LoadError.message
        ⟨text "invalid JSON - Expecting value: line 1 column 2 (char 1)", some (text "p")⟩) =
        text "Error: p: invalid JSON - Expecting value: line 1 column 2 (char 1)\n" := by
      decide +kernel
    rw [outcome, told]

end CommandLine

end Switchboard
