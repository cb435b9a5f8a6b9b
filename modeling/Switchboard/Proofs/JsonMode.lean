import Switchboard.Proofs.Discretion
import Switchboard.Proofs.Staging

/-!
# Standard output in JSON mode

In JSON mode standard output is for the result alone. `runDeeds` lists everything that host code
does while plugins load and the program runs; if that is discreet, standard output holds the
document of the result that the run came to, or nothing when it came to none
(`json_mode_prints_result_alone`).
-/

namespace Switchboard

/-- Nothing that is kept off standard output is read from there. -/
theorem Event.written_stdout_of_kept {deeds : List Deed} {events : List Event}
    (kept : ∀ event ∈ events, event.Kept deeds) : Event.written .stdout events = [] := by
  refine List.flatMap_eq_nil_iff.mpr fun event member => ?_
  cases event with
  | logged | traced => rfl
  | wrote stream content => exact if_neg (kept _ member).1

theorem Event.written_append (stream : Stream) (early late : List Event) :
    Event.written stream (early ++ late) =
      Event.written stream early ++ Event.written stream late :=
  List.flatMap_append

/-- The code of an exit with a result is the code in the result. -/
theorem Engine.exitCode_of_exit {around : Surroundings} {depth : Nat} {engine : Engine}
    {program : Program} {world after : World} {code : Value} {result : RunResult}
    (exits : (engine.run (around.enter depth) program).perform world =
      (.error (.exit code (some result)), after)) :
    code = .int (result.exitCode.getD 0) := by
  have fails : Moment.failure? around ⟨depth, .run engine program, world⟩ =
      some (.exit code (some result)) := Op.failure?_eq_some_iff.mpr ⟨after, exits⟩
  -- the run that raised the exit may be one nested in a function
  obtain ⟨_, -, raised⟩ := Moment.accountable around _ code (some result) fails
  cases raised with
  | run own =>
    have same := own.exitCode
    obtain ⟨_, _, -, -, -, rfl⟩ := own.last
    cases result with
    | completed => exact nomatch same
    | exited => exact same.symm

namespace CommandLine

/-! ## The deeds of a run -/

/-- The deeds of host code while plugins load, one after another. -/
def pluginDeeds (around : Surroundings) (host : HostRef) : List Text → World → List Deed
  | [], _ => []
  | plugin :: rest, world =>
      Conduct.ofLoad around (Op.runBody around Op.maxDepth)
          (Conduct.ofBody around Op.maxDepth) host plugin world ++
        Conduct.behind (load around host plugin) (fun _ => pluginDeeds around host rest) world

/-- The deeds of host code in a run: while its plugins load, and then while its program runs in
the world that they leave. -/
def runDeeds (around : Surroundings) (flags : RunFlags) (plugins : List Text) (program : Program)
    (loaded : World) : List Deed :=
  pluginDeeds around runHost plugins flags.opening ++
    Conduct.ofRun (Op.runBody around Op.maxDepth) (Conduct.ofBody around Op.maxDepth)
      (engineOf loaded runHost) program loaded

/-- Plugins that load do their deeds quietly. -/
theorem Loads.quietly {around : Surroundings} {host : HostRef} {plugins : List Text}
    {world loaded : World} (loads : Loads around host plugins world loaded) {past : List Deed}
    (settled : Settled host past world)
    (discreet : Discreet host past (pluginDeeds around host plugins world)) :
    Quietly host past (pluginDeeds around host plugins world) world loaded := by
  induction loads generalizing past with
  | nil => exact .idle settled rfl
  | @cons plugin rest world between after loads others inductionHypothesis =>
    have deeds := Conduct.behind_of_ok loads fun _ => pluginDeeds around host rest
    rw [pluginDeeds, deeds] at discreet ⊢
    obtain ⟨early, late⟩ := discreet_append.mp discreet
    have first := Op.quiet_loadPlugin (Op.quiet_runBody host around Op.maxDepth) plugin past world
      settled early
    rw [← load, loads] at first
    exact first.trans (inductionHypothesis first.settled late)

/-- In JSON mode the host of a run prints to standard error, and no module is made yet. -/
theorem settled_opening {flags : RunFlags} (json : flags.json = true) :
    Settled runHost [] flags.opening where
  used := Nat.one_pos
  stream := by
    have opened : (flags.opening.hosts.read runHost).stream = flags.stream := rfl
    rw [opened, RunFlags.stream, if_pos json]
  hosts := nofun
  modules := nofun
  given := nofun
  adopted := nofun

/-- From its plugins to its end, a discreet run in JSON mode shows nothing on standard output. -/
theorem run_quietly {around : Surroundings} {flags : RunFlags} {plugins : List Text}
    {program : Program} {loaded : World} (json : flags.json = true)
    (loads : Loads around runHost plugins flags.opening loaded)
    (discreet : Discreet runHost [] (runDeeds around flags plugins program loaded)) :
    Quietly runHost [] (runDeeds around flags plugins program loaded) flags.opening
      ((Op.runProgram (around.enter Op.maxDepth) runHost program).perform loaded).2 := by
  obtain ⟨early, late⟩ := discreet_append.mp discreet
  have first := loads.quietly (settled_opening json) early
  have natives := Op.quiet_enterNative (Op.quiet_runBody runHost around Op.maxDepth)
  rw [perform_runProgram]
  exact first.trans (Engine.quiet_run first.settled.stream natives program _ loaded
    first.settled late)

/-! ## What is printed -/

/-- What a call shows is what was shown while its request was carried out. -/
theorem events_outcomeOf (verbose : Bool) (ended : Except Failure Ending × World) :
    (outcomeOf verbose ended).events = ended.2.trace := by
  unfold outcomeOf
  dsimp only
  split <;> rfl

/-- A run that came to a result has the status of its exit, or zero, and prints nothing more for
it. -/
theorem outcomeOf_result {around : Surroundings} {program : Program} {loaded : World}
    {result : RunResult} (verbose : Bool) :
    let ran := (Op.runProgram (around.enter Op.maxDepth) runHost program).perform loaded
    resultOf ran.1 = some result → ∀ world : World,
      let outcome := outcomeOf verbose (ran.1.map fun _ => .done, world)
      outcome.status = .int (result.exitCode.getD 0) ∧
        outcome.stdout = Event.written .stdout world.trace := by
  intro ran came world
  have whole : ran = ((engineOf loaded runHost).run (around.enter Op.maxDepth) program).perform
      loaded := perform_runProgram _ _ _ _
  rcases ended : ran with ⟨failure | value, after⟩ <;> rw [ended] at came whole
  · cases failure with
    | exit code carried =>
      obtain rfl : carried = some result := came
      obtain rfl := Engine.exitCode_of_exit whole.symm
      exact ⟨rfl, rfl⟩
    | _ => exact nomatch came
  · cases came
    obtain ⟨tally, rfl, -⟩ := Engine.perform_run_eq_ok_iff.mp whole.symm
    exact ⟨rfl, rfl⟩

/-- In JSON mode standard output is for the result alone. Let the program load, all plugins
register, and host code be discreet: it uses the host that it was given and no other, prints
nothing itself, and attaches source only to modules that this host has adopted before and that
were not given standard output. If the run completes or is left by an exit with a result, standard
output is the document of that result and the status is its exit code, or zero. If it is left by
an exit without a result, standard output is empty, whatever the code: a whole number is the status,
and a code that has to be said is the farewell of the process on standard error. Whatever the end,
all other text goes to standard error or to a stream that a module or an attachment was given. -/
theorem json_mode_prints_result_alone (around : Surroundings) (path : Text) (plugins : List Text)
    (items : List Value) (arguments : List Text) (flags : RunFlags) (loaded : World)
    (json : flags.json = true)
    (asked : callOf around.files arguments = .ok (flags.call path plugins))
    (readable : Program.load around.files path = .ok items)
    (loads : Loads around runHost plugins flags.opening loaded)
    (discreet : Discreet runHost [] (runDeeds around flags plugins (.ofValues items) loaded)) :
    let program := Program.ofValues items
    let ran := (Op.runProgram (around.enter Op.maxDepth) runHost program).perform loaded
    let outcome := execute around arguments
    (∀ result, resultOf ran.1 = some result →
      outcome.stdout = Json.write result.report.toValue ++ [newline] ∧
        outcome.status = .int (result.exitCode.getD 0)) ∧
    (∀ code, ran.1 = .error (.exit code none) →
      Event.written .stdout outcome.events = [] ∧ outcome.stdout = [] ∧
        (outcome.status, outcome.farewell) = statusOf code ∧
        ∀ number, code = .int number → outcome.status = .int number) ∧
    ∃ shown, outcome.events = shown ++ documents true ran.1 ∧
      ∀ event ∈ shown, event.Kept (runDeeds around flags plugins program loaded) := by
  intro program ran outcome
  have carried : outcome = outcomeOf flags.verbose
      (ran.1.map fun _ => .done, ran.2.record (documents true ran.1)) := by
    have through := perform_carryOut_running readable loads
    rw [json] at through
    exact (execute_run asked).trans (congrArg _ through)
  obtain ⟨shown, trace, kept⟩ := (run_quietly json loads discreet).events
  have before : ran.2.trace = shown := trace
  have free : Event.written .stdout shown = [] := Event.written_stdout_of_kept kept
  have events : outcome.events = shown ++ documents true ran.1 := by
    rw [carried, events_outcomeOf, World.record, before]
  refine ⟨fun result came => ?_, fun code left => ?_, shown, events, kept⟩
  · obtain ⟨status, stdout⟩ := outcomeOf_result flags.verbose came
      (ran.2.record (documents true ran.1))
    rw [← carried] at status stdout
    refine ⟨?_, status⟩
    rw [stdout, World.record, before, Event.written_append, free, documents, if_pos rfl, came]
    simp [Event.written]
  · have nothing : documents true ran.1 = [] := by rw [left]; rfl
    rw [nothing, List.append_nil] at events
    have stdout : outcome.stdout = [] := by
      rw [carried, nothing, left]
      change Event.written .stdout (ran.2.trace ++ []) = []
      rw [List.append_nil, before, free]
    have ended : (outcome.status, outcome.farewell) = statusOf code := by
      rw [carried, left]
      rfl
    refine ⟨by rw [events, free], stdout, ended, ?_⟩
    rintro number rfl
    exact congrArg Prod.fst ended

/-- A module that echoes source while it is registered and again when its function is called, and
one whose function leaves with a code of its own. With the first plugin standard output is the
document of the exit of the program, with the second it is empty. -/
theorem json_mode_prints_result_alone_echoing :
    let document := text
      "[\x7b\"type\":\"call\",\"name\":\"M.f\"\x7d,\x7b\"type\":\"jexit\",\"code\":300\x7d]"
    let echo : Option Text × Step := (none, .attach (text "m") (text "println(\"hi\")") none)
    let leave : Option Text × Step := (none, .exit registeringHost (.int 7))
    let registering (function : Body) : Registration := .script
      [(none, .newModule (text "m") none [] true none),
        (none, .adopt registeringHost (text "m")),
        echo,
        (none, .define (text "m") (text "f") (some function)),
        (none, .exportCurrent registeringHost (some []) (text "M") none)]
    let around : Surroundings :=
      ⟨⟨fun _ => .ok (.file (Text.Utf8.encode document))⟩,
        ⟨[(text "echoing", { registration := registering [echo] }),
          (text "leaving", { registration := registering [leave] })]⟩⟩
    let flags : RunFlags := ⟨true, false, false⟩
    let outcome (plugin : Text) := execute around (flags.arguments (text "p") [plugin])
    (outcome (text "echoing")).stdout = text ("\x7b\n  \"state\": \"exited\",\n" ++
        "  \"executed\": 2,\n  \"calls\": 1,\n  \"diagnostics\": [],\n" ++
        "  \"exit_code\": 300\n\x7d\n") ∧
      (outcome (text "echoing")).status = .int 300 ∧
      (outcome (text "leaving")).stdout = [] ∧ (outcome (text "leaving")).status = .int 7 := by
  intro document echo leave registering around flags outcome
  let items : List Value :=
    [.object [(text "type", .string (text "call")), (text "name", .string (text "M.f"))],
      .object [(text "type", .string (text "jexit")), (text "code", .int 300)]]
  have readable : Program.load around.files (text "p") = .ok items := load_call_then_exit
  have asked (plugin : Text) : callOf around.files (flags.arguments (text "p") [plugin]) =
      .ok (flags.call (text "p") [plugin]) := by
    have file : around.files.lookup (text "p") = .ok (.file (Text.Utf8.encode document)) := rfl
    exact callOf_arguments file flags [plugin]
  have json : flags.json = true := rfl
  have echoing : ∃ world, (load around runHost (text "echoing")).perform flags.opening =
      (.ok (), world) ∧
      Discreet runHost [] (runDeeds around flags [text "echoing"] (.ofValues items) world) ∧
      resultOf ((Op.runProgram (around.enter Op.maxDepth) runHost (.ofValues items)).perform
        world).1 = some (.exited 300 ⟨2, 1, []⟩) :=
    ⟨_, perform_of_outcome (by cbv), by decide +kernel +zetaReduce, by cbv⟩
  have leaving : ∃ world, (load around runHost (text "leaving")).perform flags.opening =
      (.ok (), world) ∧
      Discreet runHost [] (runDeeds around flags [text "leaving"] (.ofValues items) world) ∧
      ((Op.runProgram (around.enter Op.maxDepth) runHost (.ofValues items)).perform world).1 =
        .error (.exit (.int 7) none) :=
    ⟨_, perform_of_outcome (by cbv), by decide +kernel +zetaReduce, by cbv⟩
  -- everything that has to be computed is known, so the values may be forgotten
  clear_value items flags around
  obtain ⟨world, loaded, discreet, result⟩ := echoing
  obtain ⟨worldToo, loadedToo, discreetToo, left⟩ := leaving
  obtain ⟨printed, -, -⟩ := json_mode_prints_result_alone around _ _ _ _ flags world json
    (asked (text "echoing")) readable (.cons loaded .nil) discreet
  obtain ⟨-, empty, -⟩ := json_mode_prints_result_alone around _ _ _ _ flags worldToo json
    (asked (text "leaving")) readable (.cons loadedToo .nil) discreetToo
  obtain ⟨stdout, status⟩ := printed _ result
  obtain ⟨-, silent, -, code⟩ := empty _ left
  refine ⟨stdout.trans ?_, status, silent, code 7 rfl⟩
  cbv

end CommandLine

end Switchboard
