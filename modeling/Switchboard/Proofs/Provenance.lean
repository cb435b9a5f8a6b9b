import Mathlib.Logic.Relation
import Switchboard.Proofs.Exitless
import Switchboard.Proofs.Prediction

/-!
# Where an exit comes from

Host scripts run programs, programs enter functions, and functions are host scripts again. A
`Moment` is one activity in this nesting, together with the world it starts from, and `Part`
says which activities are carried out as parts of which. An exit that leaves an activity is
raised there, or it comes unchanged from one of the parts; `Moment.accountable` follows it down
to the step that left with a code or to the run whose own program ended, and
`Moment.exists_unique_origin` says that there is no other such place.
-/

namespace Switchboard

/-! ## Moments -/

/-- What is carried out at some depth of nesting. -/
inductive Activity where
  | step (step : Step)
  | body (body : Body)
  | native (native : Native)
  | run (engine : Engine) (program : Program)
  | importing (names : List Text)

/-- An activity that begins: how deep bodies may still nest, and the world at its start. -/
structure Moment where
  depth : Nat
  activity : Activity
  world : World

/-- Entering the functions of host scripts, in which bodies nest to at most a depth. -/
def Surroundings.enter (around : Surroundings) (depth : Nat) : Enter :=
  Op.enterNative (Op.runBody around depth)

/-- The failure that leaves an activity. -/
def Moment.failure? (around : Surroundings) (moment : Moment) : Option Failure :=
  match moment.activity with
  | .step step =>
      (Op.performStep around (Op.runBody around moment.depth) step).failure? moment.world
  | .body body => (Op.runBody around moment.depth body).failure? moment.world
  | .native native => (around.enter moment.depth native).failure? moment.world
  | .run engine program =>
      (engine.run (around.enter moment.depth) program).failure? moment.world
  | .importing names =>
      (Op.importAncestry around.plugins (Op.runBody around moment.depth) names).failure?
        moment.world

/-! ## Parts -/

/-- The second activity is carried out as a part of the first, with nothing in between. -/
inductive Part (around : Surroundings) : Moment → Moment → Prop where
  | step {depth body early tag step late world between}
      (split : body = early ++ (tag, step) :: late)
      (reached : (Op.runBody around (depth + 1) early).perform world = (.ok (), between)) :
      Part around ⟨depth + 1, .body body, world⟩ ⟨depth, .step step, between⟩
  | script {depth identity body world} :
      Part around ⟨depth, .native ⟨identity, .script body⟩, world⟩ ⟨depth, .body body, world⟩
  | visit {depth engine program world visit native}
      (visited : visit ∈ engine.visits (around.enter depth) program world)
      (entered : engine.verdictOn visit = .entered native) :
      Part around ⟨depth, .run engine program, world⟩ ⟨depth, .native native, visit.world⟩
  | attempt {depth body world} :
      Part around ⟨depth, .step (.attempt body), world⟩ ⟨depth, .body body, world⟩
  | invoke {depth label name ref native world}
      (found : (Op.moduleAt label).perform world = (.ok ref, world))
      (defined : (world.modules.read ref).functions.function? name = some native) :
      Part around ⟨depth, .step (.invoke label name), world⟩ ⟨depth, .native native, world⟩
  | invokeSnapshot {depth label name ref native world}
      (found : (Op.snapshotAt label).perform world = (.ok ref, world))
      (defined : (world.snapshots.read ref).functions.function? name = some native) :
      Part around ⟨depth, .step (.invokeSnapshot label name), world⟩
        ⟨depth, .native native, world⟩
  | call {depth label module name host ref native world}
      (found : (Op.hostAt label).perform world = (.ok host, world))
      (exported : (world.exports.read (world.hosts.read host).exports).get? module = some ref)
      (defined : (world.snapshots.read ref).functions.get? name = some (some native)) :
      Part around ⟨depth, .step (.call label module name), world⟩ ⟨depth, .native native, world⟩
  | build {depth label module body host ref world between}
      (found : (Op.hostAt label).perform world = (.ok host, world))
      (foundToo : (Op.moduleAt module).perform world = (.ok ref, world))
      (adopted : (Op.adopt host ref).perform world = (.ok (), between)) :
      Part around ⟨depth, .step (.build label module (some body)), world⟩
        ⟨depth, .body body, between⟩
  | attachSource {depth label source body host module world}
      (found : (Op.hostAt label).perform world = (.ok host, world))
      (current : (world.hosts.read host).current = some module) :
      Part around ⟨depth, .step (.attachSource label source body), world⟩
        ⟨depth, .body body, world⟩
  | exportCurrent {depth label body name mark host world}
      (found : (Op.hostAt label).perform world = (.ok host, world)) :
      Part around ⟨depth, .step (.exportCurrent label (some body) name mark), world⟩
        ⟨depth, .body body, world⟩
  | run {depth label source modelled host program world}
      (found : (Op.hostAt label).perform world = (.ok host, world))
      (loaded : (Op.programOf around.files source modelled).perform world = (.ok program, world)) :
      Part around ⟨depth, .step (.run label source modelled), world⟩
        ⟨depth, .run ⟨(world.hosts.read host).exports, (world.hosts.read host).reporting,
          (world.hosts.read host).stream⟩ program, world⟩
  | execute {depth label reporting stream source modelled ref program world}
      (found : (Op.exportsAt label).perform world = (.ok ref, world))
      (loaded : (Op.programOf around.files source modelled).perform world = (.ok program, world)) :
      Part around ⟨depth, .step (.execute label reporting stream source modelled), world⟩
        ⟨depth, .run ⟨ref, reporting, stream⟩ program, world⟩
  | importing {depth label first rest host world}
      (found : (Op.hostAt label).perform world = (.ok host, world))
      (absolute : first ≠ Reference.dot) :
      Part around ⟨depth, .step (.loadPlugin label (first :: rest)), world⟩
        ⟨depth, .importing (ancestry (first :: rest)), world⟩
  | registering {depth label name host body world between}
      (found : (Op.hostAt label).perform world = (.ok host, world))
      (imported : (Op.importName around.plugins (Op.runBody around depth) name).perform world =
        (.ok (), between))
      (offered : (Op.registration around.plugins name).perform between =
        (.ok (.script body), between)) :
      Part around ⟨depth, .step (.loadPlugin label name), world⟩
        ⟨depth, .body body,
          { between with
            labels :=
              { between.labels with hosts := between.labels.hosts.put registeringHost host } }⟩
  | ancestors {depth name parents world}
      (fresh : (Op.isImported name).perform world = (.ok false, world)) :
      Part around ⟨depth, .importing (name :: parents), world⟩ ⟨depth, .importing parents, world⟩
  | plugin {depth name parents plugin world between}
      (fresh : (Op.isImported name).perform world = (.ok false, world))
      (above : (Op.importAncestry around.plugins (Op.runBody around depth) parents).perform world =
        (.ok (), between))
      (still : (Op.isImported name).perform between = (.ok false, between))
      (below : ∀ parent, parents.head? = some parent →
        ((around.plugins.find? parent).map Plugin.package).getD false = true)
      (known : around.plugins.find? name = some plugin) :
      Part around ⟨depth, .importing (name :: parents), world⟩
        ⟨depth, .body plugin.onImport,
          { between with imports := between.imports.put name .loading }⟩

/-! ## Where exits are raised -/

/-- The run of a program ends at an exit of its own: the result is that of the run itself, and the
last item that it executed is an exit instruction with the code. -/
structure Engine.OwnExit (engine : Engine) (enter : Enter) (program : Program) (world : World)
    (code : Value) (result : RunResult) : Prop where
  walked : ((engine.runFrom enter 0 program {}).perform world).1 = .ok result
  exited : result.report.state = .exited
  exitCode : result.report.exitCode = code
  executed : 1 ≤ result.tally.executed
  last : ∃ item instruction, program[result.tally.executed - 1]? = some item ∧
    item.accept = .ok instruction ∧ instruction.isExit = true ∧
    code = .int instruction.exitCode

/-- An exit is raised by a step that leaves with a code, and then it carries no result, or by a
run at an exit of its own, and then it carries the result of that run. -/
inductive RaisedAt (around : Surroundings) (code : Value) : Option RunResult → Moment → Prop where
  | step {depth label host world}
      (found : (Op.hostAt label).perform world = (.ok host, world)) :
      RaisedAt around code none ⟨depth, .step (.exit label code), world⟩
  | run {depth engine program world result}
      (own : engine.OwnExit (around.enter depth) program world code result) :
      RaisedAt around code (some result) ⟨depth, .run engine program, world⟩

/-- A part fails, and what carries it out passes the very failure on. -/
def PassesOn (around : Surroundings) (failure : Failure) (whole part : Moment) : Prop :=
  Part around whole part ∧ whole.failure? around = some failure ∧
    part.failure? around = some failure

/-- An exit that leaves an activity was raised at another moment, and came from there through
every activity in between as it was. -/
structure ComesFrom (around : Surroundings) (code : Value) (carried : Option RunResult)
    (moment origin : Moment) : Prop where
  path : Relation.ReflTransGen (PassesOn around (.exit code carried)) moment origin
  raised : RaisedAt around code carried origin

/-- Every exit that leaves an activity can be traced. -/
def Moment.Accountable (around : Surroundings) (moment : Moment) : Prop :=
  ∀ code carried, moment.failure? around = some (.exit code carried) →
    ∃ origin, ComesFrom around code carried moment origin

/-- An exit that comes from an accountable part can be traced. -/
theorem Moment.Accountable.through {around : Surroundings} {whole part : Moment} {code : Value}
    {carried : Option RunResult} (accountable : part.Accountable around)
    (within : Part around whole part) (exits : whole.failure? around = some (.exit code carried))
    (exitsToo : part.failure? around = some (.exit code carried)) :
    ∃ origin, ComesFrom around code carried whole origin := by
  obtain ⟨origin, path, raised⟩ := accountable code carried exitsToo
  exact ⟨origin, path.head ⟨within, exits, exitsToo⟩, raised⟩

/-! ## Runs -/

namespace Engine

variable {engine : Engine} {enter : Enter} {index : Nat} {program : Program} {tally : Tally}
  {world after : World} {visits : List Visit} {outcome : Except Failure RunResult}
  {failure : Failure}

/-- A walk fails exactly with what a function raises that it enters. -/
theorem Walk.fails_iff
    (walk : engine.Walk enter index program tally world visits outcome after) :
    outcome = .error failure ↔ ∃ visit ∈ visits, ∃ native,
      engine.verdictOn visit = .entered native ∧
        (enter native).failure? visit.world = some failure := by
  induction walk with
  | finished => simp
  | exited reached => simp [verdictOn, reached]
  | failed reached raised => simp [verdictOn, reached, Op.failure?, raised]
  | entered reached returned _ inductionHypothesis =>
    rw [inductionHypothesis]
    simp [verdictOn, reached, Op.failure?, returned]
  | passed reached passes _ inductionHypothesis =>
    have others := Verdict.ne_entered_of_passes passes
    rw [inductionHypothesis]
    simp [verdictOn, reached, others]

/-- No two visits of a walk enter a function that fails. -/
theorem Walk.failing_unique
    (walk : engine.Walk enter index program tally world visits outcome after)
    {visit other : Visit} {native nativeToo : Native} {failure failureToo : Failure}
    (visited : visit ∈ visits) (entered : engine.verdictOn visit = .entered native)
    (fails : (enter native).failure? visit.world = some failure)
    (visitedToo : other ∈ visits) (enteredToo : engine.verdictOn other = .entered nativeToo)
    (failsToo : (enter nativeToo).failure? other.world = some failureToo) : visit = other := by
  induction walk with
  | finished => cases visited
  | exited | failed => rw [List.mem_singleton.mp visited, List.mem_singleton.mp visitedToo]
  | @entered index item _ _ world native between _ _ _ reached returned _ inductionHypothesis =>
    -- The function of the first item returned.
    have notFirst : ∀ visit native failure, engine.verdictOn visit = .entered native →
        (enter native).failure? visit.world = some failure → visit ≠ ⟨index, item, world⟩ := by
      rintro _ native failure entered fails rfl
      cases reached.symm.trans entered
      rw [Op.failure?, returned] at fails
      cases fails
    refine inductionHypothesis ?_ ?_
    · exact (List.mem_cons.mp visited).resolve_left (notFirst _ _ _ entered fails)
    · exact (List.mem_cons.mp visitedToo).resolve_left (notFirst _ _ _ enteredToo failsToo)
  | @passed index item _ _ world verdict _ _ _ reached passes _ inductionHypothesis =>
    have notFirst : ∀ visit native, engine.verdictOn visit = .entered native →
        visit ≠ ⟨index, item, world⟩ := by
      rintro _ native entered rfl
      exact Verdict.ne_entered_of_passes passes native (reached.symm.trans entered)
    refine inductionHypothesis ?_ ?_
    · exact (List.mem_cons.mp visited).resolve_left (notFirst _ _ entered)
    · exact (List.mem_cons.mp visitedToo).resolve_left (notFirst _ _ enteredToo)

/-- A run at an exit of its own has entered no function that failed. -/
theorem OwnExit.natives_return {code : Value} {result : RunResult} {visit : Visit} {native : Native}
    {failure : Failure} (own : engine.OwnExit enter program world code result)
    (visited : visit ∈ engine.visits enter program world)
    (entered : engine.verdictOn visit = .entered native) :
    (enter native).failure? visit.world ≠ some failure := by
  intro fails
  have failed := (engine.walk enter 0 program {} world).fails_iff.mpr
    ⟨visit, visited, native, entered, fails⟩
  rw [own.walked] at failed
  cases failed

/-- A run whose own result is an exit ends at an exit instruction. -/
theorem ownExit_of_exited {code : Int} {final : Tally}
    (ended : ((engine.runFrom enter 0 program {}).perform world).1 = .ok (.exited code final)) :
    engine.OwnExit enter program world (.int code) (.exited code final) := by
  have predicted := (engine.walk enter 0 program {} world).predicted ended
  generalize program.firstExit? = exit at predicted
  cases predicted with
  | @exits place item _ _ found demand executed =>
    obtain ⟨instruction, accepted, isExit, same⟩ := Item.demand_eq_exit demand
    have counted : final.executed = place + 1 := by
      rw [executed]
      exact Nat.zero_add _
    refine ⟨ended, rfl, rfl, ?_, item, instruction, ?_, accepted, isExit, by rw [same]⟩
    · rw [RunResult.tally, counted]
      exact Nat.le_add_left 1 place
    · rw [RunResult.tally, counted]
      exact found

/-- A run fails with what a function raises that it enters, or with its own exit. -/
theorem failure?_run_cases (fails : (engine.run enter program).failure? world = some failure) :
    (∃ visit ∈ engine.visits enter program world, ∃ native,
      engine.verdictOn visit = .entered native ∧
        (enter native).failure? visit.world = some failure) ∨
      ∃ code final, failure = .exit (.int code) (some (.exited code final)) ∧
        engine.OwnExit enter program world (.int code) (.exited code final) := by
  obtain ⟨after, performed⟩ := Op.failure?_eq_some_iff.mp fails
  rw [perform_run] at performed
  rcases walked : (engine.runFrom enter 0 program {}).perform world with
    ⟨raised | (final | ⟨code, final⟩), left⟩ <;> rw [walked] at performed
  · cases performed
    exact .inl ((engine.walk enter 0 program {} world).fails_iff.mp (by rw [walked]))
  · cases performed
  · cases performed
    exact .inr ⟨code, final, rfl, ownExit_of_exited (by rw [walked])⟩

/-- What leaves a function leaves the run that entered it. -/
theorem failure?_run_of_native {visit : Visit} {native : Native}
    (visited : visit ∈ engine.visits enter program world)
    (entered : engine.verdictOn visit = .entered native)
    (fails : (enter native).failure? visit.world = some failure) :
    (engine.run enter program).failure? world = some failure := by
  have failed := (engine.walk enter 0 program {} world).fails_iff.mpr
    ⟨visit, visited, native, entered, fails⟩
  rw [Op.failure?, perform_run]
  rcases walked : (engine.runFrom enter 0 program {}).perform world with ⟨raised | result, left⟩
  · rw [walked] at failed
    cases failed
    rfl
  · rw [walked] at failed
    cases failed

end Engine

/-! ## Everything is accountable -/

section

variable {around : Surroundings} {depth : Nat}
  (bodies : ∀ body world, Moment.Accountable around ⟨depth, .body body, world⟩)

include bodies

theorem accountable_native (native : Native) (world : World) :
    Moment.Accountable around ⟨depth, .native native, world⟩ := by
  intro code carried exits
  obtain ⟨identity, action⟩ := native
  cases action with
  | script body => exact (bodies body world).through .script exits exits
  | say line => cases exits
  | attachScript module =>
    have quiet : (discard (Op.attachScript module)).Exitless :=
      .bind (.attachScript module) fun _ => .pure _
    exact absurd exits (quiet world code carried)

theorem accountable_run (engine : Engine) (program : Program) (world : World) :
    Moment.Accountable around ⟨depth, .run engine program, world⟩ := by
  intro code carried exits
  rcases Engine.failure?_run_cases exits with
    ⟨visit, visited, native, entered, raised⟩ | ⟨number, final, same, own⟩
  · exact (accountable_native bodies native visit.world).through (.visit visited entered) exits
      raised
  · cases same
    exact ⟨_, .refl, .run own⟩

theorem accountable_importing (names : List Text) (world : World) :
    Moment.Accountable around ⟨depth, .importing names, world⟩ := by
  induction names with
  | nil =>
    intro code carried exits
    cases exits
  | cons name parents inductionHypothesis =>
    intro code carried exits
    have whole := exits
    obtain ⟨known, fresh, exits⟩ := (Op.looks_isImported name).behind exits
    cases known with
    | true => cases exits
    | false =>
      rcases Op.failure?_bind_eq_some_iff.mp exits with early | ⟨_, between, above, exits⟩
      · exact inductionHypothesis.through (.ancestors fresh) whole early
      · obtain ⟨known, still, exits⟩ := (Op.looks_isImported name).behind exits
        cases known with
        | true => cases exits
        | false =>
          obtain ⟨below, plugin, found, raised⟩ := Op.exits_importPlugin exits
          exact (bodies _ _).through (.plugin fresh above still below found) whole raised

/-- Every exit that leaves a step can be traced when those of the bodies inside it can. -/
theorem accountable_step (step : Step) (world : World) :
    Moment.Accountable around ⟨depth, .step step, world⟩ := by
  have natives := accountable_native bodies
  have runs := accountable_run bodies
  intro code carried exits
  by_cases plain : Op.isPlain step = true
  · exact absurd exits (Op.exitless_performStep around _ plain world code carried)
  have whole := exits
  cases step with
  | attempt body =>
    obtain ⟨caught, between, -, handled⟩ := Op.failure?_tryCatch_eq_some_iff.mp exits
    cases handled
  | invoke label name =>
    obtain ⟨ref, found, exits⟩ := (Op.looks_moduleAt label).behind exits
    obtain ⟨native, defined, exits⟩ := Op.exits_invoke (Op.exits_returning exits)
    exact (natives native world).through (.invoke found defined) whole exits
  | invokeSnapshot label name =>
    obtain ⟨ref, found, exits⟩ := (Op.looks_snapshotAt label).behind exits
    obtain ⟨native, defined, exits⟩ := Op.exits_invoke (Op.exits_returning exits)
    exact (natives native world).through (.invokeSnapshot found defined) whole exits
  | call label module name =>
    obtain ⟨host, found, exits⟩ := (Op.looks_hostAt label).behind exits
    obtain ⟨ref, native, exported, defined, exits⟩ :=
      Op.exits_callDirect (Op.exits_returning exits)
    exact (natives native world).through (.call found exported defined) whole exits
  | build label module body =>
    obtain ⟨host, found, exits⟩ := (Op.looks_hostAt label).behind exits
    obtain ⟨ref, foundToo, exits⟩ := (Op.looks_moduleAt module).behind exits
    have adopts : (Op.adopt host ref).Exitless := .returns fun _ => rfl
    obtain ⟨_, between, adopted, exits⟩ := adopts.behind (Op.exits_returning exits)
    cases body with
    | none => cases exits
    | some body => exact (bodies body between).through (.build found foundToo adopted) whole exits
  | attachSource label source body =>
    obtain ⟨host, found, exits⟩ := (Op.looks_hostAt label).behind exits
    obtain ⟨⟨module, current⟩, exits⟩ :=
      Op.exits_attachSource (Op.exits_returning exits)
    have exits := Op.exits_returning exits
    exact (bodies body world).through (.attachSource found current) whole exits
  | exportCurrent label body name mark =>
    obtain ⟨host, found, exits⟩ := (Op.looks_hostAt label).behind exits
    have exits := Op.exits_exportCurrent (Op.Exitless.before (fun _ => .viewFound _ _) exits)
    cases body with
    | none => cases exits
    | some body => exact (bodies body world).through (.exportCurrent found) whole exits
  | exit label raised =>
    obtain ⟨host, found, exits⟩ := (Op.looks_hostAt label).behind exits
    obtain ⟨rfl, rfl⟩ := Op.exits_exit (Op.exits_returning exits)
    exact ⟨_, .refl, .step found⟩
  | run label source modelled =>
    obtain ⟨host, found, exits⟩ := (Op.looks_hostAt label).behind exits
    obtain ⟨program, loaded, exits⟩ := (Op.looks_programOf _ _ _).behind exits
    have exits := Op.exits_returning exits
    exact (runs _ program world).through (.run found loaded) whole exits
  | execute label reporting stream source modelled =>
    obtain ⟨ref, found, exits⟩ := (Op.looks_exportsAt label).behind exits
    obtain ⟨program, loaded, exits⟩ := (Op.looks_programOf _ _ _).behind exits
    have exits := Op.exits_returning exits
    exact (runs _ program world).through (.execute found loaded) whole exits
  | loadPlugin label name =>
    obtain ⟨host, found, exits⟩ := (Op.looks_hostAt label).behind exits
    rcases Op.exits_loadPlugin (Op.exits_returning exits) with
      early | ⟨between, body, imported, offered, exits⟩
    · obtain ⟨first, rest, rfl, absolute, exits⟩ := Op.exits_importName early
      exact (accountable_importing bodies _ world).through (.importing found absolute) whole exits
    · exact (bodies body _).through (.registering found imported offered) whole exits
  | _ => exact absurd rfl plain

end

/-! ## Bodies -/

namespace Op

variable {around : Surroundings} {run : Body → Op Unit}

/-- What is traced of a step under its tag. -/
def tracedAs (tag : Option Text) (result : StepResult) : List Event :=
  (tag.map fun label => .traced label result).toList

/-- A body carries out its first step, traces the result, and goes on. -/
theorem perform_performAll_cons (tag : Option Text) (step : Step) (late : Body) (world : World) :
    (performAll around run ((tag, step) :: late)).perform world =
      match (performStep around run step).perform world with
      | (.ok result, after) =>
          (performAll around run late).perform (after.record (tracedAs tag result))
      | (.error failure, after) => (.error failure, after) := by
  rw [performAll, perform_bind]
  rcases (performStep around run step).perform world with ⟨failure | result, after⟩
  · rfl
  · cases tag with
    | none => exact congrArg (performAll around run late).perform (World.record_nil after).symm
    | some label => rfl

theorem perform_performAll_append (early late : Body) (world : World) :
    (performAll around run (early ++ late)).perform world =
      match (performAll around run early).perform world with
      | (.ok _, between) => (performAll around run late).perform between
      | (.error failure, after) => (.error failure, after) := by
  induction early generalizing world with
  | nil => rfl
  | cons entry rest inductionHypothesis =>
    obtain ⟨tag, step⟩ := entry
    rw [List.cons_append, perform_performAll_cons, perform_performAll_cons]
    rcases (performStep around run step).perform world with ⟨failure | result, after⟩
    · rfl
    · exact inductionHypothesis _

/-- A body fails with what one of its steps fails with, behind steps that return. -/
theorem fails_performAll {body : Body} {world : World} {failure : Failure}
    (fails : (performAll around run body).failure? world = some failure) :
    ∃ early tag step late between, body = early ++ (tag, step) :: late ∧
      (performAll around run early).perform world = (.ok (), between) ∧
      (performStep around run step).failure? between = some failure := by
  induction body generalizing world with
  | nil => cases fails
  | cons entry rest inductionHypothesis =>
    obtain ⟨tag, step⟩ := entry
    rw [failure?, perform_performAll_cons] at fails
    rcases performed : (performStep around run step).perform world with ⟨raised | result, after⟩ <;>
      rw [performed] at fails
    · refine ⟨[], tag, step, rest, world, rfl, rfl, ?_⟩
      rw [failure?, performed]
      exact fails
    · obtain ⟨early, mark, later, late, between, rfl, reached, raised⟩ := inductionHypothesis fails
      refine ⟨(tag, step) :: early, mark, later, late, between, rfl, ?_, raised⟩
      rw [perform_performAll_cons, performed]
      exact reached

/-- A body that goes further than a failing step does not return. -/
theorem performAll_stops {early : Body} {step : Step} {world between : World} {failure : Failure}
    (reached : (performAll around run early).perform world = (.ok (), between))
    (fails : (performStep around run step).failure? between = some failure)
    (tag : Option Text) (late : Body) (after : World) :
    (performAll around run (early ++ (tag, step) :: late)).perform world ≠ (.ok (), after) := by
  intro returned
  obtain ⟨left, performed⟩ := failure?_eq_some_iff.mp fails
  rw [perform_performAll_append, reached] at returned
  dsimp only at returned
  rw [perform_performAll_cons, performed] at returned
  cases returned

/-- No step is reached behind one that fails, so that a reached one that is not in front of it is
the same. -/
theorem failing_unique_of_append {early more late lateToo : Body} {tag tagToo : Option Text}
    {step stepToo : Step} {world between betweenToo : World} {failure : Failure}
    (split : (tag, step) :: late = more ++ (tagToo, stepToo) :: lateToo)
    (reached : (performAll around run early).perform world = (.ok (), between))
    (fails : (performStep around run step).failure? between = some failure)
    (reachedToo : (performAll around run (early ++ more)).perform world = (.ok (), betweenToo)) :
    step = stepToo ∧ between = betweenToo := by
  cases more with
  | nil =>
    rw [List.append_nil, reached] at reachedToo
    cases split
    cases reachedToo
    exact ⟨rfl, rfl⟩
  | cons entry more =>
    cases split
    exact absurd reachedToo (performAll_stops reached fails tag more betweenToo)

/-- A step that fails behind steps that return is the only one of its body. -/
theorem failing_unique {early earlyToo late lateToo : Body} {tag tagToo : Option Text}
    {step stepToo : Step} {world between betweenToo : World} {failure failureToo : Failure}
    (split : early ++ (tag, step) :: late = earlyToo ++ (tagToo, stepToo) :: lateToo)
    (reached : (performAll around run early).perform world = (.ok (), between))
    (fails : (performStep around run step).failure? between = some failure)
    (reachedToo : (performAll around run earlyToo).perform world = (.ok (), betweenToo))
    (failsToo : (performStep around run stepToo).failure? betweenToo = some failureToo) :
    step = stepToo ∧ between = betweenToo := by
  rcases List.append_eq_append_iff.mp split with ⟨more, rfl, rest⟩ | ⟨more, rfl, rest⟩
  · exact failing_unique_of_append rest reached fails reachedToo
  · obtain ⟨sameStep, sameWorld⟩ := failing_unique_of_append rest reachedToo failsToo reached
    exact ⟨sameStep.symm, sameWorld.symm⟩

end Op

theorem accountable_body (around : Surroundings) (depth : Nat) (body : Body) (world : World) :
    Moment.Accountable around ⟨depth, .body body, world⟩ := by
  induction depth generalizing body world with
  | zero =>
    intro code carried exits
    cases exits
  | succ depth inductionHypothesis =>
    intro code carried exits
    obtain ⟨early, tag, step, late, between, split, reached, raised⟩ := Op.fails_performAll exits
    exact (accountable_step inductionHypothesis step between).through (.step split reached) exits
      raised

/-- Every exit that leaves an activity can be traced to where it was raised. -/
theorem Moment.accountable (around : Surroundings) (moment : Moment) :
    moment.Accountable around := by
  obtain ⟨depth, activity, world⟩ := moment
  have bodies := accountable_body around depth
  cases activity with
  | step step => exact accountable_step bodies step world
  | body body => exact bodies body world
  | native native => exact accountable_native bodies native world
  | run engine program => exact accountable_run bodies engine program world
  | importing names => exact accountable_importing bodies names world

/-! ## The origin is one -/

section

variable {around : Surroundings} {failure : Failure} {code : Value} {carried : Option RunResult}

/-- A failure that is passed on comes from one part only. -/
theorem PassesOn.unique {whole part other : Moment} (first : PassesOn around failure whole part)
    (second : PassesOn around failure whole other) : part = other := by
  obtain ⟨within, -, fails⟩ := first
  obtain ⟨withinToo, -, failsToo⟩ := second
  cases within with
  | step split reached =>
    cases withinToo with
    | step splitToo reachedToo =>
      obtain ⟨rfl, rfl⟩ := Op.failing_unique (split.symm.trans splitToo) reached fails reachedToo
        failsToo
      rfl
  | script => cases withinToo; rfl
  | visit visited entered =>
    cases withinToo with
    | visit visitedToo enteredToo =>
      cases (Engine.walk _ _ 0 _ {} _).failing_unique visited entered fails visitedToo enteredToo
        failsToo
      cases entered.symm.trans enteredToo
      rfl
  | attempt => cases withinToo; rfl
  | invoke found defined =>
    cases withinToo with
    | invoke foundToo definedToo =>
      cases found.symm.trans foundToo
      cases defined.symm.trans definedToo
      rfl
  | invokeSnapshot found defined =>
    cases withinToo with
    | invokeSnapshot foundToo definedToo =>
      cases found.symm.trans foundToo
      cases defined.symm.trans definedToo
      rfl
  | call found exported defined =>
    cases withinToo with
    | call foundToo exportedToo definedToo =>
      cases found.symm.trans foundToo
      cases exported.symm.trans exportedToo
      cases defined.symm.trans definedToo
      rfl
  | build found moduleFound adopted =>
    cases withinToo with
    | build foundToo moduleFoundToo adoptedToo =>
      cases found.symm.trans foundToo
      cases moduleFound.symm.trans moduleFoundToo
      cases adopted.symm.trans adoptedToo
      rfl
  | attachSource => cases withinToo; rfl
  | exportCurrent => cases withinToo; rfl
  | run found loaded =>
    cases withinToo with
    | run foundToo loadedToo =>
      cases found.symm.trans foundToo
      cases loaded.symm.trans loadedToo
      rfl
  | execute found loaded =>
    cases withinToo with
    | execute foundToo loadedToo =>
      cases found.symm.trans foundToo
      cases loaded.symm.trans loadedToo
      rfl
  | importing found absolute =>
    cases withinToo with
    | importing => rfl
    | registering _ imported =>
      rw [Op.importName_cons absolute] at imported
      exact absurd fails (Op.not_fails_of_returned imported)
  | registering found imported offered =>
    cases withinToo with
    | importing _ absolute =>
      rw [Op.importName_cons absolute] at imported
      exact absurd failsToo (Op.not_fails_of_returned imported)
    | registering foundToo importedToo offeredToo =>
      cases found.symm.trans foundToo
      cases imported.symm.trans importedToo
      cases offered.symm.trans offeredToo
      rfl
  | ancestors fresh =>
    cases withinToo with
    | ancestors => rfl
    | plugin _ above => exact absurd fails (Op.not_fails_of_returned above)
  | plugin fresh above still below known =>
    cases withinToo with
    | ancestors => exact absurd failsToo (Op.not_fails_of_returned above)
    | plugin freshToo aboveToo stillToo belowToo knownToo =>
      cases above.symm.trans aboveToo
      cases known.symm.trans knownToo
      rfl

/-- What raises an exit passes on none. -/
theorem RaisedAt.not_passesOn {moment part : Moment}
    (raised : RaisedAt around code carried moment) : ¬ PassesOn around failure moment part := by
  rintro ⟨within, -, fails⟩
  cases raised with
  | step => cases within
  | run own =>
    cases within with
    | visit visited entered => exact own.natives_return visited entered fails

/-- An exit that leaves an activity was raised at exactly one moment. -/
theorem Moment.exists_unique_origin {moment : Moment}
    (exits : moment.failure? around = some (.exit code carried)) :
    ∃! origin, ComesFrom around code carried moment origin := by
  obtain ⟨origin, path, raised⟩ := moment.accountable around code carried exits
  refine ⟨origin, ⟨path, raised⟩, ?_⟩
  rintro other ⟨pathToo, raisedToo⟩
  have functional : Relator.RightUnique (PassesOn around (.exit code carried)) :=
    fun _ _ _ => PassesOn.unique
  -- Of two paths from one moment, one goes on from the end of the other.
  rcases path.total_of_right_unique functional pathToo with further | further
  · rcases further.cases_head with same | ⟨part, passes, -⟩
    · exact same.symm
    · exact absurd passes raised.not_passesOn
  · rcases further.cases_head with same | ⟨part, passes, -⟩
    · exact same
    · exact absurd passes raisedToo.not_passesOn

end

end Switchboard
