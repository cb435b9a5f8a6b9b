import Switchboard.Proofs.Provenance

/-!
# Exits and results agree

A run either returns a completed result or is left by a failure, and an exit among these carries
the result of the run that raised it, if any did. `exits_coherent` puts together what this means
for sessions: where every exit comes from, what every returned result says, that runs pass on what
their functions raise, and that they go on when a function has caught it.
-/

namespace Switchboard

/-! ## What steps return -/

/-- Whatever an operation returns has a property. -/
def Op.Returns {α : Type} (operation : Op α) (property : α → Prop) : Prop :=
  ∀ world value after, operation.perform world = (.ok value, after) → property value

namespace Op.Returns

variable {α β : Type} {operation : Op α} {next : α → Op β} {property : β → Prop}
  {known : α → Prop}

protected theorem pure {value : β} (holds : property value) :
    (pure value : Op β).Returns property := by
  intro world returned after performed
  cases performed
  exact holds

protected theorem throw (failure : Failure) : (throw failure : Op β).Returns property := by
  intro world value after performed
  cases performed

protected theorem bind (first : operation.Returns known)
    (second : ∀ value, known value → (next value).Returns property) :
    (operation >>= next).Returns property := by
  intro world value after performed
  rw [perform_bind] at performed
  rcases early : operation.perform world with ⟨failure | found, between⟩ <;>
    rw [early] at performed
  · cases performed
  · exact second found (first world found between early) between value after performed

/-- Nothing need be known of what comes first. -/
theorem behind (second : ∀ value, (next value).Returns property) :
    (operation >>= next).Returns property :=
  Returns.bind (fun _ _ _ _ => trivial) fun value (_ : True) => second value

end Op.Returns

/-- A run that returned its result completed, without an exit code. -/
def RunResult.Completes (result : RunResult) : Prop :=
  result.report.state = .completed ∧ result.report.exitCode = .null

/-- What a step shows when it catches nothing: if a run, then one that completed. -/
def StepResult.Settled : StepResult → Prop
  | .ran result => result.Completes
  | .attempted _ => False
  | _ => True

theorem Engine.returns_run (engine : Engine) (enter : Enter) (program : Program) :
    (engine.run enter program).Returns RunResult.Completes := by
  intro world result after returned
  obtain ⟨tally, rfl, -⟩ := perform_run_eq_ok_iff.mp returned
  exact ⟨rfl, rfl⟩

namespace Op

theorem returns_viewLabelled (label : Option Text) (ref : SnapshotRef) :
    (viewLabelled label ref).Returns StepResult.Settled := by
  cases label with
  | none => exact .behind fun _ => .pure trivial
  | some label => exact .behind fun _ => .behind fun _ => .pure trivial

theorem returns_viewFound (label : Option Text) (found : Option SnapshotRef) :
    (viewFound label found).Returns StepResult.Settled := by
  cases found with
  | none => exact .pure trivial
  | some ref => exact returns_viewLabelled label ref

theorem returns_publishAt (exports : ExportsRef) (name : Text) (source : ExportLabel) :
    (publishAt exports name source).Returns StepResult.Settled := by
  cases source with
  | module label =>
    exact .behind fun _ => .behind fun _ => .behind fun _ => .behind fun _ => .pure trivial
  | snapshot label => exact .behind fun _ => .behind fun _ => .behind fun _ => .pure trivial

/-- An attempt returns whatever its body does, and shows the failure if there was one. -/
theorem perform_attempt (around : Surroundings) (run : Body → Op Unit) (body : Body)
    (world : World) :
    (performStep around run (.attempt body)).perform world =
      match (run body).perform world with
      | (.ok _, after) => (.ok (.attempted none), after)
      | (.error failure, after) => (.ok (.attempted (some failure)), after) := by
  rw [performStep, perform_tryCatch, perform_bind]
  rcases (run body).perform world with ⟨failure | _, after⟩ <;> rfl

/-- A step that attempts nothing returns no run but a completed one, whatever the bodies inside it
do. -/
theorem returns_performStep (around : Surroundings) (run : Body → Op Unit) {step : Step}
    (other : ∀ body, step ≠ .attempt body) :
    (performStep around run step).Returns StepResult.Settled := by
  cases step with
  | attempt body => exact absurd rfl (other body)
  | note | print | define | decorate => exact .behind fun _ => .pure trivial
  | raise => exact .throw _
  | newModule | newExports | setScript | setEcho | attach | attachScript | hasFunction | listNames
  | countNames | containsName | setReporting | listExports | invoke | invokeSnapshot | call
  | attachSource | loadPlugin | exit | sameSnapshot =>
    exact .behind fun _ => .behind fun _ => .pure trivial
  | labelExports | sameExports | adopt | build | current =>
    exact .behind fun _ => .behind fun _ => .behind fun _ => .pure trivial
  | compareModules | compareSnapshots =>
    exact .behind fun _ => .behind fun _ => .behind fun _ => .behind fun _ => .pure trivial
  | takeSnapshot => exact .behind fun _ => .behind fun _ => returns_viewLabelled _ _
  | newSnapshot | viewSnapshot => exact .behind fun _ => returns_viewLabelled _ _
  | assignField | assignFunction => exact .behind fun _ => .throw _
  | publish => exact .behind fun _ => returns_publishAt _ _ _
  | lookup | exportCurrent | importExport =>
    exact .behind fun _ => .behind fun _ => returns_viewFound _ _
  | newHost label exports =>
    cases exports with
    | none | some => exact .behind fun _ => .behind fun _ => .behind fun _ => .pure trivial
  | run =>
    refine .behind fun _ => .behind fun _ => .bind ?_ fun result completes => .pure completes
    exact .behind fun engine => engine.returns_run _ _
  | execute =>
    refine .behind fun _ => .behind fun _ => .bind ?_ fun result completes => .pure completes
    exact Engine.returns_run _ _ _

/-- A body goes on behind an attempt, whatever was raised inside it. -/
theorem perform_runBody_attempt {around : Surroundings} {depth : Nat} {early inner : Body}
    {world between caught : World} {failure : Failure}
    (reached : (runBody around (depth + 1) early).perform world = (.ok (), between))
    (raised : (runBody around depth inner).perform between = (.error failure, caught))
    (tag : Option Text) (late : Body) :
    (runBody around (depth + 1) (early ++ (tag, .attempt inner) :: late)).perform world =
      (runBody around (depth + 1) late).perform
        (caught.record (tracedAs tag (.attempted (some failure)))) := by
  have reached : (performAll around (runBody around depth) early).perform world =
    (.ok (), between) := reached
  rw [runBody, perform_performAll_append, reached]
  dsimp only
  rw [perform_performAll_cons, perform_attempt, raised]
  rfl

end Op

/-! ## Sessions -/

/-- What came of a step agrees with what it carried out: a run that it shows completed, and an
exit, whether it left the step or was caught by it, has one origin. -/
def Coherent (around : Surroundings) (moment : Moment) : Except Failure StepResult → Prop
  | .ok (.ran result) => result.Completes
  | .ok (.attempted (some (.exit code carried))) => ∃ part, Part around moment part ∧
      ∃! origin, ComesFrom around code carried part origin
  | .error (.exit code carried) => ∃! origin, ComesFrom around code carried moment origin
  | _ => True

/-- What comes of a step is coherent, at every depth and from every world. -/
theorem coherent_step (around : Surroundings) (depth : Nat) (step : Step) (world : World) :
    Coherent around ⟨depth, .step step, world⟩
      ((Op.performStep around (Op.runBody around depth) step).perform world).1 := by
  by_cases attempts : ∃ body, step = .attempt body
  · obtain ⟨body, rfl⟩ := attempts
    rw [Op.perform_attempt]
    rcases performed : (Op.runBody around depth body).perform world with ⟨failure | _, after⟩
    · cases failure with
      | exit code carried =>
        refine ⟨⟨depth, .body body, world⟩, .attempt, Moment.exists_unique_origin ?_⟩
        exact Op.failure?_eq_some_iff.mpr ⟨after, performed⟩
      | _ => trivial
    · trivial
  · rcases performed : (Op.performStep around (Op.runBody around depth) step).perform world with
      ⟨failure | result, after⟩
    · cases failure with
      | exit code carried =>
        exact Moment.exists_unique_origin (Op.failure?_eq_some_iff.mpr ⟨after, performed⟩)
      | _ => trivial
    · have settled := Op.returns_performStep around _ (not_exists.mp attempts) world result after
        performed
      cases result with
      | ran result => exact settled
      | attempted shown => exact absurd settled id
      | _ => trivial

/-- What is recorded of a session came of its steps, each from the world that it met. -/
theorem Session.playFrom_records {around : Surroundings} {steps : List Step} {world : World} :
    ∀ record ∈ (playFrom around steps world).1, ∃ step ∈ steps, ∃ before,
      record.outcome =
        ((Op.performStep around (Op.runBody around Op.maxDepth) step).perform before).1 := by
  induction steps generalizing world with
  | nil => nofun
  | cons step rest inductionHypothesis =>
    intro record member
    rcases List.mem_cons.mp member with rfl | later
    · exact ⟨step, List.mem_cons_self, { world with trace := [] }, rfl⟩
    · obtain ⟨other, listed, before, outcome⟩ := inductionHypothesis record later
      exact ⟨other, List.mem_cons_of_mem _ listed, before, outcome⟩

/-! ## Coherence -/

/-- Exits and results stay coherent under any nesting of runs, functions, callbacks and plugins.
Every exit that leaves an activity was raised at exactly one moment and came from there unchanged
(`RaisedAt` says what it carries); every result that a run returns is that of a completed run, and
none shows a run that goes on; a run is left by whatever leaves a function that it entered; a body
goes on behind an attempt with whatever was caught, and a run goes on behind a function that
returned, however it came to return. What a session records of its steps is coherent with this. -/
theorem exits_coherent (around : Surroundings) :
    (∀ (moment : Moment) (code : Value) (carried : Option RunResult),
      moment.failure? around = some (.exit code carried) →
        ∃! origin, ComesFrom around code carried moment origin) ∧
    (∀ (depth : Nat) (engine : Engine) (program : Program) (world after : World)
      (result : RunResult),
      (engine.run (around.enter depth) program).perform world = (.ok result, after) →
        result.report.state = .completed ∧ result.report.exitCode = .null) ∧
    (∀ result : RunResult, result.report.state ≠ .running) ∧
    (∀ (depth : Nat) (engine : Engine) (program : Program) (world : World) (part : Moment)
      (failure : Failure),
      Part around ⟨depth, .run engine program, world⟩ part →
        part.failure? around = some failure →
          Moment.failure? around ⟨depth, .run engine program, world⟩ = some failure) ∧
    (∀ (depth : Nat) (early inner late : Body) (tag : Option Text) (world between caught : World)
      (failure : Failure),
      (Op.runBody around (depth + 1) early).perform world = (.ok (), between) →
        (Op.runBody around depth inner).perform between = (.error failure, caught) →
          (Op.runBody around (depth + 1) (early ++ (tag, .attempt inner) :: late)).perform world =
            (Op.runBody around (depth + 1) late).perform
              (caught.record (Op.tracedAs tag (.attempted (some failure))))) ∧
    (∀ (depth : Nat) (engine : Engine) (index : Nat) (item : Item) (later : Program)
      (tally : Tally) (world between : World) (native : Native),
      engine.verdict index item world = .entered native →
        (around.enter depth native).perform world = (.ok (), between) →
          (engine.runFrom (around.enter depth) index (item :: later) tally).perform world =
            (engine.runFrom (around.enter depth) (index + 1) later
              { tally with
                executed := tally.executed + 1
                calls := tally.calls + 1 }).perform between) ∧
    ∀ steps : List Step, ∀ record ∈ (Session.play around steps).1, ∃ step ∈ steps, ∃ before,
      record.outcome =
        ((Op.performStep around (Op.runBody around Op.maxDepth) step).perform before).1 ∧
      Coherent around ⟨Op.maxDepth, .step step, before⟩ record.outcome := by
  refine ⟨?_, ?_, ?_, ?_, ?_, ?_, ?_⟩
  · intro moment code carried exits
    exact Moment.exists_unique_origin exits
  · intro depth engine program world after result returned
    exact engine.returns_run _ program world result after returned
  · intro result
    cases result <;> nofun
  · intro depth engine program world part failure within fails
    cases within with
    | visit visited entered => exact Engine.failure?_run_of_native visited entered fails
  · intro depth early inner late tag world between caught failure reached raised
    exact Op.perform_runBody_attempt reached raised tag late
  · intro depth engine index item later tally world between native entered returned
    rw [Engine.perform_runFrom_cons, entered, Engine.carryOut, returned]
    simp [Tally.count, Verdict.calls, Verdict.diagnostics]
  · intro steps record member
    obtain ⟨step, listed, before, outcome⟩ := Session.playFrom_records record member
    refine ⟨step, listed, before, outcome, ?_⟩
    rw [outcome]
    exact coherent_step around Op.maxDepth step before

/-- Two functions run a program that exits: one lets the exit through, and it leaves the enclosing
run with the result of the inner one; the other catches it, and the enclosing run goes on and
returns. -/
theorem exits_coherent_nested :
    let around : Surroundings := ⟨⟨fun _ => .error .notFound⟩, ⟨[]⟩⟩
    let exit : Value := .object [(text "type", .string (text "jexit")), (text "code", .int 3)]
    let inner : Body :=
      [(none, .execute (.exports (text "r")) ⟨false, false⟩ none (.values [exit]) false)]
    let world : World :=
      { exports := Store.empty.write ⟨0⟩ (Table.empty.put (text "M") ⟨0⟩)
        snapshots := Store.empty.write ⟨0⟩
          { functions := (Table.empty.put (text "f") (some ⟨0, .script inner⟩)).put (text "g")
              (some ⟨1, .script [(none, .attempt inner)]⟩) }
        labels := { exports := Table.empty.put (text "r") ⟨0⟩ } }
    let engine : Engine := ⟨⟨0⟩, ⟨false, false⟩, none⟩
    let call (name : Text) : Item := .model ⟨text "call", .string name, .null, .null, []⟩
    let passing : Moment := ⟨2, .run engine [.raw .null, call (text "M.f"), .raw .null], world⟩
    let carried : Option RunResult := some (.exited 3 ⟨1, 0, []⟩)
    let catching : Program := [call (text "M.g"), call (text "N.f")]
    passing.failure? around = some (.exit (.int 3) carried) ∧
      (∃! origin, ComesFrom around (.int 3) carried passing origin) ∧
      ∃ result after, (engine.run (around.enter 3) catching).perform world = (.ok result, after) ∧
        result.tally = ⟨2, 1, []⟩ ∧
        result.report.state = .completed ∧ result.report.exitCode = .null := by
  intro around exit inner world engine call passing carried catching
  have exits : passing.failure? around = some (.exit (.int 3) carried) := rfl
  obtain ⟨origins, returned, -⟩ := exits_coherent around
  have goesOn : ∃ after, (engine.run (around.enter 3) catching).perform world =
      (.ok (.completed ⟨2, 1, []⟩), after) := ⟨_, rfl⟩
  obtain ⟨after, ran⟩ := goesOn
  exact ⟨exits, origins passing (.int 3) carried exits, _, after, ran, rfl,
    returned 3 engine catching world after _ ran⟩

end Switchboard
