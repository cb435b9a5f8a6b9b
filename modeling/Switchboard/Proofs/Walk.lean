import Switchboard.Proofs.Verdict

/-!
# Runs as walks

A run visits the items of its program one after another. `Engine.Walk` is that walk as a
relation, with one rule for each way in which an item can end; `Engine.walk` says that the
engine walks exactly so. Statements about whole runs are inductions over the walk.
-/

namespace Switchboard

/-- The moment at which a run turns to an item. -/
structure Visit where
  index : Nat
  item : Item
  world : World

/-- Whether a run goes on behind the item without having entered a function. -/
def Verdict.passes : Verdict → Bool
  | .entered _ => false
  | .exited _ => false
  | _ => true

theorem Verdict.ne_exited_of_passes {verdict : Verdict} (passes : verdict.passes = true)
    (code : Int) : verdict ≠ .exited code := by
  rintro rfl
  cases passes

theorem Verdict.ne_entered_of_passes {verdict : Verdict} (passes : verdict.passes = true)
    (native : Native) : verdict ≠ .entered native := by
  rintro rfl
  cases passes

namespace Engine

/-- The verdict on a visited item. -/
def verdictOn (engine : Engine) (visit : Visit) : Verdict :=
  engine.verdict visit.index visit.item visit.world

/-- The visits of a run that turns to a program at an index. -/
def visitsFrom (engine : Engine) (enter : Enter) : (index : Nat) → Program → World → List Visit
  | _, [], _ => []
  | index, item :: rest, world =>
      ⟨index, item, world⟩ ::
        match (engine.step enter index item {}).perform world with
        | (.ok (.goesOn _), after) => engine.visitsFrom enter (index + 1) rest after
        | _ => []

/-- The visits of a run of a program. -/
def visits (engine : Engine) (enter : Enter) (program : Program) (world : World) : List Visit :=
  engine.visitsFrom enter 0 program world

/-- The walk of a run over a program: from an index, a tally and a world over the visits to an
outcome and the world that is left. -/
inductive Walk (engine : Engine) (enter : Enter) : Nat → Program → Tally → World → List Visit →
    Except Failure RunResult → World → Prop where
  | finished {index tally world} :
      Walk engine enter index [] tally world [] (.ok (.completed tally)) world
  | exited {index item rest tally world code}
      (reached : engine.verdict index item world = .exited code) :
      Walk engine enter index (item :: rest) tally world [⟨index, item, world⟩]
        (.ok (.exited code (tally.count (.exited code))))
        (world.record (engine.announcement (.exited code)))
  | failed {index item rest tally world native failure after}
      (reached : engine.verdict index item world = .entered native)
      (raised : (enter native).perform world = (.error failure, after)) :
      Walk engine enter index (item :: rest) tally world [⟨index, item, world⟩]
        (.error failure) after
  | entered {index item rest tally world native between visits outcome after}
      (reached : engine.verdict index item world = .entered native)
      (returned : (enter native).perform world = (.ok (), between))
      (remainder : Walk engine enter (index + 1) rest (tally.count (.entered native)) between
        visits outcome after) :
      Walk engine enter index (item :: rest) tally world (⟨index, item, world⟩ :: visits)
        outcome after
  | passed {index item rest tally world verdict visits outcome after}
      (reached : engine.verdict index item world = verdict)
      (passes : verdict.passes = true)
      (remainder : Walk engine enter (index + 1) rest (tally.count verdict)
        (world.record (engine.announcement verdict)) visits outcome after) :
      Walk engine enter index (item :: rest) tally world (⟨index, item, world⟩ :: visits)
        outcome after

/-! ## The engine walks -/

/-- A passing verdict is reported, and nothing else happens. -/
theorem carryOut_passes (engine : Engine) (enter : Enter) {verdict : Verdict}
    (passes : verdict.passes = true) (tally : Tally) (world : World) :
    engine.carryOut enter verdict tally world =
      (.ok (.goesOn (tally.count verdict)), world.record (engine.announcement verdict)) := by
  cases verdict with
  | entered | exited => cases passes
  | diagnosed | unknownFunction | skipped => rfl

@[simp] theorem perform_runFrom_nil (engine : Engine) (enter : Enter) (index : Nat)
    (tally : Tally) (world : World) :
    (engine.runFrom enter index [] tally).perform world = (.ok (.completed tally), world) := rfl

/-- A run carries out its first item and goes on as the verdict on it says. -/
theorem perform_runFrom_cons (engine : Engine) (enter : Enter) (index : Nat) (item : Item)
    (rest : Program) (tally : Tally) (world : World) :
    (engine.runFrom enter index (item :: rest) tally).perform world =
      match engine.carryOut enter (engine.verdict index item world) tally world with
      | (.ok (.goesOn tally), after) =>
          (engine.runFrom enter (index + 1) rest tally).perform after
      | (.ok (.exits code tally), after) => (.ok (.exited code tally), after)
      | (.error failure, after) => (.error failure, after) := by
  rw [runFrom, Op.perform_bind, perform_step]
  rcases engine.carryOut enter (engine.verdict index item world) tally world with
    ⟨failure | (_ | _), after⟩ <;> rfl

/-- The engine walks over its program. -/
theorem walk (engine : Engine) (enter : Enter) (index : Nat) (program : Program) (tally : Tally)
    (world : World) :
    engine.Walk enter index program tally world (engine.visitsFrom enter index program world)
      ((engine.runFrom enter index program tally).perform world).1
      ((engine.runFrom enter index program tally).perform world).2 := by
  induction program generalizing index tally world with
  | nil => exact .finished
  | cons item rest inductionHypothesis =>
    rw [perform_runFrom_cons, visitsFrom, perform_step]
    cases reached : engine.verdict index item world with
    | exited code => exact .exited reached
    | entered native =>
      simp only [carryOut]
      rcases performed : (enter native).perform world with ⟨failure | _, between⟩
      · exact .failed reached performed
      · exact .entered reached performed (inductionHypothesis _ _ _)
    | diagnosed | unknownFunction | skipped =>
      exact .passed reached rfl (inductionHypothesis _ _ _)

/-- There is no other walk. -/
theorem Walk.eq {engine : Engine} {enter : Enter} {index : Nat} {program : Program}
    {tally : Tally} {world after : World} {visits : List Visit}
    {outcome : Except Failure RunResult}
    (walk : engine.Walk enter index program tally world visits outcome after) :
    visits = engine.visitsFrom enter index program world ∧
      (engine.runFrom enter index program tally).perform world = (outcome, after) := by
  induction walk with
  | finished => exact ⟨rfl, rfl⟩
  | exited reached =>
    rw [visitsFrom, perform_step, perform_runFrom_cons, reached]
    exact ⟨rfl, rfl⟩
  | failed reached raised =>
    rw [visitsFrom, perform_step, perform_runFrom_cons, reached]
    simp only [carryOut, raised, and_self]
  | entered reached returned _ inductionHypothesis =>
    rw [visitsFrom, perform_step, perform_runFrom_cons, reached]
    simp only [carryOut, returned]
    exact ⟨congrArg (List.cons _) inductionHypothesis.1, inductionHypothesis.2⟩
  | passed reached passes _ inductionHypothesis =>
    rw [visitsFrom, perform_step, perform_runFrom_cons, reached,
      carryOut_passes engine enter passes, carryOut_passes engine enter passes]
    exact ⟨congrArg (List.cons _) inductionHypothesis.1, inductionHypothesis.2⟩

/-! ## Endings -/

/-- How the caller of a run learns of its result. -/
def conclude (result : RunResult) : Except Failure RunResult :=
  match result with
  | .completed _ => .ok result
  | .exited code _ => .error (.exit (.int code) (some result))

/-- A run ends as its walk does, an exit of its own being turned into a failure. -/
theorem perform_run (engine : Engine) (enter : Enter) (program : Program) (world : World) :
    (engine.run enter program).perform world =
      match (engine.runFrom enter 0 program {}).perform world with
      | (.ok result, after) => (conclude result, after)
      | (.error failure, after) => (.error failure, after) := by
  unfold run
  rw [Op.perform_bind]
  rcases (engine.runFrom enter 0 program {}).perform world with ⟨failure | (_ | _), after⟩ <;> rfl

/-- A run returns exactly when its walk completes. -/
theorem perform_run_eq_ok_iff {engine : Engine} {enter : Enter} {program : Program}
    {world after : World} {result : RunResult} :
    (engine.run enter program).perform world = (.ok result, after) ↔
      ∃ tally, result = .completed tally ∧
        (engine.runFrom enter 0 program {}).perform world = (.ok (.completed tally), after) := by
  rw [perform_run]
  rcases (engine.runFrom enter 0 program {}).perform world with
    ⟨failure | (tally | ⟨code, tally⟩), final⟩
  · simp
  · simp only [conclude, Prod.mk.injEq, Except.ok.injEq, RunResult.completed.injEq]
    constructor
    · rintro ⟨rfl, rfl⟩
      exact ⟨tally, rfl, rfl, rfl⟩
    · rintro ⟨_, rfl, rfl, rfl⟩
      exact ⟨rfl, rfl⟩
  · simp [conclude]

section

variable {engine : Engine} {enter : Enter} {index : Nat} {program : Program} {tally : Tally}
  {world after : World} {visits : List Visit} {outcome : Except Failure RunResult}

/-- Some visited item demands an exit. -/
def ReachesExit (visits : List Visit) : Prop :=
  ∃ visit ∈ visits, ∃ code, visit.item.demand = .exit code

/-- A walk comes to an exit of its own exactly when it visits an item that demands one. -/
theorem Walk.reachesExit_iff
    (walk : engine.Walk enter index program tally world visits outcome after) :
    ReachesExit visits ↔ ∃ code final, outcome = .ok (.exited code final) := by
  induction walk with
  | finished => simp [ReachesExit]
  | @exited index item _ _ world code reached =>
    have demand := (engine.verdict_eq_exited_iff index item world code).mp reached
    simp [ReachesExit, demand]
  | failed reached =>
    have stays := demand_ne_exit reached nofun
    simp [ReachesExit, stays]
  | entered reached _ _ inductionHypothesis =>
    refine Iff.trans ?_ inductionHypothesis
    have stays := demand_ne_exit reached nofun
    simp [ReachesExit, stays]
  | passed reached passes _ inductionHypothesis =>
    refine Iff.trans ?_ inductionHypothesis
    have stays := demand_ne_exit reached (Verdict.ne_exited_of_passes passes)
    simp [ReachesExit, stays]

/-- Every function that the run of a program enters returns normally. -/
def NativesReturn (engine : Engine) (enter : Enter) (program : Program) (world : World) : Prop :=
  ∀ visit ∈ engine.visits enter program world, ∀ native,
    engine.verdictOn visit = .entered native → ((enter native).perform visit.world).1 = .ok ()

/-- A walk comes to a result exactly when every function that it enters returns. -/
theorem Walk.has_result_iff
    (walk : engine.Walk enter index program tally world visits outcome after) :
    (∃ result, outcome = .ok result) ↔
      ∀ visit ∈ visits, ∀ native, engine.verdictOn visit = .entered native →
        ((enter native).perform visit.world).1 = .ok () := by
  induction walk with
  | finished => simp
  | exited reached => simp [verdictOn, reached]
  | failed reached raised => simp [verdictOn, reached, raised]
  | entered reached returned _ inductionHypothesis =>
    refine inductionHypothesis.trans ?_
    simp [verdictOn, reached, returned]
  | passed reached passes _ inductionHypothesis =>
    refine inductionHypothesis.trans ?_
    have others := Verdict.ne_entered_of_passes passes
    simp [verdictOn, reached, others]

/-- The functions of a run all return exactly when the run comes to a result of its own. -/
theorem nativesReturn_iff :
    engine.NativesReturn enter program world ↔
      ∃ result, ((engine.runFrom enter 0 program {}).perform world).1 = .ok result :=
  (engine.walk enter 0 program {} world).has_result_iff.symm

/-- A run whose functions all return walks to a result and concludes with it. -/
theorem run_of_nativesReturn (natives : engine.NativesReturn enter program world) :
    ∃ result after, (engine.run enter program).perform world = (conclude result, after) ∧
      engine.Walk enter 0 program {} world (engine.visits enter program world) (.ok result)
        after := by
  have walked := engine.walk enter 0 program {} world
  obtain ⟨result, ended⟩ := nativesReturn_iff.mp natives
  refine ⟨result, ((engine.runFrom enter 0 program {}).perform world).2, ?_, ended ▸ walked⟩
  rw [perform_run]
  rcases performed : (engine.runFrom enter 0 program {}).perform world with ⟨outcome, after⟩
  rw [performed] at ended
  subst ended
  rfl

end

end Engine

end Switchboard
