import Switchboard.Engine
import Switchboard.Proofs.Operation

/-!
# What becomes of an item

`Item.demand` is what an item asks for as far as the item alone tells, and `Engine.verdict`
is what the engine makes of it in a given world. `Engine.perform_step` says that a step of the
engine is determined by the verdict: five things can happen to an item, and only one of them
leaves the engine's own code.
-/

namespace Switchboard

/-! ## Demands -/

/-- What an item asks of an engine. -/
inductive Demand where
  | rejected (rejection : Rejection)
  | unnamedCall
  | misnamedCall (name : Value)
  | call (module function : Text)
  | exit (code : Int)
  | unknown (kind : Text)

/-- The demand of an instruction. A name that has no function part can not be called. -/
def Instruction.demand (instruction : Instruction) : Demand :=
  if instruction.isCall then
    match instruction.name with
    | .null => .unnamedCall
    | .string name =>
        match Reference.split name with
        | (_, none) => .misnamedCall (.string name)
        | (module, some function) => .call module function
    | other => .misnamedCall other
  else if instruction.isExit then .exit instruction.exitCode
  else .unknown instruction.kind

/-- The demand of an item. -/
def Item.demand (item : Item) : Demand :=
  match item.accept with
  | .error rejection => .rejected rejection
  | .ok instruction => instruction.demand

/-- Only an accepted exit instruction demands an exit, and the code is its own. -/
theorem Item.demand_eq_exit {item : Item} {code : Int} (demand : item.demand = .exit code) :
    ∃ instruction, item.accept = .ok instruction ∧ instruction.isExit = true ∧
      code = instruction.exitCode := by
  unfold Item.demand at demand
  split at demand
  · cases demand
  · next instruction accepted =>
    refine ⟨instruction, accepted, ?_⟩
    unfold Instruction.demand at demand
    split at demand
    · split at demand
      · cases demand
      · split at demand <;> cases demand
      · cases demand
    · next notCall =>
      split at demand
      · next isExit =>
        cases demand
        exact ⟨isExit, rfl⟩
      · cases demand

/-- The function that an item calls, among the entries of an export table. -/
def Demand.callee? (entries : Text → Option Snapshot) : Demand → Option Native
  | .call module function =>
      (entries module).bind fun snapshot => snapshot.functions.function? function
  | _ => none

/-- The entries of an export table: the exported snapshots by name. -/
def World.entries (world : World) (exports : ExportsRef) (module : Text) : Option Snapshot :=
  ((world.exports.read exports).get? module).map world.snapshots.read

/-! ## Verdicts -/

/-- What becomes of an item: the engine reports it, the module it reached reports it, it is
passed over, a function is entered, or the run ends. -/
inductive Verdict where
  | diagnosed (diagnostic : Diagnostic)
  | unknownFunction (function : Text) (owner : Option Text)
  | skipped (module : Text)
  | entered (native : Native)
  | exited (code : Int)

namespace Verdict

/-- The diagnostics that an item adds to a run. -/
def diagnostics : Verdict → List Diagnostic
  | .diagnosed diagnostic => [diagnostic]
  | .unknownFunction function _ => [.unknownFunction function]
  | _ => []

/-- The calls that an item adds to a run that goes on behind it. -/
def calls : Verdict → Nat
  | .entered _ => 1
  | _ => 0

end Verdict

/-- The tally behind an item. -/
def Tally.count (tally : Tally) (verdict : Verdict) : Tally where
  executed := tally.executed + 1
  calls := tally.calls + verdict.calls
  diagnostics := tally.diagnostics ++ verdict.diagnostics

namespace Engine

/-- The verdict on a call of a function, given the exports and snapshots of a world. -/
def callVerdict (engine : Engine) (module function : Text) (world : World) : Verdict :=
  match (world.exports.read engine.exports).get? module with
  | none =>
      if engine.reporting.unknownModules then .diagnosed (.unknownModule module)
      else .skipped module
  | some snapshot =>
      match (world.snapshots.read snapshot).functions.function? function with
      | none => .unknownFunction function (world.snapshots.read snapshot).name
      | some native => .entered native

/-- The verdict on the item at an index. -/
def verdict (engine : Engine) (index : Nat) (item : Item) (world : World) : Verdict :=
  match item.demand with
  | .rejected rejection => .diagnosed (.malformed index rejection)
  | .unnamedCall => .diagnosed (.unnamedCall index)
  | .misnamedCall name => .diagnosed (.malformedReference name)
  | .call module function => engine.callVerdict module function world
  | .exit code => .exited code
  | .unknown kind => .diagnosed (.unknownInstruction kind)

/-- A run ends at an item exactly when the item demands it, in whatever world. -/
theorem verdict_eq_exited_iff (engine : Engine) (index : Nat) (item : Item) (world : World)
    (code : Int) :
    engine.verdict index item world = .exited code ↔ item.demand = .exit code := by
  unfold verdict
  cases item.demand with
  | call module function =>
    simp only [callVerdict, reduceCtorEq, iff_false]
    split
    · split <;> exact Verdict.noConfusion
    · split <;> exact Verdict.noConfusion
  | exit => simp
  | rejected | unnamedCall | misnamedCall | unknown => simp

/-- A function is entered exactly when the item calls it. -/
theorem verdict_eq_entered_iff (engine : Engine) (index : Nat) (item : Item) (world : World)
    (native : Native) :
    engine.verdict index item world = .entered native ↔
      item.demand.callee? (world.entries engine.exports) = some native := by
  unfold verdict
  cases item.demand with
  | call module function =>
    simp only [callVerdict, Demand.callee?, World.entries]
    cases (world.exports.read engine.exports).get? module with
    | none =>
      simp only [Option.map_none, Option.bind_none, reduceCtorEq, iff_false]
      split <;> exact Verdict.noConfusion
    | some snapshot =>
      simp only [Option.map_some, Option.bind_some]
      cases (world.snapshots.read snapshot).functions.function? function <;> simp
  | rejected | unnamedCall | misnamedCall | exit | unknown => simp [Demand.callee?]

/-- An item that comes to any other verdict demands no exit. -/
theorem demand_ne_exit {engine : Engine} {index : Nat} {item : Item} {world : World}
    {verdict : Verdict} (reached : engine.verdict index item world = verdict)
    (others : ∀ code, verdict ≠ .exited code) (code : Int) : item.demand ≠ .exit code := by
  intro demand
  rw [(engine.verdict_eq_exited_iff index item world code).mpr demand] at reached
  exact others code reached.symm

/-- What the outside sees of a verdict besides the events of an entered function. -/
def announcement (engine : Engine) : Verdict → List Event
  | .diagnosed diagnostic => [.logged (.diagnosed diagnostic)]
  | .unknownFunction function owner => [.logged (.unknownFunction function owner)]
  | .skipped module => [.logged (.skippedCall module)]
  | .entered _ => []
  | .exited code =>
      if engine.reporting.exitNotice then
        [.wrote (engine.stream.getD .stdout) (exitNotice (.int code) ++ [newline])]
      else []

/-- Carry out a verdict. -/
def carryOut (engine : Engine) (enter : Enter) (verdict : Verdict) (tally : Tally)
    (world : World) : Except Failure Progress × World :=
  match verdict with
  | .entered native =>
      match (enter native).perform world with
      | (.ok (), after) => (.ok (.goesOn (tally.count verdict)), after)
      | (.error failure, after) => (.error failure, after)
  | .exited code =>
      (.ok (.exits code (tally.count verdict)), world.record (engine.announcement verdict))
  | _ => (.ok (.goesOn (tally.count verdict)), world.record (engine.announcement verdict))

/-! ## Steps -/

theorem perform_diagnose (tally : Tally) (diagnostic : Diagnostic) (world : World) :
    (diagnose tally diagnostic).perform world =
      (.ok { tally with diagnostics := tally.diagnostics ++ [diagnostic] },
        world.record [.logged (.diagnosed diagnostic)]) := rfl

/-- The tally that a step hands on when it calls or reports an item. -/
def handedOn (outcome : Except Failure Tally × World) : Except Failure Progress × World :=
  (outcome.1.map .goesOn, outcome.2)

/-- A step that hands on its tally fails exactly when the operation inside it fails. -/
theorem perform_goesOn (operation : Op Tally) (world : World) :
    (do return Progress.goesOn (← operation)).perform world = handedOn (operation.perform world) := by
  simp only [Op.perform_bind, Op.perform_pure, handedOn]
  rcases operation.perform world with ⟨failure | tally, after⟩ <;> rfl

/-- A call of a function comes to its verdict, the item being counted already. -/
theorem perform_callFunction (engine : Engine) (enter : Enter) (module function : Text)
    (tally : Tally) (world : World) :
    handedOn ((engine.callFunction enter module function
      { tally with executed := tally.executed + 1 }).perform world) =
      engine.carryOut enter (engine.callVerdict module function world) tally world := by
  unfold callFunction callVerdict
  simp only [Op.perform_bind, Op.perform_readExports]
  cases (world.exports.read engine.exports).get? module with
  | none =>
    by_cases reported : engine.reporting.unknownModules = true
    · simp only [reported, if_true, perform_diagnose]
      rfl
    · simp only [reported, if_false, Bool.false_eq_true, Op.perform_bind, Op.perform_log]
      simp [carryOut, handedOn, Tally.count, Verdict.calls, Verdict.diagnostics, announcement,
        Except.map]
  | some snapshot =>
    simp only [Op.perform_bind, Op.perform_invokeSnapshot]
    cases (world.snapshots.read snapshot).functions.function? function with
    | none => rfl
    | some native =>
      simp only [carryOut]
      rcases (enter native).perform world with ⟨failure | _, after⟩
      · rfl
      · simp [handedOn, Tally.count, Verdict.calls, Verdict.diagnostics, Except.map]

/-- A step of the engine comes to the verdict on its item. -/
theorem perform_step (engine : Engine) (enter : Enter) (index : Nat) (item : Item)
    (tally : Tally) (world : World) :
    (engine.step enter index item tally).perform world =
      engine.carryOut enter (engine.verdict index item world) tally world := by
  unfold step verdict Item.demand
  cases item.accept with
  | error rejection => rfl
  | ok instruction =>
    by_cases isCall : instruction.isCall = true
    · simp only [isCall, if_true, Instruction.demand, perform_goesOn, call]
      cases instruction.name with
      | null => rfl
      | string name =>
        rcases parts : Reference.split name with ⟨module, _ | function⟩
        · simp only [parts]
          rfl
        · simp only [parts]
          exact perform_callFunction engine enter module function tally world
      | bool | int | float | array | object => rfl
    · by_cases isExit : instruction.isExit = true
      · simp only [isCall, isExit, if_true, if_false, Bool.false_eq_true, Instruction.demand,
          exit, carryOut, announcement]
        by_cases noticed : engine.reporting.exitNotice = true
        · simp only [noticed, if_true, Op.perform_bind, Op.perform_printTo]
          simp [Tally.count, Verdict.calls, Verdict.diagnostics]
        · simp only [noticed, if_false, Bool.false_eq_true]
          simp [Tally.count, Verdict.calls, Verdict.diagnostics]
      · simp only [isCall, isExit, if_false, Bool.false_eq_true, Instruction.demand]
        rfl

end Engine

end Switchboard
