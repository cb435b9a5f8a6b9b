import Switchboard.Module.Use

/-!
# Carrying out operations

Equations for `Op.perform`: how it passes through sequencing, failing and catching, and what
each primitive operation makes of a world. `World.record` is the only way in which the engine
changes a world by itself, and `World.withTrace` gives a world another past. Later modules
rewrite with these equations and never open the monad.
-/

namespace Switchboard

/-- The world once the outside has seen further events. -/
def World.record (world : World) (events : List Event) : World :=
  { world with trace := world.trace ++ events }

/-- Recording nothing changes nothing. -/
@[simp] theorem World.record_nil (world : World) : world.record [] = world := by
  simp [World.record]

@[simp] theorem World.record_trace (world : World) (events : List Event) :
    (world.record events).trace = world.trace ++ events := rfl

/-- The world with another past. -/
def World.withTrace (world : World) (past : List Event) : World := { world with trace := past }

@[simp] theorem World.trace_withTrace (world : World) (past : List Event) :
    (world.withTrace past).trace = past := rfl

/-- What is recorded behind another past. -/
@[simp] theorem World.withTrace_record (world : World) (past events : List Event) :
    (world.withTrace past).record events = world.withTrace (past ++ events) := rfl

/-- Another past takes the place of what was recorded. -/
@[simp] theorem World.record_withTrace (world : World) (past events : List Event) :
    (world.record events).withTrace past = world.withTrace past := rfl

namespace Op

variable {α β : Type}

/-! ## Sequencing -/

@[simp] theorem perform_pure (value : α) (world : World) :
    (pure value : Op α).perform world = (.ok value, world) := rfl

@[simp] theorem perform_throw (failure : Failure) (world : World) :
    (throw failure : Op α).perform world = (.error failure, world) := rfl

/-- The second operation goes on from the world that the first one left, unless that failed. -/
theorem perform_bind (operation : Op α) (next : α → Op β) (world : World) :
    (operation >>= next).perform world =
      match operation.perform world with
      | (.ok value, after) => (next value).perform after
      | (.error failure, after) => (.error failure, after) := by
  unfold perform
  simp only [ExceptT.run_bind, StateT.run_bind]
  cases StateT.run (ExceptT.run operation) world with
  | mk outcome after => cases outcome <;> rfl

/-- A handler sees only failures, and starts from the world that the failure left. -/
theorem perform_tryCatch (operation : Op α) (handler : Failure → Op α) (world : World) :
    (tryCatch operation handler).perform world =
      match operation.perform world with
      | (.ok value, after) => (.ok value, after)
      | (.error failure, after) => (handler failure).perform after := by
  change StateT.run (ExceptT.run (ExceptT.tryCatch operation handler)) world = _
  unfold perform ExceptT.tryCatch
  simp only [ExceptT.run, ExceptT.mk, StateT.run_bind]
  cases StateT.run operation world with
  | mk outcome after => cases outcome <;> rfl

/-! ## Primitive operations -/

@[simp] theorem perform_get (world : World) : (get : Op World).perform world = (.ok world, world) :=
  rfl

@[simp] theorem perform_modify (change : World → World) (world : World) :
    (modify change : Op Unit).perform world = (.ok (), change world) := rfl

@[simp] theorem perform_log (notice : Notice) (world : World) :
    (log notice).perform world = (.ok (), world.record [.logged notice]) := rfl

@[simp] theorem perform_printTo (stream : Option Stream) (line : Text) (world : World) :
    (printTo stream line).perform world =
      (.ok (), world.record [.wrote (stream.getD .stdout) (line ++ [newline])]) := rfl

@[simp] theorem perform_readExports (ref : ExportsRef) (world : World) :
    (readExports ref).perform world = (.ok (world.exports.read ref), world) := rfl

@[simp] theorem perform_readSnapshot (ref : SnapshotRef) (world : World) :
    (readSnapshot ref).perform world = (.ok (world.snapshots.read ref), world) := rfl

/-- A name without a function is logged; any other name enters its function. -/
theorem perform_invokeSnapshot (enter : Enter) (ref : SnapshotRef) (name : Text)
    (world : World) :
    (invokeSnapshot enter ref name).perform world =
      match (world.snapshots.read ref).functions.function? name with
      | none =>
          (.ok false, world.record [.logged (.unknownFunction name (world.snapshots.read ref).name)])
      | some native =>
          match (enter native).perform world with
          | (.ok (), after) => (.ok true, after)
          | (.error failure, after) => (.error failure, after) := by
  unfold invokeSnapshot invoke
  simp only [perform_bind, perform_readSnapshot]
  cases (world.snapshots.read ref).functions.function? name with
  | none => rfl
  | some native =>
    simp only [perform_bind, perform_pure]
    rcases (enter native).perform world with ⟨_ | _, after⟩ <;> rfl

end Op

end Switchboard
