import Switchboard.Proofs.History

/-!
# Blindness to past events

The trace of a world is what the outside has seen. Operations add to it, and none of those
that host scripts are made of looks back at it: this is `Op.Blind`, and
`Op.blind_discipline` says that it is a discipline. Blindness is what lets a run be moved to a
world whose past differs.
-/

namespace Switchboard

/-- The world with earlier events in front of those it has seen. -/
def World.behind (world : World) (earlier : List Event) : World :=
  { world with trace := earlier ++ world.trace }

/-- The world that nothing has been seen of. -/
def World.unseen (world : World) : World := world.withTrace []

/-- A world is its own past put in front of an empty trace. -/
theorem World.unseen_behind (world : World) : world.unseen.behind world.trace = world := by
  simp [World.unseen, World.behind, World.withTrace]

namespace Op

variable {α β : Type}

/-- An operation is blind when past events do not matter to it: with earlier events in front
of the trace it does the same, and leaves them in front. -/
def Blind (operation : Op α) : Prop :=
  ∀ world earlier, operation.perform (world.behind earlier) =
    ((operation.perform world).1, (operation.perform world).2.behind earlier)

/-- What a blind operation does is what it does from an unseen world, behind the past. -/
theorem Blind.perform_eq {operation : Op α} (blind : operation.Blind) (world : World) :
    operation.perform world = ((operation.perform world.unseen).1,
      (operation.perform world.unseen).2.behind world.trace) := by
  have moved := blind world.unseen world.trace
  rwa [world.unseen_behind] at moved

/-- A blind operation adds the events that it adds from an unseen world. -/
theorem Blind.trace_perform {operation : Op α} (blind : operation.Blind) (world : World) :
    (operation.perform world).2.trace =
      world.trace ++ (operation.perform world.unseen).2.trace := by
  rw [blind.perform_eq world]
  rfl

/-- From a world with another past a blind operation does the same behind that past. -/
theorem Blind.perform_past {operation : Op α} (blind : operation.Blind) (world : World)
    (past : List Event) :
    operation.perform (world.withTrace past) = ((operation.perform world).1,
      (operation.perform world).2.withTrace
        (past ++ (operation.perform world.unseen).2.trace)) := by
  rw [blind.perform_eq (world.withTrace past), blind.perform_eq world]
  rfl

/-- A change is blind when it commutes with putting events in front. -/
protected theorem Blind.modify {change : World → World}
    (commutes : ∀ world earlier, change (world.behind earlier) = (change world).behind earlier) :
    (modify change : Op Unit).Blind := by
  intro world earlier
  exact congrArg (Prod.mk _) (commutes world earlier)

/-- Two blind operations in sequence are blind. -/
protected theorem Blind.bind {operation : Op α} {next : α → Op β} (first : operation.Blind)
    (second : ∀ value, (next value).Blind) : (operation >>= next).Blind := by
  intro world earlier
  rw [perform_bind, perform_bind, first world earlier]
  rcases operation.perform world with ⟨failure | value, after⟩
  · rfl
  · exact second value after earlier

/-- Catching the failures of a blind operation with a blind handler is blind. -/
protected theorem Blind.tryCatch {operation : Op α} {handler : Failure → Op α} (body : operation.Blind)
    (handles : ∀ failure, (handler failure).Blind) : (tryCatch operation handler).Blind := by
  intro world earlier
  rw [perform_tryCatch, perform_tryCatch, body world earlier]
  rcases operation.perform world with ⟨failure | value, after⟩
  · exact handles failure after earlier
  · rfl

/-- What goes on from a look at the world is blind when it makes nothing of the trace. -/
theorem Blind.look {next : World → Op α} (continues : ∀ world, (next world).Blind)
    (ignores : ∀ world events, next { world with trace := events } = next world) :
    (get >>= next).Blind := by
  intro world earlier
  rw [perform_bind, perform_bind, perform_get, perform_get]
  have same : next (world.behind earlier) = next world := ignores world _
  simp only [same]
  exact continues world world earlier

/-- Every change is blind, but for putting the events aside. -/
theorem Blind.make {change : Change} (forward : change ≠ .unseen) : (make change).Blind := by
  refine .modify fun world earlier => ?_
  cases change with
  | unseen => exact absurd rfl forward
  | seen | published => simp [World.apply, World.behind, World.record]
  | _ => rfl

/-- Blindness is a discipline. -/
theorem blind_discipline : Discipline (fun _ operation => operation.Blind) fun _ use =>
    ∀ snapshot, (use snapshot).Blind :=
  Foundation.discipline {
    pure := fun _ _ _ => rfl
    throw := fun _ _ _ => rfl
    bind := .bind
    tryCatch := .tryCatch
    look := .look
    make := fun _ forward => .make forward }

end Op

/-- Every native function is entered blindly. -/
def Enter.Blind (enter : Enter) : Prop := ∀ native, (enter native).Blind

/-- Native functions that are host scripts are entered blindly. -/
theorem Op.enterNative_blind (around : Surroundings) (depth : Nat) :
    Enter.Blind (Op.enterNative (Op.runBody around depth)) :=
  Op.blind_discipline.enterNative (Op.blind_discipline.runBody around depth)

end Switchboard
