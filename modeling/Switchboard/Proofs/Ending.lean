import Switchboard.Proofs.Composition

/-!
# How a run is cut short

No item that cannot be carried out stops a run, and no failure of an entered function is
caught. `Engine.Stops` names the two things that do end a run early, and
`Engine.run_fails_iff` says that a run fails exactly where one of them happens, behind items
that have done what they do as a program of their own.
-/

namespace Switchboard.Engine

/-- What stops a run at an item: the exit that the item demands, with the result up to and
including it, or the failure of the function that the item calls, just as it was raised. -/
inductive Stops (engine : Engine) (enter : Enter) (item : Item) (before : Tally)
    (between : World) : Failure → World → Prop where
  | exits {code : Int} (demand : item.demand = .exit code) :
      Stops engine enter item before between
        (.exit (.int code)
          (some (.exited code { before with executed := before.executed + 1 })))
        (between.record (engine.announcement (.exited code)))
  | raises {native : Native} {failure : Failure} {after : World}
      (called : item.demand.callee? (between.entries engine.exports) = some native)
      (raised : (enter native).perform between = (.error failure, after)) :
      Stops engine enter item before between failure after

theorem count_exited (tally : Tally) (code : Int) :
    tally.count (.exited code) = { tally with executed := tally.executed + 1 } := by
  simp [Tally.count, Verdict.calls, Verdict.diagnostics]

/-- A run comes to what its walk concludes. -/
theorem perform_run_bind (engine : Engine) (enter : Enter) (program : Program) (world : World) :
    (engine.run enter program).perform world =
      (((engine.runFrom enter 0 program {}).perform world).1.bind conclude,
        ((engine.runFrom enter 0 program {}).perform world).2) := by
  rw [perform_run]
  rcases (engine.runFrom enter 0 program {}).perform world with ⟨failure | result, after⟩ <;> rfl

section

variable {engine : Engine} {enter : Enter} {index : Nat} {item : Item} {earlier later : Program}
  {program : Program} {tally before : Tally} {world between after : World}
  {visits : List Visit} {outcome : Except Failure RunResult} {failure : Failure}

/-- One item in front of items that complete. -/
theorem perform_runFrom_cons_completed
    (first : engine.carryOut enter (engine.verdict index item world) tally world =
      (.ok (.goesOn before), between)) :
    (engine.runFrom enter index (item :: later) tally).perform world =
      (engine.runFrom enter (index + 1) later before).perform between := by
  rw [perform_runFrom_cons, first]

/-- A walk that fails, or ends at an exit, is stopped at an item behind items that complete. -/
theorem Walk.stopped (walk : engine.Walk enter index program tally world visits outcome after)
    (failed : outcome.bind conclude = .error failure) :
    ∃ earlier item later before between, program = earlier ++ item :: later ∧
      (engine.runFrom enter index earlier tally).perform world =
        (.ok (.completed before), between) ∧
      engine.Stops enter item before between failure after := by
  induction walk with
  | finished => cases failed
  | @exited index item rest tally world code reached =>
    cases failed
    refine ⟨[], item, rest, tally, world, rfl, rfl, ?_⟩
    rw [count_exited]
    exact .exits ((engine.verdict_eq_exited_iff index item world code).mp reached)
  | @failed index item rest tally world native raised after reached performed =>
    cases failed
    refine ⟨[], item, rest, tally, world, rfl, rfl, ?_⟩
    exact .raises ((engine.verdict_eq_entered_iff index item world native).mp reached) performed
  | @entered index item _ tally _ _ _ _ _ _ reached returned _ inductionHypothesis =>
    obtain ⟨earlier, stop, later, before, between, rfl, ran, stops⟩ := inductionHypothesis failed
    refine ⟨item :: earlier, stop, later, before, between, rfl, ?_, stops⟩
    rw [perform_runFrom_cons_completed (by rw [reached, carryOut, returned]), ran]
  | @passed index item _ tally _ _ _ _ _ reached passes _ inductionHypothesis =>
    obtain ⟨earlier, stop, later, before, between, rfl, ran, stops⟩ := inductionHypothesis failed
    refine ⟨item :: earlier, stop, later, before, between, rfl, ?_, stops⟩
    rw [perform_runFrom_cons_completed (by rw [reached, carryOut_passes engine enter passes]), ran]

/-- Behind items that complete, what stops an item stops the run, whatever comes later. -/
theorem Stops.perform_run
    (ran : (engine.runFrom enter 0 earlier {}).perform world = (.ok (.completed before), between))
    (stops : engine.Stops enter item before between failure after) :
    (engine.run enter (earlier ++ item :: later)).perform world = (.error failure, after) := by
  rw [Engine.perform_run, perform_runFrom_append, ran]
  simp only [Nat.zero_add, perform_runFrom_cons]
  cases stops with
  | @exits code demand =>
    rw [(engine.verdict_eq_exited_iff earlier.length item between code).mpr demand]
    simp only [carryOut, count_exited, conclude]
  | @raises native _ _ called raised =>
    rw [(engine.verdict_eq_entered_iff earlier.length item between native).mpr called]
    simp only [carryOut, raised]

end

/-- A run fails exactly when some item stops it: the items in front of that one return when
they are run as a program of their own, the failure and the world are those of the item from
the world that they leave, and what comes behind it does not matter. The item either demands
an exit, which carries the result, or calls a function that raises the failure itself. When no
function raises, the run returns a completed result or fails with an exit that carries one. -/
theorem run_fails_iff (engine : Engine) (enter : Enter) (program : Program) (world : World) :
    (∀ failure after,
      (engine.run enter program).perform world = (.error failure, after) ↔
        ∃ earlier item later before between, program = earlier ++ item :: later ∧
          (engine.run enter earlier).perform world = (.ok (.completed before), between) ∧
          engine.Stops enter item before between failure after) ∧
    (engine.NativesReturn enter program world →
      (∃ tally, ((engine.run enter program).perform world).1 = .ok (.completed tally)) ∨
      ∃ code tally, ((engine.run enter program).perform world).1 =
        .error (.exit (.int code) (some (.exited code tally)))) := by
  constructor
  · intro failure after
    constructor
    · intro failed
      rw [perform_run_bind] at failed
      obtain ⟨concluded, rfl⟩ := Prod.mk.inj failed
      obtain ⟨earlier, item, later, before, between, split, ran, stops⟩ :=
        (engine.walk enter 0 program {} world).stopped concluded
      have returned := perform_run_eq_ok_iff.mpr ⟨before, rfl, ran⟩
      exact ⟨earlier, item, later, before, between, split, returned, stops⟩
    · rintro ⟨earlier, item, later, before, between, rfl, returned, stops⟩
      obtain ⟨_, ⟨⟩, ran⟩ := perform_run_eq_ok_iff.mp returned
      exact stops.perform_run ran
  · intro natives
    obtain ⟨result, after, ran, -⟩ := run_of_nativesReturn natives
    rw [ran]
    cases result with
    | completed tally => exact .inl ⟨tally, rfl⟩
    | exited code tally => exact .inr ⟨code, tally, rfl⟩

/-- A value that is no instruction and a name without a function do not stop a run; the error
that a function raises does, and the item behind it does nothing. -/
theorem run_fails_iff_raised :
    let native : Native :=
      ⟨0, .script [(none, .print (text "in")), (none, .raise .value (text "bad"))]⟩
    let world : World :=
      { exports := Store.empty.write ⟨0⟩ (Table.empty.put (text "M") ⟨0⟩)
        snapshots := Store.empty.write ⟨0⟩
          { functions := (Table.empty.put (text "f") (some native)).put (text "hole") none } }
    let enter : Enter := Op.enterNative (Op.runBody ⟨⟨fun _ => .error .notFound⟩, ⟨[]⟩⟩ 1)
    let engine : Engine := ⟨⟨0⟩, ⟨false, false⟩, none⟩
    let earlier : Program :=
      [.raw .null, .model ⟨text "call", .string (text "M.hole"), .null, .null, []⟩]
    let call : Item := .model ⟨text "call", .string (text "M.f"), .null, .null, []⟩
    engine.NativesReturn enter earlier world ∧
      (∃ tally, ((engine.run enter earlier).perform world).1 = .ok (.completed tally)) ∧
      ((engine.run enter (earlier ++ [call, .raw .null])).perform world).1 =
        .error (.raised .value (text "bad")) ∧
      ((engine.run enter (earlier ++ [call, .raw .null])).perform world).2.trace =
        [.logged (.diagnosed (.malformed 0 (.notObject (text "NoneType")))),
          .logged (.unknownFunction (text "hole") none),
          .wrote .stdout (text "in" ++ [newline])] := by
  intro native world enter engine earlier call
  have natives : engine.NativesReturn enter earlier world := nativesReturn_iff.mpr ⟨_, rfl⟩
  have failed := ((run_fails_iff engine enter (earlier ++ [call, .raw .null]) world).1 _ _).mpr
    ⟨earlier, call, [.raw .null], _, _, rfl, rfl, .raises rfl rfl⟩
  refine ⟨natives, ?_, congrArg Prod.fst failed, congrArg (World.trace ∘ Prod.snd) failed⟩
  rcases (run_fails_iff engine enter earlier world).2 natives with returned | ⟨_, _, exited⟩
  · exact returned
  · cases exited

end Switchboard.Engine
