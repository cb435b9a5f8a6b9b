import Switchboard.Proofs.Blindness
import Switchboard.Proofs.Walk

/-!
# Programs one behind the other

A run of two programs joined in one is a run of the first and then of the second.
`Engine.run_append` says in what the second run differs from a run of its own: it counts on
from the tally of the first, and what it says about the place of an item is moved by the
length of the first. Functions that are entered see no difference, so that nothing they do
is moved.
-/

namespace Switchboard

/-! ## Moved items -/

/-- A diagnostic on an item that stands behind further items. -/
def Diagnostic.moved (offset : Nat) : Diagnostic → Diagnostic
  | .malformed index rejection => .malformed (index + offset) rejection
  | .unnamedCall index => .unnamedCall (index + offset)
  | other => other

/-- A verdict on an item that stands behind further items. -/
def Verdict.moved (offset : Nat) : Verdict → Verdict
  | .diagnosed diagnostic => .diagnosed (diagnostic.moved offset)
  | other => other

/-- What the engine lets be seen of an item that stands behind further items. -/
def Event.moved (offset : Nat) : Event → Event
  | .logged (.diagnosed diagnostic) => .logged (.diagnosed (diagnostic.moved offset))
  | other => other

/-- The tally of a run that counts on from an earlier one. -/
def Tally.resumed (earlier : Tally) (offset : Nat) (tally : Tally) : Tally where
  executed := earlier.executed + tally.executed
  calls := earlier.calls + tally.calls
  diagnostics := earlier.diagnostics ++ tally.diagnostics.map (Diagnostic.moved offset)

/-- The result of a run that counts on from an earlier one. -/
def RunResult.resumed (earlier : Tally) (offset : Nat) : RunResult → RunResult
  | .completed tally => .completed (earlier.resumed offset tally)
  | .exited code tally => .exited code (earlier.resumed offset tally)

theorem Verdict.passes_moved (verdict : Verdict) (offset : Nat) :
    (verdict.moved offset).passes = verdict.passes := by
  cases verdict <;> rfl

/-- Counting on commutes with counting. -/
theorem Tally.resumed_count (earlier : Tally) (offset : Nat) (tally : Tally)
    (verdict : Verdict) :
    (earlier.resumed offset tally).count (verdict.moved offset) =
      earlier.resumed offset (tally.count verdict) := by
  cases verdict <;>
    simp [Tally.resumed, Tally.count, Verdict.moved, Verdict.calls, Verdict.diagnostics,
      Diagnostic.moved, Nat.add_assoc]

/-- A tally that counts on from the start of a run of its own. -/
theorem Tally.resumed_empty (earlier : Tally) (offset : Nat) :
    earlier.resumed offset {} = earlier := by
  simp [Tally.resumed]

namespace Engine

/-- The verdict on an item is moved with the item, whatever has been seen before. -/
theorem verdict_moved (engine : Engine) (index offset : Nat) (item : Item) (world : World)
    (past : List Event) :
    engine.verdict (index + offset) item (world.withTrace past) =
      (engine.verdict index item world).moved offset := by
  unfold verdict
  cases item.demand with
  | call module function =>
    simp only [callVerdict, World.withTrace]
    cases (world.exports.read engine.exports).get? module with
    | none =>
      dsimp only
      split <;> rfl
    | some snapshot =>
      dsimp only
      cases (world.snapshots.read snapshot).functions.function? function <;> rfl
  | rejected | unnamedCall | misnamedCall | exit | unknown => rfl

theorem announcement_moved (engine : Engine) (offset : Nat) (verdict : Verdict) :
    engine.announcement (verdict.moved offset) =
      (engine.announcement verdict).map (Event.moved offset) := by
  cases verdict with
  | exited code =>
    simp only [announcement, Verdict.moved]
    split <;> rfl
  | diagnosed | unknownFunction | skipped | entered => rfl

/-! ## Events by item -/

/-- What the outside sees of a visited item. -/
def eventsOf (engine : Engine) (enter : Enter) (visit : Visit) : List Event :=
  ((engine.step enter visit.index visit.item {}).perform visit.world.unseen).2.trace

/-- What the outside sees of an item that stands behind further items: the engine's own words
are moved, the events of an entered function are not. -/
def movedEventsOf (engine : Engine) (enter : Enter) (offset : Nat) (visit : Visit) :
    List Event :=
  match engine.verdictOn visit with
  | .entered _ => engine.eventsOf enter visit
  | _ => (engine.eventsOf enter visit).map (Event.moved offset)

theorem verdict_unseen (engine : Engine) (index : Nat) (item : Item) (world : World) :
    engine.verdict index item world.unseen = engine.verdict index item world := rfl

section

variable {engine : Engine} {index : Nat} {item : Item} {world after : World} {verdict : Verdict}
  {native : Native}

/-- The events of an item that enters a function are those of the function. -/
theorem eventsOf_entered (enter : Enter)
    (reached : engine.verdict index item world = .entered native) :
    engine.eventsOf enter ⟨index, item, world⟩ =
      ((enter native).perform world.unseen).2.trace := by
  unfold eventsOf
  rw [perform_step, verdict_unseen, reached]
  simp only [carryOut]
  rcases (enter native).perform world.unseen with ⟨failure | _, after⟩ <;> rfl

/-- The events of any other item are the engine's own. -/
theorem eventsOf_announced (enter : Enter)
    (reached : engine.verdict index item world = verdict)
    (stays : ∀ native, verdict ≠ .entered native) :
    engine.eventsOf enter ⟨index, item, world⟩ = engine.announcement verdict := by
  unfold eventsOf
  rw [perform_step, verdict_unseen, reached]
  cases verdict with
  | entered native => exact absurd rfl (stays native)
  | diagnosed | unknownFunction | skipped | exited => exact List.nil_append _

theorem movedEventsOf_entered (enter : Enter) (offset : Nat)
    (reached : engine.verdict index item world = .entered native) :
    engine.movedEventsOf enter offset ⟨index, item, world⟩ =
      engine.eventsOf enter ⟨index, item, world⟩ := by
  simp only [movedEventsOf, verdictOn, reached]

theorem movedEventsOf_announced (enter : Enter) (offset : Nat)
    (reached : engine.verdict index item world = verdict)
    (stays : ∀ native, verdict ≠ .entered native) :
    engine.movedEventsOf enter offset ⟨index, item, world⟩ =
      engine.announcement (verdict.moved offset) := by
  rw [announcement_moved, ← eventsOf_announced enter reached stays]
  cases verdict with
  | entered native => exact absurd rfl (stays native)
  | diagnosed | unknownFunction | skipped | exited =>
    simp only [movedEventsOf, verdictOn, reached]

/-- An entered function adds the events of its item to any past. -/
theorem perform_entered_past {enter : Enter} {outcome : Except Failure Unit}
    (blind : enter.Blind) (reached : engine.verdict index item world = .entered native)
    (performed : (enter native).perform world = (outcome, after)) (past : List Event) :
    (enter native).perform (world.withTrace past) =
      (outcome, after.withTrace (past ++ engine.eventsOf enter ⟨index, item, world⟩)) := by
  rw [(blind native).perform_past world past, performed, eventsOf_entered enter reached]

/-- In particular it adds them to the past of its own world. -/
theorem trace_entered {enter : Enter} {outcome : Except Failure Unit}
    (blind : enter.Blind) (reached : engine.verdict index item world = .entered native)
    (performed : (enter native).perform world = (outcome, after)) :
    after.trace = world.trace ++ engine.eventsOf enter ⟨index, item, world⟩ := by
  have added := (blind native).trace_perform world
  rwa [performed, ← eventsOf_entered enter reached] at added

end

/-! ## Moved runs -/

section

variable {engine : Engine} {enter : Enter} {index : Nat} {program : Program} {tally : Tally}
  {world after : World} {visits : List Visit} {outcome : Except Failure RunResult}

/-- A walk lets be seen what its items let be seen, in order. -/
theorem Walk.trace_eq (blind : enter.Blind)
    (walk : engine.Walk enter index program tally world visits outcome after) :
    after.trace = world.trace ++ visits.flatMap (engine.eventsOf enter) := by
  induction walk with
  | finished => simp
  | exited reached => simp [eventsOf_announced enter reached]
  | failed reached raised =>
    rw [trace_entered blind reached raised]
    simp
  | entered reached returned _ inductionHypothesis =>
    rw [inductionHypothesis, trace_entered blind reached returned]
    simp
  | passed reached passes _ inductionHypothesis =>
    rw [inductionHypothesis, World.record_trace,
      ← eventsOf_announced enter reached (Verdict.ne_entered_of_passes passes)]
    simp

/-- A walk that counts on from an earlier run, behind any past: the items come to the same
verdicts but for their place, and the functions they enter do the same. -/
theorem Walk.moved (blind : enter.Blind)
    (walk : engine.Walk enter index program tally world visits outcome after)
    (offset : Nat) (earlier : Tally) (past : List Event) :
    (engine.runFrom enter (index + offset) program (earlier.resumed offset tally)).perform
        (world.withTrace past) =
      (outcome.map (RunResult.resumed earlier offset),
        after.withTrace (past ++ visits.flatMap (engine.movedEventsOf enter offset))) := by
  induction walk generalizing past with
  | finished => simp [Except.map, RunResult.resumed]
  | exited reached =>
    rw [perform_runFrom_cons, verdict_moved, reached]
    simp only [List.flatMap_singleton,
      movedEventsOf_announced enter offset reached (by simp)]
    simp only [carryOut, Verdict.moved, World.withTrace_record, World.record_withTrace,
      Except.map, RunResult.resumed, ← Tally.resumed_count]
  | failed reached raised =>
    rw [perform_runFrom_cons, verdict_moved, reached]
    simp only [List.flatMap_singleton, movedEventsOf_entered enter offset reached]
    simp only [carryOut, Verdict.moved, perform_entered_past blind reached raised, Except.map]
  | @entered index _ _ tally _ native _ _ _ _ reached returned _ inductionHypothesis =>
    have counted := Tally.resumed_count earlier offset tally (.entered native)
    rw [perform_runFrom_cons, verdict_moved, reached]
    simp only [carryOut, Verdict.moved, perform_entered_past blind reached returned]
    simp only [Verdict.moved] at counted
    rw [counted, Nat.add_right_comm, inductionHypothesis]
    simp [movedEventsOf_entered enter offset reached]
  | @passed index _ _ tally _ verdict _ _ _ reached passes _ inductionHypothesis =>
    have stays := Verdict.ne_entered_of_passes passes
    rw [perform_runFrom_cons, verdict_moved, reached,
      carryOut_passes engine enter (verdict.passes_moved offset ▸ passes)]
    simp only [Tally.resumed_count, World.withTrace_record]
    rw [← World.record_withTrace _ _ (engine.announcement verdict), Nat.add_right_comm,
      inductionHypothesis]
    simp [movedEventsOf_announced enter offset reached stays]

end

/-! ## Joined programs -/

/-- A walk over two programs goes on with the second where the first completes; every other
ending of the first is the ending of both. -/
theorem perform_runFrom_append (engine : Engine) (enter : Enter) (index : Nat)
    (first second : Program) (tally : Tally) (world : World) :
    (engine.runFrom enter index (first ++ second) tally).perform world =
      match (engine.runFrom enter index first tally).perform world with
      | (.ok (.completed tally), between) =>
          (engine.runFrom enter (index + first.length) second tally).perform between
      | other => other := by
  induction first generalizing index tally world with
  | nil => rfl
  | cons item rest inductionHypothesis =>
    rw [List.cons_append, perform_runFrom_cons, perform_runFrom_cons]
    rcases engine.carryOut enter (engine.verdict index item world) tally world with
      ⟨failure | (tally | _), after⟩
    · rfl
    · simp only [List.length_cons]
      rw [inductionHypothesis, Nat.add_comm rest.length 1, Nat.add_assoc]
    · rfl

/-- A walk that counts on from an earlier run does what it does of its own, but for the
counts and places. -/
theorem perform_runFrom_resumed {enter : Enter} (blind : enter.Blind) (engine : Engine)
    (earlier : Tally) (offset : Nat) (program : Program) (world : World) :
    (engine.runFrom enter offset program earlier).perform world =
      (((engine.runFrom enter 0 program {}).perform world).1.map
          (RunResult.resumed earlier offset),
        ((engine.runFrom enter 0 program {}).perform world).2.withTrace (world.trace ++
          (engine.visits enter program world).flatMap
            (engine.movedEventsOf enter offset))) := by
  have moved := (engine.walk enter 0 program {} world).moved blind offset earlier world.trace
  rwa [Tally.resumed_empty, Nat.zero_add] at moved

/-- When a run fails, so does every run of a longer program that begins with it. -/
theorem perform_run_append_of_error {engine : Engine} {enter : Enter} {first : Program}
    {world after : World} {failure : Failure} (second : Program)
    (failed : (engine.run enter first).perform world = (.error failure, after)) :
    (engine.run enter (first ++ second)).perform world = (.error failure, after) := by
  rw [perform_run] at failed ⊢
  rw [perform_runFrom_append]
  rcases ended : (engine.runFrom enter 0 first {}).perform world with
    ⟨raised | (tally | ⟨code, tally⟩), final⟩ <;> rw [ended] at failed
  · exact failed
  · cases failed
  · exact failed

/-- A run of two programs joined in one. When the first alone fails, by its own exit or in a
function, so do both, with the same failure and the same world. When the first alone returns,
both end as the second does from the world in which the first ended, but the result counts on
and places are moved: also the result that the second's own exit carries, and not one that a
failing function carries out of a run of its own. Functions may do anything but look back at
the events, which no function of a host can (`Op.enterNative_blind`). -/
theorem run_append (engine : Engine) (enter : Enter) (first second : Program) (world : World) :
    (∀ failure after, (engine.run enter first).perform world = (.error failure, after) →
      (engine.run enter (first ++ second)).perform world = (.error failure, after)) ∧
    (enter.Blind → ∀ earlier between,
      (engine.run enter first).perform world = (.ok earlier, between) →
      ∀ outcome after, (engine.run enter second).perform between = (outcome, after) →
        let visits := engine.visits enter second between
        let resumed := RunResult.resumed earlier.tally first.length
        let joined := (engine.run enter (first ++ second)).perform world
        let moved := between.trace ++ visits.flatMap (engine.movedEventsOf enter first.length)
        after.trace = between.trace ++ visits.flatMap (engine.eventsOf enter) ∧
        joined.2 = after.withTrace moved ∧
        (∀ result, outcome = .ok result → joined.1 = .ok (resumed result)) ∧
        (∀ failure, outcome = .error failure → ReachesExit visits →
          ∃ code result, failure = .exit (.int code) (some result) ∧
            joined.1 = .error (.exit (.int code) (some (resumed result)))) ∧
        (∀ failure, outcome = .error failure → ¬ ReachesExit visits →
          joined.1 = .error failure)) := by
  refine ⟨fun failure after => perform_run_append_of_error second, ?_⟩
  intro blind earlier between returned outcome after alone visits resumed joined moved
  obtain ⟨tally, rfl, completed⟩ := perform_run_eq_ok_iff.mp returned
  have walked := engine.walk enter 0 second {} between
  have joinedRun : joined = _ := perform_run engine enter (first ++ second) world
  rw [perform_runFrom_append, completed] at joinedRun
  simp only [Nat.zero_add] at joinedRun
  rw [perform_runFrom_resumed blind engine tally first.length second between] at joinedRun
  rw [perform_run] at alone
  rcases ended : (engine.runFrom enter 0 second {}).perform between with
    ⟨raised | (final | ⟨code, final⟩), last⟩ <;>
    rw [ended] at alone joinedRun walked <;>
    cases alone
  · have missed : ¬ ReachesExit visits := by
      intro reached
      obtain ⟨_, _, impossible⟩ := walked.reachesExit_iff.mp reached
      cases impossible
    refine ⟨walked.trace_eq blind, congrArg Prod.snd joinedRun, nofun, ?_, ?_⟩
    · exact fun _ _ reached => absurd reached missed
    · rintro failure ⟨⟩ _
      exact congrArg Prod.fst joinedRun
  · refine ⟨walked.trace_eq blind, congrArg Prod.snd joinedRun, ?_, nofun, nofun⟩
    rintro result ⟨⟩
    exact congrArg Prod.fst joinedRun
  · have reached : ReachesExit visits := walked.reachesExit_iff.mpr ⟨code, final, rfl⟩
    refine ⟨walked.trace_eq blind, congrArg Prod.snd joinedRun, nofun, ?_, ?_⟩
    · rintro failure ⟨⟩ _
      exact ⟨code, .exited code final, rfl, congrArg Prod.fst joinedRun⟩
    · exact fun _ _ missed => absurd reached missed

/-- A function that runs a program of its own is called behind another item: the place in its
own message stays, the places in those of the joined program are moved. -/
theorem run_append_nested :
    let native : Native :=
      ⟨0, .script [(none, .execute (.exports (text "r")) {} none (.values [.null]) false)]⟩
    let world : World :=
      { exports := Store.empty.write ⟨0⟩ (Table.empty.put (text "M") ⟨0⟩)
        snapshots := Store.empty.write ⟨0⟩
          { functions := Table.empty.put (text "f") (some native) }
        labels := { exports := Table.empty.put (text "r") ⟨0⟩ } }
    let enter : Enter := Op.enterNative (Op.runBody ⟨⟨fun _ => .error .notFound⟩, ⟨[]⟩⟩ 1)
    let engine : Engine := ⟨⟨0⟩, ⟨false, false⟩, none⟩
    let first : Program := [.raw (.int 42)]
    let second : Program :=
      [.model ⟨text "call", .string (text "M.f"), .null, .null, []⟩, .raw .null,
        .model ⟨text "jexit", .null, .null, .int 3, []⟩]
    let number := Rejection.notObject (text "int")
    let nothing := Rejection.notObject (text "NoneType")
    let joined := (engine.run enter (first ++ second)).perform world
    enter.Blind ∧
      joined.1 = .error (.exit (.int 3) (some (.exited 3
        ⟨4, 1, [.malformed 0 number, .malformed 2 nothing]⟩))) ∧
      joined.2.trace = [.logged (.diagnosed (.malformed 0 number)),
        .logged (.diagnosed (.malformed 0 nothing)),
        .logged (.diagnosed (.malformed 2 nothing))] := by
  intro native world enter engine first second number nothing joined
  have blind : enter.Blind := Op.enterNative_blind _ _
  obtain ⟨-, after, -, exits, -⟩ :=
    (run_append engine enter first second world).2 blind _ _ rfl _ _ rfl
  obtain ⟨code, result, equal, ended⟩ := exits _ rfl ⟨_, .tail _ (.tail _ (.head _)), 3, rfl⟩
  cases equal
  exact ⟨blind, ended, congrArg World.trace after⟩

end Engine

end Switchboard
