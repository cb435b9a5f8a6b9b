import Switchboard.Proofs.Foretelling

/-!
# Reporting only reports

Two engines that differ in what they report walk over a program side by side: they come to
twin verdicts on every item (`Engine.verdict_twin`), enter the same functions, and leave worlds
that differ in the trace alone. What is reported of calls to unknown modules and the notice of
the program's own exit are the only differences (`Engine.reporting_only_reports`).
-/

namespace Switchboard

/-! ## What two ways of reporting have in common -/

/-- Messages of two runs over one program, under two ways of reporting: one that does not report
unknown modules has the messages of one that does without those about unknown modules. -/
structure ReportedAlike (first second : Reporting) (here there : List Text) : Prop where
  equal : first.unknownModules = second.unknownModules → here = there
  fewer : first.unknownModules = true → second.unknownModules = false →
    there = here.filter fun message => !Text.startsWith (text "Unknown module: ") message
  more : first.unknownModules = false → second.unknownModules = true →
    here = there.filter fun message => !Text.startsWith (text "Unknown module: ") message

/-- Tallies of two runs over one program, under two ways of reporting. -/
structure Tally.Alike (first second : Reporting) (tally other : Tally) : Prop where
  executed : tally.executed = other.executed
  calls : tally.calls = other.calls
  diagnostics : ReportedAlike first second (tally.diagnostics.map Diagnostic.message)
    (other.diagnostics.map Diagnostic.message)

/-- Results of two runs over one program, under two ways of reporting. -/
structure RunResult.Alike (first second : Reporting) (result other : RunResult) : Prop where
  state : result.state = other.state
  executed : result.report.executed = other.report.executed
  calls : result.report.calls = other.report.calls
  exitCode : result.exitCode = other.exitCode
  diagnostics : ReportedAlike first second result.report.diagnostics other.report.diagnostics

/-- Two walks end alike: both come to a result of their own, or a function raises the same
failure out of both. -/
inductive EndsAlike (first second : Reporting) :
    Except Failure RunResult → Except Failure RunResult → Prop where
  | results {result other : RunResult} (alike : result.Alike first second other) :
      EndsAlike first second (.ok result) (.ok other)
  | raised {failure : Failure} : EndsAlike first second (.error failure) (.error failure)

/-- Whether an event is a log record. -/
def Event.isRecord : Event → Bool
  | .logged _ => true
  | _ => false

/-- Everything but the log records. -/
def Event.unlogged (events : List Event) : List Event :=
  events.filter fun event => !event.isRecord

@[simp] theorem Event.unlogged_append (first second : List Event) :
    unlogged (first ++ second) = unlogged first ++ unlogged second :=
  List.filter_append ..

namespace ReportedAlike

variable {first second : Reporting}

/-- What neither way of reporting leaves out is reported alike. -/
theorem refl {messages : List Text}
    (known : ∀ message ∈ messages, Text.startsWith (text "Unknown module: ") message = false) :
    ReportedAlike first second messages messages := by
  have kept : (messages.filter fun message =>
      !Text.startsWith (text "Unknown module: ") message) = messages := by
    rw [List.filter_eq_self]
    intro message member
    rw [known message member, Bool.not_false]
  exact ⟨fun _ => rfl, fun _ _ => kept.symm, fun _ _ => kept.symm⟩

theorem append {here there more others : List Text} (early : ReportedAlike first second here there)
    (late : ReportedAlike first second more others) :
    ReportedAlike first second (here ++ more) (there ++ others) where
  equal same := by rw [early.equal same, late.equal same]
  fewer reported silent := by
    rw [List.filter_append, ← early.fewer reported silent, ← late.fewer reported silent]
  more silent reported := by
    rw [List.filter_append, ← early.more silent reported, ← late.more silent reported]

end ReportedAlike

/-! ## Twin verdicts -/

/-- The verdict on a call of a module that is not exported. -/
def Reporting.onUnknownModule (reporting : Reporting) (module : Text) : Verdict :=
  if reporting.unknownModules then .diagnosed (.unknownModule module) else .skipped module

/-- The verdicts on one item under two ways of reporting: they differ only on a call of a module
that is not exported. -/
inductive Verdict.Twins (first second : Reporting) : Verdict → Verdict → Prop where
  | same {verdict : Verdict} (known : ∀ diagnostic ∈ verdict.diagnostics,
      Text.startsWith (text "Unknown module: ") diagnostic.message = false) :
      Twins first second verdict verdict
  | unknown (module : Text) :
      Twins first second (first.onUnknownModule module) (second.onUnknownModule module)

/-- Only a diagnostic on an unknown module begins as one. -/
theorem Diagnostic.message_known {diagnostic : Diagnostic}
    (known : ∀ module, diagnostic ≠ .unknownModule module) :
    Text.startsWith (text "Unknown module: ") diagnostic.message = false := by
  cases diagnostic with
  | unknownModule module => exact absurd rfl (known module)
  | malformed | unnamedCall | malformedReference | unknownFunction | unknownInstruction => rfl

theorem Reporting.passes_onUnknownModule (reporting : Reporting) (module : Text) :
    (reporting.onUnknownModule module).passes = true := by
  unfold onUnknownModule
  split <;> rfl

/-- No function is entered for a verdict that passes. -/
theorem Verdict.native?_of_passes {verdict : Verdict} (passes : verdict.passes = true) :
    verdict.native? = none := by
  cases verdict with
  | entered | exited => cases passes
  | diagnosed | unknownFunction | skipped => rfl

theorem Verdict.calls_of_passes {verdict : Verdict} (passes : verdict.passes = true) :
    verdict.calls = 0 := by
  cases verdict with
  | entered | exited => cases passes
  | diagnosed | unknownFunction | skipped => rfl

namespace Verdict.Twins

variable {first second : Reporting} {verdict other : Verdict}

/-- A diagnostic that is not about an unknown module is a verdict under both ways. -/
theorem of_diagnosed {diagnostic : Diagnostic}
    (known : ∀ module, diagnostic ≠ .unknownModule module) :
    Twins first second (.diagnosed diagnostic) (.diagnosed diagnostic) := by
  refine .same fun told member => ?_
  rw [List.mem_singleton.mp member]
  exact Diagnostic.message_known known

/-- A verdict that comes with no diagnostic is one under both ways. -/
theorem of_silent (silent : verdict.diagnostics = []) : Twins first second verdict verdict := by
  refine .same fun told member => ?_
  rw [silent] at member
  exact absurd member List.not_mem_nil

variable (twins : Twins first second verdict other)

include twins

/-- Twins are equal unless both let the run go on. -/
theorem eq_or_pass : verdict = other ∨ verdict.passes = true ∧ other.passes = true := by
  cases twins with
  | same => exact .inl rfl
  | unknown module =>
    exact .inr ⟨first.passes_onUnknownModule module, second.passes_onUnknownModule module⟩

theorem eq_of_stops (stops : verdict.passes = false) : verdict = other := by
  rcases twins.eq_or_pass with equal | ⟨passes, -⟩
  · exact equal
  · rw [passes] at stops
    cases stops

theorem passes_of_passes (passes : verdict.passes = true) : other.passes = true := by
  rcases twins.eq_or_pass with rfl | ⟨-, passesToo⟩
  · exact passes
  · exact passesToo

theorem calls_eq : verdict.calls = other.calls := by
  rcases twins.eq_or_pass with rfl | ⟨passes, passesToo⟩
  · rfl
  · rw [calls_of_passes passes, calls_of_passes passesToo]

/-- Twins say the same, but for an unknown module. -/
theorem diagnostics :
    ReportedAlike first second (verdict.diagnostics.map Diagnostic.message)
      (other.diagnostics.map Diagnostic.message) := by
  cases twins with
  | same known =>
    refine .refl fun message member => ?_
    obtain ⟨diagnostic, told, rfl⟩ := List.mem_map.mp member
    exact known diagnostic told
  | unknown module =>
    have told : Text.startsWith (text "Unknown module: ")
        (Diagnostic.unknownModule module).message = true := Text.startsWith_append _ _
    constructor
    · intro same
      rw [Reporting.onUnknownModule, Reporting.onUnknownModule, same]
    · intro reported silent
      simp [Reporting.onUnknownModule, reported, silent, Verdict.diagnostics, told]
    · intro silent reported
      simp [Reporting.onUnknownModule, reported, silent, Verdict.diagnostics, told]

end Verdict.Twins

namespace Tally.Alike

variable {first second : Reporting} {tally other : Tally} (alike : tally.Alike first second other)

include alike

/-- Counting twins keeps tallies alike. -/
theorem count {verdict twin : Verdict} (twins : Verdict.Twins first second verdict twin) :
    (tally.count verdict).Alike first second (other.count twin) where
  executed := congrArg Nat.succ alike.executed
  calls := by rw [Tally.count, Tally.count, alike.calls, twins.calls_eq]
  diagnostics := by
    simp only [Tally.count, List.map_append]
    exact alike.diagnostics.append twins.diagnostics

theorem completed : RunResult.Alike first second (.completed tally) (.completed other) where
  state := rfl
  executed := congrArg Int.ofNat alike.executed
  calls := congrArg Int.ofNat alike.calls
  exitCode := rfl
  diagnostics := alike.diagnostics

theorem exited (code : Int) :
    RunResult.Alike first second (.exited code tally) (.exited code other) where
  state := rfl
  executed := congrArg Int.ofNat alike.executed
  calls := congrArg Int.ofNat alike.calls
  exitCode := rfl
  diagnostics := alike.diagnostics

end Tally.Alike

namespace Engine

/-- Engines that differ in what they report come to twin verdicts, whatever was seen before. -/
theorem verdict_twins (engine : Engine) (reporting : Reporting) (index : Nat) (item : Item)
    (world : World) (past : List Event) :
    Verdict.Twins engine.reporting reporting (engine.verdict index item world)
      ({ engine with reporting }.verdict index item (world.withTrace past)) := by
  unfold verdict
  cases item.demand with
  | rejected | unnamedCall | misnamedCall | unknown => exact .of_diagnosed (by simp)
  | exit => exact .of_silent rfl
  | call module function =>
    simp only [callVerdict, World.withTrace]
    cases (world.exports.read engine.exports).get? module with
    | none => exact .unknown module
    | some snapshot =>
      dsimp only
      cases (world.snapshots.read snapshot).functions.function? function with
      | none =>
        refine .same fun told member => ?_
        rw [List.mem_singleton.mp member]
        exact Diagnostic.message_known (by simp)
      | some native => exact .of_silent rfl

/-- An item that stops the one or enters a function does so for the other. -/
theorem verdict_of_stops {engine : Engine} {index : Nat} {item : Item} {world : World}
    {verdict : Verdict} (reached : engine.verdict index item world = verdict)
    (stops : verdict.passes = false) (reporting : Reporting) (past : List Event) :
    { engine with reporting }.verdict index item (world.withTrace past) = verdict := by
  have twins := engine.verdict_twins reporting index item world past
  rw [reached] at twins
  exact (twins.eq_of_stops stops).symm

/-! ## Walking side by side -/

/-- What the outside sees of the exit that a walk ends with. -/
def parting (engine : Engine) : Except Failure RunResult → List Event
  | .ok (.exited code _) => engine.announcement (.exited code)
  | _ => []

/-- Two walks over one program, each behind a past of its own: they enter the same functions,
end alike in worlds that differ in the trace alone, and apart from log records let the same be
seen up to the notice of their own exit. -/
structure InStep (engine twin : Engine) (past pastToo : List Event) (visits visitsToo : List Visit)
    (ended endedToo : Except Failure RunResult × World) : Prop where
  natives : visits.filterMap (fun visit => (engine.verdictOn visit).native?) =
    visitsToo.filterMap fun visit => (twin.verdictOn visit).native?
  ending : EndsAlike engine.reporting twin.reporting ended.1 endedToo.1
  world : ended.2.unseen = endedToo.2.unseen
  events : ∃ seen seenToo shown, ended.2.trace = past ++ seen ∧
    endedToo.2.trace = pastToo ++ seenToo ∧
    Event.unlogged seen = shown ++ engine.parting ended.1 ∧
    Event.unlogged seenToo = shown ++ twin.parting endedToo.1

section

variable {engine twin : Engine} {past pastToo : List Event} {visits visitsToo : List Visit}
  {ended endedToo : Except Failure RunResult × World}

/-- One more item in front, of which both let the same be seen apart from log records. -/
theorem InStep.cons {early earlyToo : List Event} {visit visitToo : Visit}
    (later : InStep engine twin (past ++ early) (pastToo ++ earlyToo) visits visitsToo ended
      endedToo)
    (native : (engine.verdictOn visit).native? = (twin.verdictOn visitToo).native?)
    (shown : Event.unlogged early = Event.unlogged earlyToo) :
    InStep engine twin past pastToo (visit :: visits) (visitToo :: visitsToo) ended endedToo := by
  obtain ⟨natives, ending, world, late, lateToo, common, trace, traceToo, seen, seenToo⟩ := later
  refine ⟨?_, ending, world, early ++ late, earlyToo ++ lateToo, Event.unlogged early ++ common,
    ?_, ?_, ?_, ?_⟩
  · rw [List.filterMap_cons, List.filterMap_cons, native, natives]
  · rw [trace, List.append_assoc]
  · rw [traceToo, List.append_assoc]
  · rw [Event.unlogged_append, seen, List.append_assoc]
  · rw [Event.unlogged_append, seenToo, ← shown, List.append_assoc]

end

/-- A verdict that passes is told in log records only. -/
theorem unlogged_announcement (engine : Engine) {verdict : Verdict}
    (passes : verdict.passes = true) : Event.unlogged (engine.announcement verdict) = [] := by
  cases verdict with
  | entered | exited => cases passes
  | diagnosed | unknownFunction | skipped => rfl

/-- The notice of an exit is no log record. -/
theorem unlogged_announcement_exited (engine : Engine) (code : Int) :
    Event.unlogged (engine.announcement (.exited code)) = engine.announcement (.exited code) := by
  simp only [announcement]
  split <;> rfl

/-- An engine that reports otherwise walks in step, from whatever past and alike tally. -/
theorem Walk.inStep {engine : Engine} {enter : Enter} {index : Nat} {program : Program}
    {tally : Tally} {world after : World} {visits : List Visit}
    {outcome : Except Failure RunResult} (blind : enter.Blind)
    (walk : engine.Walk enter index program tally world visits outcome after)
    (reporting : Reporting) (past : List Event) {other : Tally}
    (alike : tally.Alike engine.reporting reporting other) :
    ∃ visitsToo outcomeToo afterToo,
      { engine with reporting }.Walk enter index program other (world.withTrace past) visitsToo
        outcomeToo afterToo ∧
      InStep engine { engine with reporting } world.trace past visits visitsToo (outcome, after)
        (outcomeToo, afterToo) := by
  induction walk generalizing past other with
  | @finished index tally world =>
    exact ⟨[], _, _, .finished, rfl, .results alike.completed, rfl, [], [], [],
      (List.append_nil _).symm, (List.append_nil _).symm, rfl, rfl⟩
  | @exited index item rest tally world code reached =>
    have reachedToo := verdict_of_stops reached rfl reporting past
    have twins : Verdict.Twins engine.reporting reporting (.exited code) (.exited code) :=
      .of_silent rfl
    refine ⟨_, _, _, .exited reachedToo, ?_, .results ((alike.count twins).exited code), rfl,
      engine.announcement (.exited code), _, [], rfl, rfl, ?_, ?_⟩
    · simp only [List.filterMap_cons, List.filterMap_nil, verdictOn, reached, reachedToo]
    · exact unlogged_announcement_exited _ code
    · exact unlogged_announcement_exited _ code
  | @failed index item rest tally world native failure after reached raised =>
    have reachedToo := verdict_of_stops reached rfl reporting past
    have raisedToo := perform_entered_past blind reached raised past
    refine ⟨_, _, _, .failed reachedToo raisedToo, ?_, .raised, rfl,
      engine.eventsOf enter ⟨index, item, world⟩, _,
      Event.unlogged (engine.eventsOf enter ⟨index, item, world⟩),
      trace_entered blind reached raised, rfl, ?_, ?_⟩
    · simp only [List.filterMap_cons, List.filterMap_nil, verdictOn, reached, reachedToo]
    · exact (List.append_nil _).symm
    · exact (List.append_nil _).symm
  | @entered index item rest tally world native between visits outcome after reached returned _
      inductionHypothesis =>
    have reachedToo := verdict_of_stops reached rfl reporting past
    have returnedToo := perform_entered_past blind reached returned past
    obtain ⟨visitsToo, outcomeToo, afterToo, walked, inStep⟩ :=
      inductionHypothesis _ (alike.count (.of_silent rfl))
    rw [trace_entered blind reached returned] at inStep
    refine ⟨_, _, _, .entered reachedToo returnedToo walked, inStep.cons ?_ rfl⟩
    rw [verdictOn, verdictOn, reached, reachedToo]
  | @passed index item rest tally world verdict visits outcome after reached passes _
      inductionHypothesis =>
    have twins := engine.verdict_twins reporting index item world past
    rw [reached] at twins
    have passesToo := twins.passes_of_passes passes
    obtain ⟨visitsToo, outcomeToo, afterToo, walked, inStep⟩ :=
      inductionHypothesis _ (alike.count twins)
    refine ⟨_, _, _, .passed rfl passesToo walked, inStep.cons ?_ ?_⟩
    · rw [verdictOn, verdictOn, reached, Verdict.native?_of_passes passes,
        Verdict.native?_of_passes passesToo]
    · rw [unlogged_announcement _ passes, unlogged_announcement _ passesToo]

/-- Two engines that differ in what they report, and in nothing else, run a program in step: they
enter the same functions in the same order and come to the same ending, their results agree but
for the messages about unknown modules, and they leave the same world with the same events apart
from log records and the notice of the program's own exit. Functions may do anything but look
back at the events, which no function of a host can (`Op.enterNative_blind`). -/
theorem reporting_only_reports (engine : Engine) (reporting : Reporting) (enter : Enter)
    (blind : enter.Blind) (program : Program) (world : World) :
    let twin : Engine := { engine with reporting }
    let ended := (engine.runFrom enter 0 program {}).perform world
    let endedToo := (twin.runFrom enter 0 program {}).perform world
    (engine.run enter program).perform world = (ended.1.bind conclude, ended.2) ∧
    (twin.run enter program).perform world = (endedToo.1.bind conclude, endedToo.2) ∧
    InStep engine twin world.trace world.trace (engine.visits enter program world)
      (twin.visits enter program world) ended endedToo := by
  intro twin ended endedToo
  refine ⟨perform_run_bind engine enter program world, perform_run_bind twin enter program world,
    ?_⟩
  have fresh : Tally.Alike engine.reporting reporting {} {} := ⟨rfl, rfl, .refl nofun⟩
  obtain ⟨visitsToo, outcomeToo, afterToo, walked, inStep⟩ :=
    (engine.walk enter 0 program {} world).inStep blind reporting world.trace fresh
  obtain ⟨visited, performed⟩ := walked.eq
  have same : endedToo = (outcomeToo, afterToo) := performed
  have visitedToo : twin.visits enter program world = visitsToo := visited.symm
  rw [same, visitedToo]
  exact inStep

/-- A function that runs a program of its own with an unknown module and an exit, called between
an unknown module and an exit: only the outer run is reported otherwise. -/
theorem reporting_only_reports_nested :
    let exit : Value := .object [(text "type", .string (text "jexit")), (text "code", .int 3)]
    let stray : Value :=
      .object [(text "type", .string (text "call")), (text "name", .string (text "N.f"))]
    let nested : Body :=
      [(none, .execute (.exports (text "r")) ⟨true, true⟩ none (.values [stray, exit]) false)]
    let native : Native := ⟨0, .script [(none, .attempt nested)]⟩
    let world : World :=
      { exports := Store.empty.write ⟨0⟩ (Table.empty.put (text "M") ⟨0⟩)
        snapshots := Store.empty.write ⟨0⟩
          { functions := Table.empty.put (text "f") (some native) }
        labels := { exports := Table.empty.put (text "r") ⟨0⟩ } }
    let enter : Enter := Op.enterNative (Op.runBody ⟨⟨fun _ => .error .notFound⟩, ⟨[]⟩⟩ 2)
    let engine : Engine := ⟨⟨0⟩, ⟨true, true⟩, none⟩
    let twin : Engine := ⟨⟨0⟩, ⟨false, false⟩, none⟩
    let program : Program :=
      [.raw stray, .model ⟨text "call", .string (text "M.f"), .null, .null, []⟩, .raw .null,
        .raw exit]
    let ended := (engine.runFrom enter 0 program {}).perform world
    let endedToo := (twin.runFrom enter 0 program {}).perform world
    let nothing : Diagnostic := .malformed 2 (.notObject (text "NoneType"))
    let notice : Event := .wrote .stdout (text "[juli] Exiting with code 3" ++ [newline])
    enter.Blind ∧
      ended.1 = .ok (.exited 3 ⟨4, 1, [.unknownModule (text "N"), nothing]⟩) ∧
      endedToo.1 = .ok (.exited 3 ⟨4, 1, [nothing]⟩) ∧
      Event.unlogged ended.2.trace = [notice, notice] ∧
      Event.unlogged endedToo.2.trace = [notice] ∧
      InStep engine twin [] [] (engine.visits enter program world)
        (twin.visits enter program world) ended endedToo := by
  intro exit stray nested native world enter engine twin program ended endedToo nothing notice
  have blind : enter.Blind := Op.enterNative_blind _ _
  obtain ⟨-, -, inStep⟩ :=
    reporting_only_reports engine ⟨false, false⟩ enter blind program world
  exact ⟨blind, rfl, rfl, rfl, rfl, inStep⟩

end Engine

end Switchboard
