import Switchboard.Proofs.Walk

/-!
# Accounting for executed items

Every item that a run executes has one outcome: it is called, reported, passed over or the
exit. `Engine.Accounts` is the balance of these outcomes against the tally and the log of a
run; each item adds to both sides alike, so that the balance is kept along every walk.
-/

namespace Switchboard

/-! ## Records -/

/-- The record of an event that is one. -/
def Event.notice? : Event → Option Notice
  | .logged notice => some notice
  | _ => none

/-- The records among some events. -/
def Event.notices (events : List Event) : List Notice := events.filterMap Event.notice?

@[simp] theorem Event.notices_append (first second : List Event) :
    notices (first ++ second) = notices first ++ notices second :=
  List.filterMap_append

/-- The warnings among some records. -/
def Notice.warnings (notices : List Notice) : List Notice :=
  notices.filter fun notice => notice.level = .warning

/-- Whether a record tells that a call was passed over. -/
def Notice.tellsSkip (notice : Notice) : Bool :=
  notice.level = .debug &&
    Text.startsWith (text "[juli] Skipping call to unknown module ") notice.message

/-- What a module adds to its message about a missing function: its name, unless that is empty. -/
def ownerNote : Option Text → Text
  | none => []
  | some owner => if owner = [] then [] else text " (module " ++ owner ++ text ")"

theorem message_unknownFunction (function : Text) (owner : Option Text) :
    (Notice.unknownFunction function owner).message =
      text "[juli] " ++ (Diagnostic.unknownFunction function).message ++ ownerNote owner := by
  rcases owner with _ | (_ | ⟨first, rest⟩) <;>
    simp [Notice.message, Notice.content, Diagnostic.message, ownerNote]

/-- A diagnostic, the visit that gave rise to it and the record that tells of it. -/
structure Report where
  visit : Visit
  diagnostic : Diagnostic
  notice : Notice

namespace Verdict

/-- The calls that an item passes over. -/
def skips : Verdict → Nat
  | .skipped _ => 1
  | _ => 0

/-- The exits that an item is. -/
def exits : Verdict → Nat
  | .exited _ => 1
  | _ => 0

/-- Every item has exactly one outcome. -/
theorem outcomes_eq_one (verdict : Verdict) :
    verdict.calls + verdict.diagnostics.length + verdict.skips + verdict.exits = 1 := by
  cases verdict <;> rfl

end Verdict

namespace Engine

/-! ## One item -/

/-- The record tells of the diagnostic in the engine's name. Only a missing function is told of
by the module that was asked for it, with the name of that module. -/
def Tells (engine : Engine) (report : Report) : Prop :=
  match report.diagnostic with
  | .unknownFunction function =>
      ∃ module snapshot, report.visit.item.demand = .call module function ∧
        (report.visit.world.exports.read engine.exports).get? module = some snapshot ∧
        report.notice.origin.name = text "juli.runtime.module" ∧
        report.notice.message = text "[juli] " ++ report.diagnostic.message ++
          ownerNote (report.visit.world.snapshots.read snapshot).name
  | diagnostic =>
      report.notice.origin.name = text "juli.runtime.executor" ∧
        report.notice.message = text "[juli] " ++ diagnostic.message

/-- Diagnostics of visited items and warnings correspond one to one and in order. -/
def Reported (engine : Engine) (visits : List Visit) (diagnostics : List Diagnostic)
    (warnings : List Notice) : Prop :=
  ∃ reports : List Report, (∀ report ∈ reports, engine.Tells report) ∧
    (reports.map Report.visit).Sublist visits ∧
    reports.map Report.diagnostic = diagnostics ∧
    reports.map Report.notice = warnings

theorem Reported.none (engine : Engine) (visits : List Visit) : engine.Reported visits [] [] := by
  refine ⟨[], ?_, List.nil_sublist visits, rfl, rfl⟩
  intro report member
  exact absurd member List.not_mem_nil

theorem Reported.single {engine : Engine} {visit : Visit} {diagnostic : Diagnostic}
    {notice : Notice} (tells : engine.Tells ⟨visit, diagnostic, notice⟩) :
    engine.Reported [visit] [diagnostic] [notice] := by
  refine ⟨[⟨visit, diagnostic, notice⟩], ?_, .refl _, rfl, rfl⟩
  intro other member
  cases List.mem_singleton.mp member
  exact tells

theorem Reported.append {engine : Engine} {visits visits' : List Visit}
    {diagnostics diagnostics' : List Diagnostic} {warnings warnings' : List Notice}
    (first : engine.Reported visits diagnostics warnings)
    (second : engine.Reported visits' diagnostics' warnings') :
    engine.Reported (visits ++ visits') (diagnostics ++ diagnostics') (warnings ++ warnings') := by
  obtain ⟨reports, tells, among, rfl, rfl⟩ := first
  obtain ⟨reports', tells', among', rfl, rfl⟩ := second
  refine ⟨reports ++ reports', ?_, ?_, List.map_append, List.map_append⟩
  · intro report member
    rcases List.mem_append.mp member with early | late
    · exact tells report early
    · exact tells' report late
  · rw [List.map_append]
    exact among.append among'

/-- The diagnostic of an item is logged as a warning, by the engine or by the module it asks. -/
theorem verdict_reported (engine : Engine) (index : Nat) (item : Item) (world : World) :
    engine.Reported [⟨index, item, world⟩] (engine.verdict index item world).diagnostics
      (Notice.warnings (Event.notices
        (engine.announcement (engine.verdict index item world)))) := by
  have diagnosed : ∀ diagnostic, (∀ function, diagnostic ≠ .unknownFunction function) →
      engine.Reported [⟨index, item, world⟩] [diagnostic] [.diagnosed diagnostic] := by
    intro diagnostic others
    refine Reported.single ?_
    cases diagnostic with
    | unknownFunction function => exact absurd rfl (others function)
    | malformed | unnamedCall | malformedReference | unknownModule | unknownInstruction =>
      exact ⟨rfl, rfl⟩
  unfold verdict
  cases demand : item.demand with
  | rejected | unnamedCall | misnamedCall | unknown => exact diagnosed _ (by simp)
  | exit code =>
    simp only [announcement]
    split <;> exact .none _ _
  | call module function =>
    simp only [callVerdict]
    split
    · split
      · exact diagnosed _ (by simp)
      · exact .none _ _
    · next snapshot found =>
      split
      · have tells : engine.Tells ⟨⟨index, item, world⟩, .unknownFunction function,
            .unknownFunction function (world.snapshots.read snapshot).name⟩ :=
          ⟨module, snapshot, demand, found, rfl, message_unknownFunction _ _⟩
        exact .single tells
      · exact .none _ _

/-- The engine logs a record of a call that it passes over, and no other such record. -/
theorem countP_announcement (engine : Engine) (verdict : Verdict) :
    (Event.notices (engine.announcement verdict)).countP Notice.tellsSkip = verdict.skips := by
  cases verdict with
  | skipped module =>
    have message : (Notice.skippedCall module).message =
        text "[juli] Skipping call to unknown module " ++ module.quoted := rfl
    have told : (Notice.skippedCall module).tellsSkip = true := by
      rw [Notice.tellsSkip, message, Text.startsWith_append]
      rfl
    simp [announcement, Event.notices, Event.notice?, Verdict.skips, told]
  | exited code =>
    simp only [announcement]
    split <;> rfl
  | diagnosed | unknownFunction | entered => rfl

/-- A call is passed over only when unknown modules are not reported. -/
theorem skips_eq_zero {engine : Engine} (reported : engine.reporting.unknownModules = true)
    (index : Nat) (item : Item) (world : World) :
    (engine.verdict index item world).skips = 0 := by
  unfold verdict
  cases item.demand with
  | call module function =>
    simp only [callVerdict, reported, if_true]
    split
    · rfl
    · split <;> rfl
  | rejected | unnamedCall | misnamedCall | exit | unknown => rfl

/-! ## Whole runs -/

/-- The outcomes of the visited items, which a tally and the events of a run tell alike. -/
structure Accounts (engine : Engine) (visits : List Visit) (tally final : Tally) (exits : Nat)
    (events : List Event) : Prop where
  balance : final.executed + tally.calls + tally.diagnostics.length =
    tally.executed + final.calls + final.diagnostics.length +
      (Event.notices events).countP Notice.tellsSkip + exits
  unskipped : engine.reporting.unknownModules = true →
    (Event.notices events).countP Notice.tellsSkip = 0
  reported : ∃ diagnostics, final.diagnostics = tally.diagnostics ++ diagnostics ∧
    engine.Reported visits diagnostics (Notice.warnings (Event.notices events))

/-- A run that visits nothing has no outcomes. -/
theorem Accounts.none (engine : Engine) (tally : Tally) :
    engine.Accounts [] tally tally 0 [] where
  balance := by simp [Event.notices]
  unskipped := fun _ => rfl
  reported := ⟨[], by simp, .none _ _⟩

/-- One more item adds its outcome to the tally and to the events, when what it logs is what
its verdict announces. -/
theorem Accounts.cons {engine : Engine} {index : Nat} {item : Item} {world : World}
    {verdict : Verdict} {visits : List Visit} {tally final : Tally} {exits : Nat}
    {own events : List Event} (reached : engine.verdict index item world = verdict)
    (logged : Event.notices own = Event.notices (engine.announcement verdict))
    (later : engine.Accounts visits (tally.count verdict) final exits events) :
    engine.Accounts (⟨index, item, world⟩ :: visits) tally final (verdict.exits + exits)
      (own ++ events) := by
  have skips : (Event.notices (own ++ events)).countP Notice.tellsSkip =
      verdict.skips + (Event.notices events).countP Notice.tellsSkip := by
    rw [Event.notices_append, List.countP_append, logged, countP_announcement]
  constructor
  case balance =>
    have one := verdict.outcomes_eq_one
    have balance := later.balance
    simp only [Tally.count, List.length_append] at balance
    omega
  case unskipped =>
    intro reporting
    have here := skips_eq_zero reporting index item world
    have there := later.unskipped reporting
    rw [reached] at here
    omega
  case reported =>
    obtain ⟨diagnostics, added, told⟩ := later.reported
    have first := engine.verdict_reported index item world
    rw [reached] at first
    refine ⟨verdict.diagnostics ++ diagnostics, ?_, ?_⟩
    · rw [added, Tally.count, List.append_assoc]
    · have both := first.append told
      rw [← logged] at both
      simpa [Notice.warnings] using both

/-- The functions of some visits log nothing. -/
def Quiet (engine : Engine) (enter : Enter) (visits : List Visit) : Prop :=
  ∀ visit ∈ visits, ∀ native, engine.verdictOn visit = .entered native →
    ∃ events, ((enter native).perform visit.world).2.trace = visit.world.trace ++ events ∧
      Event.notices events = []

/-- The number of exits that a result stands for. -/
def exitsOf (result : RunResult) : Nat := if result.state = .exited then 1 else 0

/-- A walk to a result accounts for the items that it visits. -/
theorem Walk.accounted {engine : Engine} {enter : Enter} {index : Nat} {program : Program}
    {tally : Tally} {world after : World} {visits : List Visit}
    {outcome : Except Failure RunResult}
    (walk : engine.Walk enter index program tally world visits outcome after)
    {result : RunResult} (ended : outcome = .ok result) (quiet : engine.Quiet enter visits) :
    ∃ events, after.trace = world.trace ++ events ∧
      engine.Accounts visits tally result.tally (exitsOf result) events := by
  induction walk with
  | finished =>
    cases ended
    exact ⟨[], by simp, .none engine _⟩
  | @exited index item _ tally world code reached =>
    cases ended
    refine ⟨engine.announcement (.exited code), rfl, ?_⟩
    have accounts := Accounts.cons reached rfl (.none engine (tally.count (.exited code)))
    rw [List.append_nil] at accounts
    exact accounts
  | failed => cases ended
  | @entered index item _ _ world native between _ _ _ reached returned _ inductionHypothesis =>
    obtain ⟨own, extended, silent⟩ := quiet _ List.mem_cons_self native reached
    obtain ⟨events, trace, accounts⟩ := inductionHypothesis ended fun visit member =>
      quiet visit (List.mem_cons_of_mem _ member)
    rw [returned] at extended
    refine ⟨own ++ events, ?_, ?_⟩
    · rw [trace, extended, List.append_assoc]
    · have more := Accounts.cons reached silent accounts
      simpa [Verdict.exits] using more
  | @passed index item _ _ world verdict _ _ _ reached passes _ inductionHypothesis =>
    obtain ⟨events, trace, accounts⟩ := inductionHypothesis ended fun visit member =>
      quiet visit (List.mem_cons_of_mem _ member)
    refine ⟨engine.announcement verdict ++ events, ?_, ?_⟩
    · rw [trace, World.record_trace, List.append_assoc]
    · have more := Accounts.cons reached rfl accounts
      have stays : verdict.exits = 0 := by
        cases verdict with
        | exited code => exact absurd rfl (Verdict.ne_exited_of_passes passes code)
        | diagnosed | unknownFunction | skipped | entered => rfl
      simpa [stays] using more

/-- A run that comes to a result of its own, by completing or by its own exit, and whose
functions log nothing: each executed item is a call, a diagnostic, a call passed over or the
exit, none is passed over when unknown modules are reported, and the warnings logged during
the run tell of its diagnostics one by one. -/
theorem run_accounted (engine : Engine) (enter : Enter) (program : Program)
    (world after : World) (result : RunResult)
    (ended : (engine.runFrom enter 0 program {}).perform world = (.ok result, after))
    (quiet : engine.Quiet enter (engine.visits enter program world)) :
    (engine.run enter program).perform world = (conclude result, after) ∧
    ∃ events, after.trace = world.trace ++ events ∧
      let notices := Event.notices events
      let skipped := notices.countP Notice.tellsSkip
      result.tally.executed =
        result.tally.calls + result.tally.diagnostics.length + skipped + exitsOf result ∧
      (engine.reporting.unknownModules = true → skipped = 0) ∧
      engine.Reported (engine.visits enter program world) result.tally.diagnostics
        (Notice.warnings notices) := by
  have walked := engine.walk enter 0 program {} world
  rw [ended] at walked
  obtain ⟨events, trace, balance, unskipped, diagnostics, added, told⟩ :=
    walked.accounted rfl quiet
  refine ⟨by rw [perform_run, ended], events, trace, ?_, unskipped, ?_⟩
  · simpa using balance
  · have all : result.tally.diagnostics = diagnostics := added
    rw [all]
    exact told

/-- Every outcome an item can have: a value that is no instruction, a call of a function that
prints, a function that a named module lacks, a call passed over, and the exit. The run ends with
the exit's code and carries the tally, and its events are one record for each outcome but the call,
which writes, and the exit, of which nothing is told. -/
theorem run_accounted_mixed :
    let enter : Enter := fun _ => Op.printTo none (text "here")
    let world : World :=
      { exports := Store.empty.write ⟨0⟩ (Table.empty.put (text "M") ⟨0⟩)
        snapshots := Store.empty.write ⟨0⟩
          { name := some (text "Lib")
            functions := Table.empty.put (text "f") (some ⟨0, .script []⟩) } }
    let engine : Engine := ⟨⟨0⟩, ⟨false, false⟩, none⟩
    let program : Program :=
      [.raw .null, .model ⟨text "call", .string (text "M.f"), .null, .null, []⟩,
        .model ⟨text "call", .string (text "M.g"), .null, .null, []⟩,
        .model ⟨text "call", .string (text "N.f"), .null, .null, []⟩,
        .model ⟨text "jexit", .null, .null, .int 3, []⟩, .raw .null]
    let events : List Event :=
      [.logged (.diagnosed (.malformed 0 (.notObject (text "NoneType")))),
        .wrote .stdout (text "here" ++ [newline]),
        .logged (.unknownFunction (text "g") (some (text "Lib"))),
        .logged (.skippedCall (text "N"))]
    let final : Tally :=
      ⟨5, 1, [.malformed 0 (.notObject (text "NoneType")), .unknownFunction (text "g")]⟩
    (engine.run enter program).perform world =
        (.error (.exit (.int 3) (some (.exited 3 final))), world.record events) ∧
      engine.Quiet enter (engine.visits enter program world) ∧
      engine.Reported (engine.visits enter program world) final.diagnostics
        (Notice.warnings (Event.notices events)) ∧
      final.executed = final.calls + final.diagnostics.length +
        (Event.notices events).countP Notice.tellsSkip + exitsOf (.exited 3 final) := by
  intro enter world engine program events final
  have quiet : engine.Quiet enter (engine.visits enter program world) := by
    intro visit member native entered
    exact ⟨[.wrote .stdout (text "here" ++ [newline])], rfl, rfl⟩
  obtain ⟨ran, logged, trace, balance, -, reported⟩ :=
    run_accounted engine enter program world (world.record events) (.exited 3 final) rfl quiet
  cases trace
  exact ⟨ran, quiet, reported, balance⟩

end Engine

end Switchboard
