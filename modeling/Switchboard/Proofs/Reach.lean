import Switchboard.Proofs.Accounting
import Switchboard.Proofs.Reporting

/-!
# What a program can reach

The modules that a summary lists are exactly those that some item calls
(`Summary.mem_modules_iff`), so that a run looks into its export table under no other name. Runs
over two tables that agree on the listed modules are therefore one run, as long as the functions
they enter leave the tables alone, and a run names no other module in what it reports
(`Engine.run_within_summary`).
-/

namespace Switchboard

/-! ## The listed modules -/

/-- The module that an item with this demand calls a function of. -/
def Demand.module? : Demand → Option Text
  | .call module _ => some module
  | _ => none

namespace Summary

theorem mem_modules_addInstruction (summary : Summary) (index : Nat) (instruction : Instruction)
    (module : Text) :
    module ∈ (summary.addInstruction index instruction).modules ↔
      module ∈ summary.modules ∨ instruction.demand.module? = some module := by
  unfold addInstruction Instruction.demand
  by_cases isCall : instruction.isCall = true
  · simp only [isCall, if_true, Instruction.reference]
    cases instruction.name with
    | null => simp [warn, Demand.module?]
    | string name =>
      rcases parts : Reference.split name with ⟨called, _ | function⟩
      · simp [parts, warn, Demand.module?]
      · by_cases listed : called ∈ summary.modules
        · have already : called = module → module ∈ summary.modules := fun same => same ▸ listed
          simpa [parts, listed, Demand.module?] using already
        · simp [parts, listed, Demand.module?, eq_comm]
    | bool | int | float | array | object => simp [warn, Demand.module?]
  · by_cases isExit : instruction.isExit = true
    · simp [isCall, isExit, Demand.module?]
    · simp [isCall, isExit, warn, Demand.module?]

theorem mem_modules_addItem (summary : Summary) (index : Nat) (item : Item) (module : Text) :
    module ∈ (summary.addItem index item).modules ↔
      module ∈ summary.modules ∨ item.demand.module? = some module := by
  unfold addItem Item.demand
  cases item.accept with
  | error rejection => simp [warn, Demand.module?]
  | ok instruction => exact summary.mem_modules_addInstruction index instruction module

theorem mem_modules_addItems (summary : Summary) (index : Nat) (program : Program)
    (module : Text) :
    module ∈ (summary.addItems index program).modules ↔
      module ∈ summary.modules ∨ ∃ item ∈ program, item.demand.module? = some module := by
  induction program generalizing summary index with
  | nil => simp [addItems]
  | cons item rest inductionHypothesis =>
    rw [addItems, inductionHypothesis, mem_modules_addItem, or_assoc]
    simp

/-- A summary lists a module exactly when some item calls it, reached or not. -/
theorem mem_modules_iff (program : Program) (module : Text) :
    module ∈ (ofProgram program).modules ↔
      ∃ item ∈ program, item.demand.module? = some module := by
  rw [(ofProgram_lists program).2, mem_modules_addItems]
  simp [empty]

end Summary

/-! ## Leaving tables alone -/

namespace Store

variable {kind : RefKind} {α : Type} {used : List (Ref kind)} {contents : Ref kind → α}

/-- Exchange the contents of some cells. -/
def exchange (store : Store kind α) (used : List (Ref kind)) (contents : Ref kind → α) :
    Store kind α where
  cells address := if ⟨address⟩ ∈ used then contents ⟨address⟩ else store.cells address
  size := store.size

theorem read_exchange {store : Store kind α} {ref : Ref kind} (inside : ref ∈ used) :
    (store.exchange used contents).read ref = contents ref :=
  if_pos inside

/-- A store holds its own contents. -/
theorem exchange_self (store : Store kind α) : store.exchange used store.read = store := by
  simp [exchange, read]

/-- The contents of other cells are not taken over. -/
theorem exchange_read (store other : Store kind α) :
    store.exchange used (other.exchange used contents).read = store.exchange used contents := by
  unfold exchange
  congr 1
  funext address
  split
  · next inside => exact if_pos inside
  · rfl

end Store

/-- The world with other contents in some export tables. -/
def World.withTables (world : World) (used : List ExportsRef) (tables : ExportsRef → Exports) :
    World :=
  { world with exports := world.exports.exchange used tables }

namespace World

variable {world : World} {used : List ExportsRef} {tables : ExportsRef → Exports}

theorem read_withTables {ref : ExportsRef} (inside : ref ∈ used) :
    (world.withTables used tables).exports.read ref = tables ref :=
  Store.read_exchange inside

theorem withTables_self : world.withTables used world.exports.read = world := by
  rw [withTables, Store.exchange_self]

theorem withTables_read (other : World) :
    other.withTables used (world.withTables used tables).exports.read =
      other.withTables used tables := by
  rw [withTables, withTables, withTables, Store.exchange_read]

end World

/-- A visit in a world with other contents in some export tables. -/
def Visit.withTables (visit : Visit) (used : List ExportsRef) (tables : ExportsRef → Exports) :
    Visit :=
  { visit with world := visit.world.withTables used tables }

/-- An operation leaves some tables alone, from a given world: whatever they hold, it does the same
and they hold the same afterwards. It may fail, and do anything to the rest of the world. -/
def Op.LeavesAlone {α : Type} (used : List ExportsRef) (operation : Op α) (world : World) : Prop :=
  ∀ tables, operation.perform (world.withTables used tables) =
    ((operation.perform world).1, (operation.perform world).2.withTables used tables)

/-- Tables that are left alone are as they were. -/
theorem Op.LeavesAlone.read {α : Type} {used : List ExportsRef} {operation : Op α} {world : World}
    (alone : operation.LeavesAlone used world) (ref : ExportsRef) (inside : ref ∈ used) :
    (operation.perform world).2.exports.read ref = world.exports.read ref := by
  have own := alone world.exports.read
  rw [World.withTables_self] at own
  have after := congrArg Prod.snd own
  rw [after]
  exact World.read_withTables inside

/-! ## Records about modules -/

theorem Text.startsWith_of_eq_append {opening source rest : Text}
    (parts : source = opening ++ rest) : startsWith opening source = true := by
  rw [parts]
  exact startsWith_append opening rest

/-- A record names unknown modules only among some modules. -/
structure Notice.Within (modules : List Text) (notice : Notice) : Prop where
  unknown : ∀ module, notice.message = text "[juli] Unknown module: " ++ module → module ∈ modules
  skipped : notice.tellsSkip = true → ∃ module ∈ modules,
    notice.message = text "[juli] Skipping call to unknown module " ++ module.quoted

/-- What reads like a diagnostic on an unknown module is one. -/
theorem Diagnostic.eq_unknownModule {diagnostic : Diagnostic} {module : Text}
    (told : diagnostic.message = text "Unknown module: " ++ module) :
    diagnostic = .unknownModule module := by
  cases diagnostic with
  | unknownModule other =>
    have same : other = module := List.append_cancel_left told
    rw [same]
  | malformed | unnamedCall | malformedReference | unknownFunction | unknownInstruction =>
    cases Text.startsWith_of_eq_append told

/-- Only the engine itself finds a module unknown. -/
theorem Verdict.eq_diagnosed_of_mem {verdict : Verdict} {module : Text}
    (member : .unknownModule module ∈ verdict.diagnostics) :
    verdict = .diagnosed (.unknownModule module) := by
  cases verdict with
  | diagnosed diagnostic => rw [List.mem_singleton.mp member]
  | unknownFunction => cases List.mem_singleton.mp member
  | skipped | entered | exited => cases member

namespace Engine

/-- The functions of some visits leave tables alone. -/
def NativesLeaveAlone (engine : Engine) (enter : Enter) (used : List ExportsRef)
    (visits : List Visit) : Prop :=
  ∀ visit ∈ visits, ∀ native, engine.verdictOn visit = .entered native →
    (enter native).LeavesAlone used visit.world

/-! ## One run over two tables -/

/-- The verdict on an item looks into the table under the module that the item calls, and nowhere
else. -/
theorem verdict_withTables (engine : Engine) (exports : ExportsRef) (index : Nat) (item : Item)
    {world : World} {used : List ExportsRef} {tables : ExportsRef → Exports}
    (inside : exports ∈ used)
    (agree : ∀ module, item.demand.module? = some module →
      (world.exports.read engine.exports).get? module = (tables exports).get? module) :
    { engine with exports }.verdict index item (world.withTables used tables) =
      engine.verdict index item world := by
  unfold verdict
  cases demand : item.demand with
  | call module function =>
    have entry := agree module (by rw [demand]; rfl)
    simp only [callVerdict, World.read_withTables inside, entry]
    rfl
  | rejected | unnamedCall | misnamedCall | exit | unknown => rfl

section

variable {engine : Engine} {enter : Enter} {index : Nat} {program : Program} {tally : Tally}
  {world after : World} {visits : List Visit} {outcome : Except Failure RunResult}
  {used : List ExportsRef}

/-- A walk visits items of its program. -/
theorem Walk.item_mem (walk : engine.Walk enter index program tally world visits outcome after) :
    ∀ visit ∈ visits, visit.item ∈ program := by
  induction walk with
  | finished => nofun
  | exited | failed =>
    intro visit member
    rw [List.mem_singleton.mp member]
    exact List.mem_cons_self
  | entered _ _ _ inductionHypothesis | passed _ _ _ inductionHypothesis =>
    intro visit member
    rcases List.mem_cons.mp member with rfl | later
    · exact List.mem_cons_self
    · exact List.mem_cons_of_mem _ (inductionHypothesis visit later)

/-- Tables that the functions of a walk leave alone are as they were at every visit and at the
end. -/
theorem Walk.tables_kept
    (walk : engine.Walk enter index program tally world visits outcome after)
    (alone : engine.NativesLeaveAlone enter used visits) {ref : ExportsRef} (inside : ref ∈ used) :
    (∀ visit ∈ visits, visit.world.exports.read ref = world.exports.read ref) ∧
      after.exports.read ref = world.exports.read ref := by
  induction walk with
  | finished => exact ⟨nofun, rfl⟩
  | exited => simp [World.record]
  | failed reached raised =>
    have kept := (alone _ List.mem_cons_self _ reached).read ref inside
    rw [raised] at kept
    simpa using kept
  | entered reached returned _ inductionHypothesis =>
    have kept := (alone _ List.mem_cons_self _ reached).read ref inside
    rw [returned] at kept
    have later := inductionHypothesis fun visit member =>
      alone visit (List.mem_cons_of_mem _ member)
    rw [kept] at later
    simpa using later
  | passed _ _ _ inductionHypothesis =>
    have later := inductionHypothesis fun visit member =>
      alone visit (List.mem_cons_of_mem _ member)
    simpa [World.record] using later

/-- A walk goes the same way over other tables, as long as the verdicts are the same there. -/
theorem Walk.withTables
    (walk : engine.Walk enter index program tally world visits outcome after)
    {exports : ExportsRef} {tables : ExportsRef → Exports}
    (alone : engine.NativesLeaveAlone enter used visits)
    (same : ∀ visit ∈ visits, { engine with exports }.verdictOn (visit.withTables used tables) =
      engine.verdictOn visit) :
    { engine with exports }.Walk enter index program tally (world.withTables used tables)
      (visits.map fun visit : Visit => visit.withTables used tables) outcome
      (after.withTables used tables) := by
  induction walk with
  | finished => exact .finished
  | exited reached => exact .exited ((same _ List.mem_cons_self).trans reached)
  | failed reached raised =>
    have raisedToo := alone _ List.mem_cons_self _ reached tables
    rw [raised] at raisedToo
    exact .failed ((same _ List.mem_cons_self).trans reached) raisedToo
  | entered reached returned _ inductionHypothesis =>
    have returnedToo := alone _ List.mem_cons_self _ reached tables
    rw [returned] at returnedToo
    refine .entered ((same _ List.mem_cons_self).trans reached) returnedToo
      (inductionHypothesis ?_ ?_)
    · exact fun visit member => alone visit (List.mem_cons_of_mem _ member)
    · exact fun visit member => same visit (List.mem_cons_of_mem _ member)
  | passed reached passes _ inductionHypothesis =>
    refine .passed ((same _ List.mem_cons_self).trans reached) passes (inductionHypothesis ?_ ?_)
    · exact fun visit member => alone visit (List.mem_cons_of_mem _ member)
    · exact fun visit member => same visit (List.mem_cons_of_mem _ member)

/-- The diagnostics of a walk to a result are those of its visits. -/
theorem Walk.diagnostics_eq
    (walk : engine.Walk enter index program tally world visits outcome after) {result : RunResult}
    (ended : outcome = .ok result) :
    result.tally.diagnostics =
      tally.diagnostics ++ visits.flatMap fun visit => (engine.verdictOn visit).diagnostics := by
  induction walk with
  | finished =>
    cases ended
    simp [RunResult.tally]
  | exited reached =>
    cases ended
    simp [RunResult.tally, Tally.count, verdictOn, reached]
  | failed => cases ended
  | entered reached _ _ inductionHypothesis | passed reached _ _ inductionHypothesis =>
    rw [inductionHypothesis ended]
    simp [Tally.count, verdictOn, reached]

end

/-! ## What a run names -/

/-- An unknown module is found missing on a call of that module. -/
theorem module?_of_unknown {engine : Engine} {index : Nat} {item : Item} {world : World}
    {module : Text}
    (unknown : engine.verdict index item world = .diagnosed (.unknownModule module) ∨
      engine.verdict index item world = .skipped module) :
    item.demand.module? = some module := by
  unfold verdict at unknown
  cases demand : item.demand with
  | call called function =>
    simp only [demand, callVerdict] at unknown
    split at unknown
    · split at unknown <;> simp_all [Demand.module?]
    · split at unknown <;> simp at unknown
  | rejected | unnamedCall | misnamedCall | exit | unknown => simp [demand] at unknown

/-- The engine's own records name unknown modules only as the verdict does. -/
theorem announcement_within (engine : Engine) {verdict : Verdict} {modules : List Text}
    (unknown : ∀ module, verdict = .diagnosed (.unknownModule module) ∨ verdict = .skipped module →
      module ∈ modules) :
    ∀ notice ∈ Event.notices (engine.announcement verdict), notice.Within modules := by
  intro notice member
  cases verdict with
  | diagnosed diagnostic =>
    cases List.mem_singleton.mp member
    constructor
    · intro module told
      have marked : text "[juli] " ++ diagnostic.message =
        text "[juli] " ++ (text "Unknown module: " ++ module) := told
      have same := Diagnostic.eq_unknownModule (List.append_cancel_left marked)
      exact unknown module (.inl (congrArg _ same))
    · nofun
  | unknownFunction function owner =>
    cases List.mem_singleton.mp member
    constructor
    · intro module told
      cases Text.startsWith_of_eq_append told
    · nofun
  | skipped module =>
    cases List.mem_singleton.mp member
    constructor
    · intro other told
      cases Text.startsWith_of_eq_append told
    · intro _
      exact ⟨module, unknown module (.inr rfl), rfl⟩
  | entered => cases member
  | exited code =>
    simp only [announcement] at member
    split at member <;> cases member

/-- An item that enters no function does nothing but let the engine's own words be seen. -/
theorem perform_step_announced (engine : Engine) (enter : Enter) (index : Nat) (item : Item)
    (tally : Tally) (world : World)
    (stays : ∀ native, engine.verdict index item world ≠ .entered native) :
    ((engine.step enter index item tally).perform world).2 =
      world.record (engine.announcement (engine.verdict index item world)) := by
  rw [perform_step]
  cases reached : engine.verdict index item world with
  | entered native => exact absurd reached (stays native)
  | diagnosed | unknownFunction | skipped | exited => rfl

/-! ## Runs within their summary -/

/-- Two engines run a program alike, each in a world of its own, and leave some tables as they
were: they come to the same outcome, let the same be seen, enter the same functions in the same
order, and leave worlds that differ in those tables alone. -/
structure RunsAlike (engine twin : Engine) (enter : Enter) (program : Program)
    (world other : World) (used : List ExportsRef) : Prop where
  outcome : ((twin.run enter program).perform other).1 =
    ((engine.run enter program).perform world).1
  events : ((twin.run enter program).perform other).2.trace =
    ((engine.run enter program).perform world).2.trace
  natives : (twin.visits enter program other).filterMap (fun visit =>
      (twin.verdictOn visit).native?) =
    (engine.visits enter program world).filterMap fun visit => (engine.verdictOn visit).native?
  kept : ∀ ref ∈ used,
    ((engine.run enter program).perform world).2.exports.read ref = world.exports.read ref
  keptToo : ∀ ref ∈ used,
    ((twin.run enter program).perform other).2.exports.read ref = other.exports.read ref
  rest : ((twin.run enter program).perform other).2 =
    ((engine.run enter program).perform world).2.withTables used other.exports.read

/-- Engines over tables that agree on what a program calls run it alike. -/
theorem runsAlike_withTables (engine : Engine) (enter : Enter) (program : Program) (world : World)
    {exports : ExportsRef} {used : List ExportsRef} {tables : ExportsRef → Exports}
    (inside : engine.exports ∈ used) (insideToo : exports ∈ used)
    (agree : ∀ item ∈ program, ∀ module, item.demand.module? = some module →
      (world.exports.read engine.exports).get? module = (tables exports).get? module)
    (alone : engine.NativesLeaveAlone enter used (engine.visits enter program world)) :
    engine.RunsAlike { engine with exports } enter program world (world.withTables used tables)
      used := by
  have walked := engine.walk enter 0 program {} world
  have same : ∀ visit ∈ engine.visits enter program world,
      { engine with exports }.verdictOn (visit.withTables used tables) =
        engine.verdictOn visit := by
    intro visit member
    refine engine.verdict_withTables exports visit.index visit.item insideToo ?_
    intro module called
    rw [(walked.tables_kept alone inside).1 visit member]
    exact agree visit.item (walked.item_mem visit member) module called
  obtain ⟨visited, performed⟩ := (walked.withTables alone same).eq
  have run := perform_run_bind engine enter program world
  have runToo := perform_run_bind { engine with exports } enter program
    (world.withTables used tables)
  rw [performed] at runToo
  constructor
  · rw [run, runToo]
  · rw [run, runToo]
    rfl
  · rw [visits, ← visited, List.filterMap_map]
    refine List.filterMap_congr fun visit member => ?_
    exact congrArg Verdict.native? (same visit member)
  · intro ref member
    rw [run]
    exact (walked.tables_kept alone member).2
  · intro ref member
    rw [runToo, World.read_withTables member, World.read_withTables member]
  · rw [run, runToo, World.withTables_read]

/-- A program reaches no module but those that its summary lists. Engines over tables that agree
on the listed modules run it alike, as long as the functions that they enter leave the tables
alone; no message of its own result and no record of the engine itself names another module as
unknown. The tables may be two tables of one world, or one table with two contents. -/
theorem run_within_summary (engine : Engine) (enter : Enter) (program : Program) (world : World) :
    let modules := (Summary.ofProgram program).modules
    let visits := engine.visits enter program world
    let ended := (engine.runFrom enter 0 program {}).perform world
    (engine.run enter program).perform world = (ended.1.bind conclude, ended.2) ∧
    (∀ (exports : ExportsRef) (used : List ExportsRef) (tables : ExportsRef → Exports),
      engine.exports ∈ used → exports ∈ used →
      (∀ module ∈ modules,
        (world.exports.read engine.exports).get? module = (tables exports).get? module) →
      engine.NativesLeaveAlone enter used visits →
      engine.RunsAlike { engine with exports } enter program world
        (world.withTables used tables) used) ∧
    (∀ result module, ended.1 = .ok result →
      text "Unknown module: " ++ module ∈ result.report.diagnostics → module ∈ modules) ∧
    ∀ visit ∈ visits, (∀ native, engine.verdictOn visit ≠ .entered native) →
      ∃ told, (∀ tally, ((engine.step enter visit.index visit.item tally).perform visit.world).2 =
          visit.world.record told) ∧
        ∀ notice ∈ Event.notices told, notice.Within modules := by
  intro modules visits ended
  have walked := engine.walk enter 0 program {} world
  have named : ∀ visit ∈ visits, ∀ module,
      engine.verdictOn visit = .diagnosed (.unknownModule module) ∨
        engine.verdictOn visit = .skipped module → module ∈ modules := by
    intro visit member module unknown
    have called := module?_of_unknown unknown
    exact (Summary.mem_modules_iff program module).mpr
      ⟨visit.item, walked.item_mem visit member, called⟩
  refine ⟨perform_run_bind engine enter program world, ?_, ?_, ?_⟩
  · intro exports used tables inside insideToo agree alone
    refine engine.runsAlike_withTables enter program world inside insideToo ?_ alone
    intro item member module called
    exact agree module ((Summary.mem_modules_iff program module).mpr ⟨item, member, called⟩)
  · intro result module returned member
    obtain ⟨diagnostic, reported, told⟩ := List.mem_map.mp member
    rw [walked.diagnostics_eq returned] at reported
    obtain ⟨visit, visited, found⟩ := List.mem_flatMap.mp reported
    rw [Diagnostic.eq_unknownModule told] at found
    exact named visit visited module (.inl (Verdict.eq_diagnosed_of_mem found))
  · intro visit member stays
    refine ⟨engine.announcement (engine.verdictOn visit), ?_, ?_⟩
    · intro tally
      exact engine.perform_step_announced enter visit.index visit.item tally visit.world stays
    · exact engine.announcement_within (named visit member)

/-- Two tables agree on the listed modules, one that is exported and one that is not, and on
nothing else. The function that is called runs a program over a third table. -/
theorem run_within_summary_nested :
    let call (name : Text) : Value :=
      .object [(text "type", .string (text "call")), (text "name", .string name)]
    let nested : Body :=
      [(none, .execute (.exports (text "r")) ⟨true, true⟩ none (.values [call (text "Z.f")]) false)]
    let world : World :=
      { exports := (Store.empty.write ⟨0⟩ ((Table.empty.put (text "M") ⟨0⟩).put (text "X") ⟨1⟩))
        snapshots := Store.empty.write ⟨0⟩
          { functions := Table.empty.put (text "f") (some ⟨0, .script nested⟩) }
        labels := { exports := Table.empty.put (text "r") ⟨2⟩ } }
    let tables : ExportsRef → Exports := fun _ =>
      (Table.empty.put (text "Y") ⟨1⟩).put (text "M") ⟨0⟩
    let enter : Enter := Op.enterNative (Op.runBody ⟨⟨fun _ => .error .notFound⟩, ⟨[]⟩⟩ 2)
    let engine : Engine := ⟨⟨0⟩, ⟨true, true⟩, none⟩
    let twin : Engine := ⟨⟨1⟩, ⟨true, true⟩, none⟩
    let used : List ExportsRef := [⟨0⟩, ⟨1⟩]
    let program : Program :=
      [.raw (call (text "N.f")), .raw (call (text ".f")), .raw (call (text "M.f"))]
    (Summary.ofProgram program).modules = [text "N", text "", text "M"] ∧
      engine.NativesLeaveAlone enter used (engine.visits enter program world) ∧
      engine.RunsAlike twin enter program world (world.withTables used tables) used ∧
      ((engine.run enter program).perform world).1 = .ok (.completed
        ⟨3, 1, [.unknownModule (text "N"), .unknownModule (text "")]⟩) := by
  intro call nested world tables enter engine twin used program
  have listed : (Summary.ofProgram program).modules = [text "N", text "", text "M"] := rfl
  have alone : engine.NativesLeaveAlone enter used (engine.visits enter program world) := by
    intro visit member native entered tables
    -- Only the last visit enters a function.
    rcases List.mem_cons.mp member with rfl | later
    · cases entered
    · rcases List.mem_cons.mp later with rfl | last
      · cases entered
      · cases List.mem_singleton.mp last
        cases entered
        rfl
  obtain ⟨-, alike, -⟩ := run_within_summary engine enter program world
  refine ⟨listed, alone, alike ⟨1⟩ used tables (by decide) (by decide) ?_ alone, rfl⟩
  intro module member
  rw [listed] at member
  rcases List.mem_cons.mp member with rfl | later
  · rfl
  · rcases List.mem_cons.mp later with rfl | last
    · rfl
    · cases List.mem_singleton.mp last
      rfl

end Engine

end Switchboard
