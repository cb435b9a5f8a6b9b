import Mathlib.Data.List.Basic
import Switchboard.Proofs.Ending
import Switchboard.Proofs.Summary
import Switchboard.Session

/-!
# What a run comes to, without running it

As long as the functions that a run enters return and leave the entries of its export table
as they were, they have no part in its result. `Program.foretold` computes the result from the
items and from which names have a function, and `Program.callees` lists the functions that are
entered; `Engine.run_foretold` says that the engine does just this.
-/

namespace Switchboard

/-! ## Interfaces -/

/-- What is known of exports without their functions: for each exported name, which names have
a function. -/
abbrev Interface := Text → Option (Text → Bool)

/-- Whether a name has a function. -/
def Snapshot.binds (snapshot : Snapshot) (function : Text) : Bool :=
  (snapshot.functions.function? function).isSome

/-- The interface of entries. -/
def Interface.ofEntries (entries : Text → Option Snapshot) : Interface :=
  fun module => (entries module).map Snapshot.binds

/-! ## Foretelling -/

namespace Demand

/-- The code with which a run ends at an item with this demand. -/
def exitCode? : Demand → Option Int
  | .exit code => some code
  | _ => none

theorem exitCode?_eq_none {demand : Demand} (stays : ∀ code, demand ≠ .exit code) :
    demand.exitCode? = none := by
  cases demand with
  | exit code => exact absurd rfl (stays code)
  | rejected | unnamedCall | misnamedCall | call | unknown => rfl

/-- Whether a function is entered for this demand. -/
def calls (interface : Interface) : Demand → Bool
  | .call module function => (interface module).any fun binds => binds function
  | _ => false

/-- A function is entered for a demand exactly when the demand finds one. -/
theorem calls_ofEntries (entries : Text → Option Snapshot) (demand : Demand) :
    demand.calls (Interface.ofEntries entries) = (demand.callee? entries).isSome := by
  cases demand with
  | call module function =>
    simp only [calls, callee?, Interface.ofEntries]
    cases entries module <;> simp [Snapshot.binds]
  | rejected | unnamedCall | misnamedCall | exit | unknown => rfl

/-- The diagnostic on an item with this demand. A call of an unknown module has one only when
that is reported. -/
def diagnostic? (reporting : Reporting) (interface : Interface) (index : Nat) :
    Demand → Option Diagnostic
  | .rejected rejection => some (.malformed index rejection)
  | .unnamedCall => some (.unnamedCall index)
  | .misnamedCall name => some (.malformedReference name)
  | .call module function =>
      match interface module with
      | none => if reporting.unknownModules then some (.unknownModule module) else none
      | some binds => if binds function then none else some (.unknownFunction function)
  | .exit _ => none
  | .unknown kind => some (.unknownInstruction kind)

end Demand

/-- The result of a run that ends with a code, if it ends with one. -/
def RunResult.ending (code : Option Int) (tally : Tally) : RunResult :=
  match code with
  | none => .completed tally
  | some code => .exited code tally

namespace Program

/-- The items up to the first exit, that one included. -/
def reached (program : Program) : Program :=
  match program.firstExit? with
  | none => program
  | some place => program.take (place + 1)

/-- The code of the first exit. -/
def exitCode? (program : Program) : Option Int :=
  program.findSome? fun item => item.demand.exitCode?

/-- The functions that the reached items call, in order. -/
def callees (program : Program) (entries : Text → Option Snapshot) : List Native :=
  program.reached.filterMap fun item => item.demand.callee? entries

/-- What a run of a program comes to, as far as an interface tells. -/
def foretold (program : Program) (reporting : Reporting) (interface : Interface) : RunResult :=
  .ending program.exitCode?
    { executed := program.reached.length
      calls := program.reached.countP fun item => item.demand.calls interface
      diagnostics := program.reached.zipIdx.filterMap fun (item, index) =>
        item.demand.diagnostic? reporting interface index }

@[simp] theorem reached_nil : reached [] = [] := rfl

theorem reached_cons (item : Item) (rest : Program) :
    reached (item :: rest) = if item.demand.exits then [item] else item :: reached rest := by
  unfold reached
  rw [firstExit?_cons]
  by_cases exits : item.demand.exits = true
  · simp [exits]
  · simp only [exits, if_false, Bool.false_eq_true]
    cases firstExit? rest <;> simp

theorem exitCode?_cons (item : Item) (rest : Program) :
    exitCode? (item :: rest) = item.demand.exitCode?.or (exitCode? rest) := by
  simp only [exitCode?, List.findSome?_cons]
  cases item.demand.exitCode? <;> rfl

end Program

/-- The function that is entered. -/
def Verdict.native? : Verdict → Option Native
  | .entered native => some native
  | _ => none

namespace Engine

/-! ## Verdicts from entries -/

/-- The verdict on an item depends on the world by the entries alone. -/
theorem verdict_congr (engine : Engine) (index : Nat) (item : Item) {world other : World}
    (same : world.entries engine.exports = other.entries engine.exports) :
    engine.verdict index item world = engine.verdict index item other := by
  unfold verdict
  cases item.demand with
  | call module function =>
    have entry := congrFun same module
    simp only [World.entries] at entry
    simp only [callVerdict]
    cases here : (world.exports.read engine.exports).get? module <;>
      cases there : (other.exports.read engine.exports).get? module <;>
      simp only [here, there, Option.map_none, Option.map_some, reduceCtorEq,
        Option.some.injEq] at entry
    · rfl
    · simp only [entry]
  | rejected | unnamedCall | misnamedCall | exit | unknown => rfl

/-- The diagnostics of a verdict are foretold by the interface of the entries. -/
theorem diagnostics_verdict (engine : Engine) (index : Nat) (item : Item) (world : World) :
    (engine.verdict index item world).diagnostics =
      (item.demand.diagnostic? engine.reporting
        (Interface.ofEntries (world.entries engine.exports)) index).toList := by
  unfold verdict
  cases item.demand with
  | call module function =>
    simp only [callVerdict, Demand.diagnostic?, Interface.ofEntries, World.entries]
    cases (world.exports.read engine.exports).get? module with
    | none =>
      by_cases reported : engine.reporting.unknownModules = true <;>
        simp [reported, Verdict.diagnostics]
    | some snapshot =>
      cases bound : (world.snapshots.read snapshot).functions.function? function <;>
        simp [Snapshot.binds, bound, Verdict.diagnostics]
  | rejected | unnamedCall | misnamedCall | exit | unknown =>
    simp [Demand.diagnostic?, Verdict.diagnostics]

/-- The function that is entered for an item is the one that the item calls. -/
theorem native?_verdict (engine : Engine) (index : Nat) (item : Item) (world : World) :
    (engine.verdict index item world).native? =
      item.demand.callee? (world.entries engine.exports) := by
  have iff := engine.verdict_eq_entered_iff index item world
  cases called : item.demand.callee? (world.entries engine.exports) with
  | some native => rw [(iff native).mpr called, Verdict.native?]
  | none =>
    cases reached : engine.verdict index item world with
    | entered native =>
      rw [(iff native).mp reached] at called
      cases called
    | diagnosed | unknownFunction | skipped | exited => rfl

/-- The verdicts on the reached items, all in one world, the first item standing at an
index. -/
def verdicts (engine : Engine) (index : Nat) (program : Program) (world : World) :
    List Verdict :=
  (program.reached.zipIdx index).map fun (item, index) => engine.verdict index item world

/-- What the engine does about an item besides counting it. -/
def act (engine : Engine) (enter : Enter) : Verdict → Op Unit
  | .entered native => enter native
  | verdict => modify fun world => world.record (engine.announcement verdict)

/-! ## Undisturbed runs -/

/-- The functions of some visits return, and leave the entries as they were. -/
def Undisturbed (engine : Engine) (enter : Enter) (visits : List Visit) : Prop :=
  ∀ visit ∈ visits, ∀ native, engine.verdictOn visit = .entered native →
    ∃ after, (enter native).perform visit.world = (.ok (), after) ∧
      after.entries engine.exports = visit.world.entries engine.exports

theorem perform_act_passes (engine : Engine) (enter : Enter) {verdict : Verdict}
    (passes : verdict.passes = true) (world : World) :
    (engine.act enter verdict).perform world =
      (.ok (), world.record (engine.announcement verdict)) := by
  cases verdict with
  | entered | exited => cases passes
  | diagnosed | unknownFunction | skipped => rfl

section

variable {engine : Engine} {index : Nat} {item : Item} {rest : Program} {world : World}
  {verdict : Verdict}

theorem perform_acts_cons {enter : Enter} {between : World} {later : List Verdict}
    (acted : (engine.act enter verdict).perform world = (.ok (), between)) :
    ((verdict :: later).forM (engine.act enter)).perform world =
      (later.forM (engine.act enter)).perform between := by
  change (engine.act enter verdict >>= fun _ => later.forM (engine.act enter)).perform world = _
  rw [Op.perform_bind, acted]

theorem verdicts_cons_exited {code : Int} (demand : item.demand = .exit code) :
    engine.verdicts index (item :: rest) world = [.exited code] := by
  have reached := (engine.verdict_eq_exited_iff index item world code).mpr demand
  simp [verdicts, Program.reached_cons, demand, Demand.exits, reached]

theorem verdicts_cons (reached : engine.verdict index item world = verdict)
    (stays : ∀ code, verdict ≠ .exited code) :
    engine.verdicts index (item :: rest) world =
      verdict :: engine.verdicts (index + 1) rest world := by
  have goesOn := Demand.exits_eq_false (demand_ne_exit reached stays)
  simp [verdicts, Program.reached_cons, goesOn, reached]

/-- An undisturbed walk acts on the verdicts that its first world gives, and counts them. -/
theorem Walk.followed {enter : Enter} {program : Program} {tally : Tally}
    {after : World} {visits : List Visit} {outcome : Except Failure RunResult}
    (walk : engine.Walk enter index program tally world visits outcome after)
    (undisturbed : engine.Undisturbed enter visits) {start : World}
    (same : world.entries engine.exports = start.entries engine.exports) :
    outcome = .ok (.ending program.exitCode?
        ((engine.verdicts index program start).foldl Tally.count tally)) ∧
      ((engine.verdicts index program start).forM (engine.act enter)).perform world =
        (.ok (), after) := by
  induction walk with
  | finished => exact ⟨rfl, rfl⟩
  | @exited index item _ tally world code reached =>
    have demand := (engine.verdict_eq_exited_iff index item world code).mp reached
    rw [verdicts_cons_exited demand, Program.exitCode?_cons, demand]
    exact ⟨rfl, rfl⟩
  | failed reached raised =>
    obtain ⟨_, returned, -⟩ := undisturbed _ List.mem_cons_self _ reached
    rw [raised] at returned
    cases returned
  | @entered index item rest tally world native between _ _ _ reached returned _
      inductionHypothesis =>
    obtain ⟨_, performed, kept⟩ := undisturbed _ List.mem_cons_self _ reached
    rw [returned] at performed
    cases performed
    obtain ⟨ended, acted⟩ := inductionHypothesis
      (fun visit member => undisturbed visit (List.mem_cons_of_mem _ member)) (kept.trans same)
    have atStart := engine.verdict_congr index item same
    rw [reached] at atStart
    have noExit := Demand.exitCode?_eq_none (demand_ne_exit reached nofun)
    rw [verdicts_cons atStart.symm nofun, Program.exitCode?_cons, noExit]
    have acting : (engine.act enter (.entered native)).perform world = (.ok (), between) := returned
    exact ⟨ended, by rw [perform_acts_cons acting, acted]⟩
  | @passed index item rest tally world verdict _ _ _ reached passes _ inductionHypothesis =>
    obtain ⟨ended, acted⟩ := inductionHypothesis
      (fun visit member => undisturbed visit (List.mem_cons_of_mem _ member)) same
    have atStart := engine.verdict_congr index item same
    rw [reached] at atStart
    have stays := Verdict.ne_exited_of_passes passes
    have noExit := Demand.exitCode?_eq_none (demand_ne_exit reached stays)
    rw [verdicts_cons atStart.symm stays, Program.exitCode?_cons, noExit]
    have acting := perform_act_passes engine enter passes world
    exact ⟨ended, by rw [perform_acts_cons acting, acted]⟩

end

/-! ## Results -/

/-- Counting verdicts one after another adds up what they add. -/
theorem foldl_count (verdicts : List Verdict) (tally : Tally) :
    verdicts.foldl Tally.count tally =
      { executed := tally.executed + verdicts.length
        calls := tally.calls + verdicts.countP fun verdict => verdict.native?.isSome
        diagnostics := tally.diagnostics ++ verdicts.flatMap Verdict.diagnostics } := by
  induction verdicts generalizing tally with
  | nil => simp
  | cons verdict later inductionHypothesis =>
    rw [List.foldl_cons, inductionHypothesis]
    cases verdict <;>
      simp [Tally.count, Verdict.calls, Verdict.native?, Nat.add_assoc, Nat.add_comm 1]

/-- The verdicts of a world count up to the result that its interface foretells. -/
theorem ending_verdicts (engine : Engine) (program : Program) (world : World) :
    .ending program.exitCode? ((engine.verdicts 0 program world).foldl Tally.count {}) =
      program.foretold engine.reporting
        (Interface.ofEntries (world.entries engine.exports)) := by
  rw [foldl_count, Program.foretold]
  congr 2
  · simp [verdicts]
  · simp only [verdicts, List.countP_map, Function.comp_def, native?_verdict,
      ← Demand.calls_ofEntries]
    conv => rhs; rw [← List.zipIdx_map_fst 0 program.reached, List.countP_map]
    exact Nat.zero_add _
  · simp only [verdicts, List.flatMap_map, diagnostics_verdict, List.nil_append,
      List.filterMap_eq_flatMap_toList]

/-- The functions that are entered are those that the reached items call. -/
theorem natives_verdicts (engine : Engine) (program : Program) (world : World) :
    (engine.verdicts 0 program world).filterMap Verdict.native? =
      program.callees (world.entries engine.exports) := by
  simp only [verdicts, List.filterMap_map, Function.comp_def, native?_verdict, Program.callees]
  conv => rhs; rw [← List.zipIdx_map_fst 0 program.reached, List.filterMap_map]
  rfl

/-- An undisturbed run comes to the foretold result, and acts on the verdicts of its first
world. -/
theorem Undisturbed.perform_run {engine : Engine} {enter : Enter} {program : Program}
    {world : World} (undisturbed : engine.Undisturbed enter (engine.visits enter program world)) :
    ∃ after,
      (engine.run enter program).perform world =
        (conclude (program.foretold engine.reporting
          (Interface.ofEntries (world.entries engine.exports))), after) ∧
      ((engine.verdicts 0 program world).forM (engine.act enter)).perform world =
        (.ok (), after) := by
  obtain ⟨ended, acted⟩ := (engine.walk enter 0 program {} world).followed undisturbed rfl
  rw [ending_verdicts] at ended
  refine ⟨_, ?_, acted⟩
  rw [perform_run_bind, ended]
  rfl

/-- What a run comes to when the functions that it enters return and leave the entries as they
were: the result is the one that the program, what is reported and the interface of the
entries foretell, and the world is left as by acting on the verdicts of the first world one
after another. The functions among these acts are those that the reached items call. So runs
over entries with one interface have one result, whatever their functions do. -/
theorem run_foretold (engine : Engine) (enter : Enter) (program : Program) (world : World)
    (undisturbed : engine.Undisturbed enter (engine.visits enter program world)) :
    let entries := world.entries engine.exports
    let verdicts := engine.verdicts 0 program world
    (∃ after,
      (engine.run enter program).perform world =
        (conclude (program.foretold engine.reporting (Interface.ofEntries entries)), after) ∧
      (verdicts.forM (engine.act enter)).perform world = (.ok (), after)) ∧
    verdicts.filterMap Verdict.native? = program.callees entries ∧
    ∀ (engine' : Engine) (enter' : Enter) (world' : World),
      engine'.reporting = engine.reporting →
      Interface.ofEntries (world'.entries engine'.exports) = Interface.ofEntries entries →
      engine'.Undisturbed enter' (engine'.visits enter' program world') →
      ((engine'.run enter' program).perform world').1 =
        ((engine.run enter program).perform world).1 := by
  intro entries verdicts
  refine ⟨undisturbed.perform_run, natives_verdicts engine program world, ?_⟩
  intro engine' enter' world' reporting interface undisturbed'
  obtain ⟨_, first, -⟩ := undisturbed.perform_run
  obtain ⟨_, second, -⟩ := undisturbed'.perform_run
  rw [first, second, reporting, interface]

/-- A function that redefines itself on the module it came from and runs a program of its own,
which cannot be carried out and exits: the outer result tells of neither, and is the same for
a function that does nothing. -/
theorem run_foretold_nested :
    let nested : Body :=
      [(none, .execute (.exports (text "r")) {} none
        (.values [.null, .object [(text "type", .string (text "jexit"))]]) false)]
    let native : Native :=
      ⟨0, .script [(none, .define (text "m") (text "f") none), (none, .attempt nested)]⟩
    let functions : FunctionTable :=
      (Table.empty.put (text "f") (some native)).put (text "hole") none
    let world : World :=
      { modules := Store.empty.write ⟨0⟩ { functions }
        exports := Store.empty.write ⟨0⟩ (Table.empty.put (text "M") ⟨0⟩)
        snapshots := Store.empty.write ⟨0⟩ { functions }
        labels :=
          { modules := Table.empty.put (text "m") ⟨0⟩
            exports := Table.empty.put (text "r") ⟨0⟩ } }
    let enter : Enter := Op.enterNative (Op.runBody ⟨⟨fun _ => .error .notFound⟩, ⟨[]⟩⟩ 2)
    let engine : Engine := ⟨⟨0⟩, ⟨false, false⟩, none⟩
    let call : Item := .model ⟨text "call", .string (text "M.f"), .null, .null, []⟩
    let program : Program :=
      [call, .raw .null, .model ⟨text "call", .string (text "M.hole"), .null, .null, []⟩,
        .model ⟨text "call", .string (text "N.f"), .null, .null, []⟩,
        .model ⟨text "jexit", .null, .null, .int 3, []⟩, call]
    let outcome : Except Failure RunResult :=
      .error (.exit (.int 3) (some (.exited 3
        ⟨5, 1, [.malformed 1 (.notObject (text "NoneType")), .unknownFunction (text "hole")]⟩)))
    engine.Undisturbed enter (engine.visits enter program world) ∧
      ((engine.run enter program).perform world).1 = outcome ∧
      (engine.verdicts 0 program world).filterMap Verdict.native? = [native] ∧
      ((engine.run (fun _ => pure ()) program).perform world).1 = outcome := by
  intro nested native functions world enter engine call program outcome
  have undisturbed : engine.Undisturbed enter (engine.visits enter program world) := by
    have visits : engine.visits enter program world =
        [⟨0, _, _⟩, ⟨1, _, _⟩, ⟨2, _, _⟩, ⟨3, _, _⟩, ⟨4, _, _⟩] := rfl
    rw [visits]
    intro visit member native entered
    simp only [List.mem_cons, List.not_mem_nil, or_false] at member
    rcases member with rfl | rfl | rfl | rfl | rfl
    · cases entered
      exact ⟨_, rfl, rfl⟩
    all_goals cases entered
  have idle : engine.Undisturbed (fun _ => pure ())
      (engine.visits (fun _ => pure ()) program world) :=
    fun visit _ _ _ => ⟨visit.world, rfl, rfl⟩
  obtain ⟨⟨_, ran, -⟩, natives, alike⟩ := run_foretold engine enter program world undisturbed
  have ended : ((engine.run enter program).perform world).1 = outcome := congrArg Prod.fst ran
  exact ⟨undisturbed, ended, natives, (alike engine _ world rfl rfl idle).trans ended⟩

end Engine

end Switchboard
