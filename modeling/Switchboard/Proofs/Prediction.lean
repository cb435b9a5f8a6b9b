import Mathlib.Data.List.Forall2
import Switchboard.Proofs.Summary
import Switchboard.Proofs.Walk
import Switchboard.Session

/-!
# What a summary says about a run

A summary is made without running anything, and still it tells where a run will end and which
items it will not be able to carry out, as long as the functions that the run enters return.
Only what depends on the exports, an unknown module or function, is beyond a summary.
-/

namespace Switchboard

/-! ## Where a run ends -/

/-- What the first exit of a program says about the result of a run over it, when the run has
executed some items before. -/
inductive Predicts (program : Program) (before : Nat) : Option Nat → RunResult → Prop where
  | completes {final : Tally} (executed : final.executed = before + program.length) :
      Predicts program before none (.completed final)
  | exits {place : Nat} {item : Item} {code : Int} {final : Tally}
      (found : program[place]? = some item) (demand : item.demand = .exit code)
      (executed : final.executed = before + (place + 1)) :
      Predicts program before (some place) (.exited code final)

/-- An item that does not exit moves the first exit by one place. -/
theorem Predicts.cons {program : Program} {before : Nat} {place : Option Nat}
    {result : RunResult} (predicts : Predicts program (before + 1) place result) (item : Item) :
    Predicts (item :: program) before (place.map (· + 1)) result := by
  cases predicts with
  | completes executed =>
    refine .completes ?_
    simp only [List.length_cons]
    omega
  | exits found demand executed =>
    rw [Option.map_some]
    refine .exits (by simpa using found) demand ?_
    omega

namespace Engine

/-- A walk that comes to a result ends where the first exit says. -/
theorem Walk.predicted {engine : Engine} {enter : Enter} {index : Nat} {program : Program}
    {tally : Tally} {world after : World} {visits : List Visit}
    {outcome : Except Failure RunResult}
    (walk : engine.Walk enter index program tally world visits outcome after)
    {result : RunResult} (ended : outcome = .ok result) :
    Predicts program tally.executed program.firstExit? result := by
  induction walk with
  | finished =>
    cases ended
    exact .completes rfl
  | @exited index item _ _ world code reached =>
    have demand := (engine.verdict_eq_exited_iff index item world code).mp reached
    cases ended
    rw [Program.firstExit?_cons, demand]
    exact .exits rfl demand rfl
  | failed => cases ended
  | @entered _ item _ _ _ native _ _ _ _ reached _ _ inductionHypothesis =>
    have stays := Demand.exits_eq_false (demand_ne_exit reached nofun)
    have predicts := inductionHypothesis ended
    simpa [Program.firstExit?_cons, stays] using predicts.cons item
  | @passed _ item _ _ _ verdict _ _ _ reached passes _ inductionHypothesis =>
    have stays :=
      Demand.exits_eq_false (demand_ne_exit reached (Verdict.ne_exited_of_passes passes))
    have predicts := inductionHypothesis ended
    simpa [Program.firstExit?_cons, stays] using predicts.cons item

/-- The items of a program give rise to no warning that begins with a number. -/
theorem unreachable_not_mem_warningsFrom (count place index : Nat) (program : Program) :
    (Warning.unreachable count place).message ∉
      (program.warningsFrom index).map Warning.message := by
  intro member
  obtain ⟨warning, among, same⟩ := List.mem_map.mp member
  obtain ⟨_, -, -, -, rest, message⟩ := Program.place_of_mem_warningsFrom among
  obtain ⟨first, others, numeral, digit⟩ := Decimal.ofNat_eq_cons count
  rw [message, Warning.message, numeral] at same
  have head : some (CodePoint.scalar 'I') = some (.scalar first) := congrArg List.head? same
  cases head
  cases digit

/-- A summary warns of the items behind the first exit exactly when there are any, and of no
other number of them. -/
theorem unreachable_mem_warnings_iff {program : Program} {place : Nat}
    (exits : program.firstExit? = some place) (count : Nat) :
    (Warning.unreachable count place).message ∈
        (Summary.ofProgram program).warnings.map Warning.message ↔
      count = program.length - (place + 1) ∧ 0 < count := by
  have behind : program.length - place - 1 = program.length - (place + 1) := by omega
  rw [(Summary.ofProgram_demands program).2.2, List.map_append, List.mem_append,
    or_iff_right (unreachable_not_mem_warningsFrom count place 0 program), Summary.trailing, exits]
  simp only [behind]
  by_cases none : program.length - (place + 1) = 0
  · simp only [none, if_true, List.map_nil, List.not_mem_nil, false_iff]
    omega
  · simp only [none, if_false, List.map_cons, List.map_nil, List.mem_singleton]
    constructor
    · intro same
      have numerals : Decimal.ofNat count = Decimal.ofNat (program.length - (place + 1)) := by
        simpa [Warning.message] using same
      have counts := Decimal.ofNat_injective numerals
      omega
    · rintro ⟨rfl, -⟩
      rfl

/-- The run of a program whose functions return raises an exit exactly when the summary names
one. It then executes the items up to the named one and carries that item's code, and the
summary warns of the items behind it when there are any; otherwise it completes and executes
every item that the summary counts. -/
theorem summary_predicts_exit (engine : Engine) (enter : Enter) (program : Program)
    (world : World) (natives : engine.NativesReturn enter program world) :
    let summary := Summary.ofProgram program
    let outcome := ((engine.run enter program).perform world).1
    ((∃ code carried, outcome = .error (.exit code carried)) ↔ summary.exitsAt ≠ none) ∧
    (∀ place, summary.exitsAt = some place →
      ∃ item instruction code result,
        program[place]? = some item ∧ item.accept = .ok instruction ∧
        instruction.isExit = true ∧
        (∀ number, instruction.code = .int number → code = number) ∧
        ((∀ number, instruction.code ≠ .int number) → code = 0) ∧
        outcome = .error (.exit (.int code) (some result)) ∧
        result.state = .exited ∧ result.exitCode = some code ∧
        result.tally.executed = place + 1 ∧
        ∀ count, Decimal.ofNat count ++ text " instruction(s) after jexit at " ++
            Decimal.ofNat place ++ text " never run" ∈ summary.warnings.map Warning.message ↔
          count = program.length - result.tally.executed ∧ 0 < count) ∧
    (summary.exitsAt = none →
      ∃ result, outcome = .ok result ∧ result.state = .completed ∧ result.exitCode = none ∧
        result.tally.executed = summary.count) := by
  intro summary outcome
  obtain ⟨counted, exitsAt, -⟩ := Summary.ofProgram_demands program
  obtain ⟨result, after, ran, walked⟩ := run_of_nativesReturn natives
  have ended : outcome = conclude result := congrArg Prod.fst ran
  have predicts := walked.predicted rfl
  generalize first : program.firstExit? = foreseen at predicts exitsAt
  simp only [summary, exitsAt, counted, ended]
  cases predicts with
  | completes executed =>
    refine ⟨by simp [conclude], ?_, fun _ => ⟨_, rfl, rfl, rfl, ?_⟩⟩
    · rintro _ ⟨⟩
    · simpa [RunResult.tally] using executed
  | @exits place item code final found demand executed =>
    obtain ⟨instruction, accepted, isExit, rfl⟩ := Item.demand_eq_exit demand
    refine ⟨by simp [conclude], ?_, by simp⟩
    rintro _ ⟨⟩
    have reached : final.executed = place + 1 := by simpa using executed
    refine ⟨item, instruction, _, _, found, accepted, isExit, ?_, ?_, rfl, rfl, rfl, reached, ?_⟩
    · intro number whole
      simp [Instruction.exitCode, whole]
    · intro other
      unfold Instruction.exitCode
      split
      · next number whole => exact absurd whole (other number)
      · rfl
    · have warned := unreachable_mem_warnings_iff first
      rw [← reached] at warned
      exact warned

/-- A function publishes a module that the next item calls, the exit behind them has no whole
number for a code, and another exit follows. -/
theorem summary_predicts_exit_published :
    let native : Native :=
      ⟨0, .script [(none, .publish (.exports (text "r")) (text "N") (.snapshot (text "s")))]⟩
    let world : World :=
      { exports := Store.empty.write ⟨0⟩ (Table.empty.put (text "M") ⟨0⟩)
        snapshots := Store.empty.write ⟨0⟩
          { functions := Table.empty.put (text "f") (some native) }
        labels :=
          { exports := Table.empty.put (text "r") ⟨0⟩
            snapshots := Table.empty.put (text "s") ⟨0⟩ } }
    let enter : Enter := Op.enterNative (Op.runBody ⟨⟨fun _ => .error .notFound⟩, ⟨[]⟩⟩ 1)
    let engine : Engine := ⟨⟨0⟩, ⟨true, false⟩, none⟩
    let program : Program :=
      [.model ⟨text "call", .string (text "M.f"), .null, .null, []⟩,
        .model ⟨text "call", .string (text "N.f"), .null, .null, []⟩,
        .model ⟨text "jexit", .null, .null, .bool true, []⟩,
        .model ⟨text "jexit", .null, .null, .int 5, []⟩]
    engine.NativesReturn enter program world ∧
      ∃ result, ((engine.run enter program).perform world).1 =
          .error (.exit (.int 0) (some result)) ∧
        result.tally.executed = 3 ∧
        text "1 instruction(s) after jexit at 2 never run" ∈
          (Summary.ofProgram program).warnings.map Warning.message := by
  intro native world enter engine program
  have natives : engine.NativesReturn enter program world := nativesReturn_iff.mpr ⟨_, rfl⟩
  obtain ⟨-, exits, -⟩ := summary_predicts_exit engine enter program world natives
  obtain ⟨_, _, code, result, found, accepted, -, -, other, ended, -, -, executed, warned⟩ :=
    exits 2 rfl
  cases found
  cases accepted
  cases other nofun
  refine ⟨natives, result, ended, executed, (warned 1).mpr ⟨?_, by omega⟩⟩
  rw [executed]
  rfl

end Engine

/-! ## What a run reports -/

/-- A message of a run and a message of a summary that say the same of the item at a place. -/
inductive Mirrors (place : Nat) : Text → Text → Prop where
  | malformed (reason : Text) :
      Mirrors place (text "Malformed instruction at " ++ Decimal.ofNat place ++ text ": " ++ reason)
        (text "Instruction " ++ Decimal.ofNat place ++ text ": malformed")
  | unnamedCall :
      Mirrors place (text "Call at " ++ Decimal.ofNat place ++ text " has no name")
        (text "Instruction " ++ Decimal.ofNat place ++ text ": call has no name")
  | malformedReference (name : Value) :
      Mirrors place (text "Malformed call reference: " ++ name.describe)
        (text "Instruction " ++ Decimal.ofNat place ++ text ": malformed reference " ++
          name.describe)
  | unknownInstruction (kind : Text) :
      Mirrors place (text "Unknown instruction: " ++ kind)
        (text "Instruction " ++ Decimal.ofNat place ++ text ": unknown type " ++ kind.quoted)

/-- A warning is about some item and says the same of it as a message of a run. -/
def Warning.Echoes (message : Text) (warning : Warning) : Prop :=
  ∃ place, warning.place? = some place ∧ Mirrors place message warning.message

/-- Whether a message is about something that the exports lack. -/
def missesExport (message : Text) : Bool :=
  Text.startsWith (text "Unknown module: ") message ||
    Text.startsWith (text "Unknown function: ") message

/-- The messages that do not depend on the exports. -/
def Diagnostic.independent (diagnostics : List Diagnostic) : List Text :=
  (diagnostics.map Diagnostic.message).filter fun message => !missesExport message

@[simp] theorem Diagnostic.independent_append (first second : List Diagnostic) :
    independent (first ++ second) = independent first ++ independent second := by
  simp [independent]

/-- A call of a function says nothing that does not depend on the exports. -/
theorem Engine.independent_callVerdict (engine : Engine) (module function : Text)
    (world : World) :
    Diagnostic.independent (engine.callVerdict module function world).diagnostics = [] := by
  have unknownModule : missesExport (Diagnostic.unknownModule module).message = true := by
    simp [missesExport, Diagnostic.message]
  have unknownFunction : missesExport (Diagnostic.unknownFunction function).message = true := by
    simp [missesExport, Diagnostic.message]
  unfold callVerdict
  split
  · split
    · simp [Diagnostic.independent, Verdict.diagnostics, unknownModule]
    · rfl
  · split
    · simp [Diagnostic.independent, Verdict.diagnostics, unknownFunction]
    · rfl

namespace Engine

/-- The verdict on an item and the warning about it say the same, exports apart. -/
theorem verdict_echoed (engine : Engine) (index : Nat) (item : Item) (world : World) :
    List.Forall₂ Warning.Echoes
      (Diagnostic.independent (engine.verdict index item world).diagnostics)
      (item.demand.warnings index) := by
  have echoed : ∀ {diagnostic warning}, missesExport (Diagnostic.message diagnostic) = false →
      Mirrors index diagnostic.message (Warning.message warning) →
      warning.place? = some index →
      List.Forall₂ Warning.Echoes (Diagnostic.independent [diagnostic]) [warning] := by
    intro diagnostic warning kept mirrors placed
    have independent : Diagnostic.independent [diagnostic] = [diagnostic.message] := by
      simp [Diagnostic.independent, kept]
    rw [independent]
    exact .cons ⟨index, placed, mirrors⟩ .nil
  unfold verdict
  cases item.demand with
  | rejected rejection => exact echoed rfl (.malformed rejection.message) rfl
  | unnamedCall => exact echoed rfl .unnamedCall rfl
  | misnamedCall name => exact echoed rfl (.malformedReference name) rfl
  | unknown kind => exact echoed rfl (.unknownInstruction kind) rfl
  | exit => exact .nil
  | call module function =>
    simp only [independent_callVerdict]
    exact .nil

/-- What a run adds to a tally is echoed by the warnings about the items that it executes. -/
def Echoed (index : Nat) (program : Program) (tally final : Tally) : Prop :=
  ∃ executed messages, executed ≤ program.length ∧
    final.executed = tally.executed + executed ∧
    Diagnostic.independent final.diagnostics =
      Diagnostic.independent tally.diagnostics ++ messages ∧
    List.Forall₂ Warning.Echoes messages (Program.warningsFrom index (program.take executed))

/-- One executed item more. -/
theorem Echoed.cons {index : Nat} {item : Item} {rest : Program} {tally final : Tally}
    {verdict : Verdict}
    (first : List.Forall₂ Warning.Echoes (Diagnostic.independent verdict.diagnostics)
      (item.demand.warnings index))
    (later : Echoed (index + 1) rest (tally.count verdict) final) :
    Echoed index (item :: rest) tally final := by
  obtain ⟨executed, messages, inside, counted, reported, echoed⟩ := later
  refine ⟨executed + 1, Diagnostic.independent verdict.diagnostics ++ messages, ?_, ?_, ?_, ?_⟩
  · simpa using inside
  · simp only [counted, Tally.count]
    omega
  · simp [reported, Tally.count]
  · simpa using List.rel_append first echoed

/-- The messages of a walk that comes to a result are echoed. -/
theorem Walk.echoed {engine : Engine} {enter : Enter} {index : Nat} {program : Program}
    {tally : Tally} {world after : World} {visits : List Visit}
    {outcome : Except Failure RunResult}
    (walk : engine.Walk enter index program tally world visits outcome after)
    {result : RunResult} (ended : outcome = .ok result) :
    Echoed index program tally result.tally := by
  have nothing : ∀ index rest tally, Echoed index rest tally tally := by
    intro index rest tally
    exact ⟨0, [], Nat.zero_le _, rfl, by simp, .nil⟩
  induction walk with
  | finished =>
    cases ended
    exact nothing _ _ _
  | @exited index item _ _ world _ reached =>
    have first := engine.verdict_echoed index item world
    rw [reached] at first
    cases ended
    exact .cons first (nothing _ _ _)
  | failed => cases ended
  | @entered index item _ _ world _ _ _ _ _ reached _ _ inductionHypothesis =>
    have first := engine.verdict_echoed index item world
    rw [reached] at first
    exact .cons first (inductionHypothesis ended)
  | @passed index item _ _ world _ _ _ _ reached _ _ inductionHypothesis =>
    have first := engine.verdict_echoed index item world
    rw [reached] at first
    exact .cons first (inductionHypothesis ended)

/-- A run whose functions return reports of the items it executes what the summary warns of,
in the same order, besides what the exports lack. All other warnings are about items that the
run does not come to, or are the single last one about the items behind the exit. -/
theorem warnings_mirror_diagnostics (engine : Engine) (enter : Enter) (program : Program)
    (world : World) (natives : engine.NativesReturn enter program world) :
    ∃ result after, (engine.run enter program).perform world = (conclude result, after) ∧
      let executed := result.tally.executed
      let warnings := (Summary.ofProgram program).warnings
      let below := warnings.filter fun warning => warning.place?.any (· < executed)
      List.Forall₂ Warning.Echoes
        (result.report.diagnostics.filter fun message => !missesExport message) below ∧
      ∃ above trailing, warnings = below ++ above ++ trailing ∧
        (∀ warning ∈ above, ∃ place, warning.place? = some place ∧ executed ≤ place) ∧
        (trailing = [] ∨ ∃ count exit, trailing = [.unreachable count exit]) := by
  obtain ⟨result, after, ran, walked⟩ := run_of_nativesReturn natives
  refine ⟨result, after, ran, ?_⟩
  intro executed warnings below
  obtain ⟨count, messages, inside, counted, reported, echoed⟩ := walked.echoed rfl
  have reached : executed = count := by simpa using counted
  rw [← reached] at inside echoed
  have same : below = _ := Summary.warnings_below program inside
  refine ⟨?_, Program.warningsFrom executed (program.drop executed), Summary.trailing program,
    ?_, ?_, Summary.trailing_cases program⟩
  · have independent :
        (result.report.diagnostics.filter fun message => !missesExport message) = messages :=
      reported
    rw [same, independent]
    exact echoed
  · rw [same]
    exact Summary.warnings_parted program inside
  · intro warning member
    obtain ⟨place, placed, reached, -⟩ := Program.place_of_mem_warningsFrom member
    exact ⟨place, placed, reached⟩

/-- The four kinds of items that no run can carry out and a missing export stand before an exit:
the run exits with five diagnostics, of which the summary's first four warnings echo all but the one
about the export. The other two warnings are about the item behind the exit. -/
theorem warnings_mirror_diagnostics_mixed :
    let enter : Enter := fun _ => pure ()
    let engine : Engine := ⟨⟨0⟩, ⟨true, true⟩, none⟩
    let program : Program :=
      [.raw .null, .model ⟨text "call", .null, .null, .null, []⟩,
        .model ⟨text "call", .string (text "Main"), .null, .null, []⟩,
        .model ⟨text "call", .string (text "M.f"), .null, .null, []⟩,
        .model ⟨text "jump", .null, .null, .null, []⟩,
        .model ⟨text "jexit", .null, .null, .int 3, []⟩, .raw .null]
    let diagnostics : List Diagnostic :=
      [.malformed 0 (.notObject (text "NoneType")), .unnamedCall 1,
        .malformedReference (.string (text "Main")), .unknownModule (text "M"),
        .unknownInstruction (text "jump")]
    let below : List Warning :=
      [.malformed 0, .unnamedCall 1, .malformedReference 2 (.string (text "Main")),
        .unknownType 4 (text "jump")]
    engine.NativesReturn enter program {} ∧
      (∃ after, (engine.run enter program).perform {} =
        (.error (.exit (.int 3) (some (.exited 3 ⟨6, 0, diagnostics⟩))), after)) ∧
      (Summary.ofProgram program).warnings = below ++ [.malformed 6] ++ [.unreachable 1 5] ∧
      List.Forall₂ Warning.Echoes
        [text "Malformed instruction at 0: expected an instruction object, got NoneType",
          text "Call at 1 has no name", text "Malformed call reference: 'Main'",
          text "Unknown instruction: jump"] below := by
  intro enter engine program diagnostics below
  have natives : engine.NativesReturn enter program {} := nativesReturn_iff.mpr ⟨_, rfl⟩
  obtain ⟨result, after, ran, echoed, -⟩ :=
    warnings_mirror_diagnostics engine enter program {} natives
  rcases result with final | ⟨code, final⟩
  · cases ran
  · cases ran
    exact ⟨natives, ⟨_, rfl⟩, rfl, echoed⟩

end Engine

end Switchboard
