import Mathlib.Data.List.Forall2
import Switchboard.Proofs.Summary
import Switchboard.Proofs.Walk
import Switchboard.Proofs.Wire
import Switchboard.Session

/-!
# Interchangeable items

An engine and a summary read three things of an instruction: its type, the name of a call and
the code of an exit. `Item.Interchangeable` relates items that agree on these, or that are
rejected with one message; a program in which items are exchanged for interchangeable ones runs
as before and has the summary it had.
-/

namespace Switchboard

/-- Instructions of one type that call under one name, if they call, and exit with one code, if
they exit. -/
structure Instruction.Interchangeable (first second : Instruction) : Prop where
  kind : first.kind = second.kind
  name : first.isCall = true → first.name = second.name
  code : first.isExit = true → first.exitCode = second.exitCode

/-- Items that are rejected with one message, or accepted as interchangeable instructions. -/
inductive Item.Interchangeable (first second : Item) : Prop where
  | rejected {rejection other : Rejection} (here : first.accept = .error rejection)
      (there : second.accept = .error other) (message : rejection.message = other.message)
  | accepted {instruction other : Instruction} (here : first.accept = .ok instruction)
      (there : second.accept = .ok other) (same : instruction.Interchangeable other)

/-! ## What is read of an item -/

/-- A rejection is known by its message. -/
theorem Rejection.message_injective {first second : Rejection}
    (same : first.message = second.message) : first = second := by
  cases first with
  | notObject kind =>
    cases second with
    | notObject other =>
      have kinds : kind = other := List.append_cancel_left same
      rw [kinds]
    | unreadableKey | missingType | typeNotString => cases congrArg List.head? same
  | unreadableKey | missingType | typeNotString =>
    cases second with
    | notObject other => cases congrArg List.head? same
    | unreadableKey | missingType | typeNotString => revert same; decide +kernel

namespace Instruction.Interchangeable

variable {first second : Instruction} (same : first.Interchangeable second)

include same

theorem isCall_eq : first.isCall = second.isCall := by
  rw [isCall, isCall, same.kind]

theorem isExit_eq : first.isExit = second.isExit := by
  rw [isExit, isExit, same.kind]

/-- Interchangeable instructions ask the same of an engine. -/
theorem demand_eq : first.demand = second.demand := by
  unfold demand
  rw [← same.isCall_eq, ← same.isExit_eq]
  split
  · next isCall => rw [same.name isCall]
  · split
    · next isExit => rw [same.code isExit]
    · rw [same.kind]

end Instruction.Interchangeable

/-- Interchangeable items ask the same of an engine. -/
theorem Item.Interchangeable.demand_eq {first second : Item}
    (same : first.Interchangeable second) : first.demand = second.demand := by
  unfold demand
  cases same with
  | rejected here there message => simp only [here, there, Rejection.message_injective message]
  | accepted here there same => simp only [here, there, same.demand_eq]

/-- A summary takes the same from interchangeable items. -/
theorem Summary.addItem_interchangeable {first second : Item}
    (same : first.Interchangeable second) (summary : Summary) (index : Nat) :
    summary.addItem index first = summary.addItem index second := by
  unfold addItem
  cases same with
  | rejected here there => simp only [here, there]
  | accepted here there same =>
    simp only [here, there, addInstruction, Instruction.reference, same.kind, same.isCall_eq,
      same.isExit_eq]
    split
    · next isCall => rw [same.name (same.isCall_eq.trans isCall)]
    · rfl

/-! ## Exchanging items -/

section

variable {first second : Program} (same : List.Forall₂ Item.Interchangeable first second)

include same

/-- A walk over interchangeable items does the same at every item. -/
theorem Engine.perform_runFrom_interchangeable (engine : Engine) (enter : Enter) (index : Nat)
    (tally : Tally) (world : World) :
    (engine.runFrom enter index first tally).perform world =
      (engine.runFrom enter index second tally).perform world := by
  induction same generalizing index tally world with
  | nil => rfl
  | @cons item other rest others here _ inductionHypothesis =>
    have verdict : engine.verdict index item world = engine.verdict index other world := by
      rw [Engine.verdict, Engine.verdict, here.demand_eq]
    rw [Engine.perform_runFrom_cons, Engine.perform_runFrom_cons, verdict]
    rcases engine.carryOut enter (engine.verdict index other world) tally world with
      ⟨failure | (tally | _), after⟩
    · rfl
    · exact inductionHypothesis (index + 1) tally after
    · rfl

theorem Engine.perform_run_interchangeable (engine : Engine) (enter : Enter) (world : World) :
    (engine.run enter first).perform world = (engine.run enter second).perform world := by
  rw [Engine.perform_run, Engine.perform_run,
    Engine.perform_runFrom_interchangeable same engine enter 0 {} world]

theorem Summary.addItems_interchangeable (summary : Summary) (index : Nat) :
    summary.addItems index first = summary.addItems index second := by
  induction same generalizing summary index with
  | nil => rfl
  | cons here _ inductionHypothesis =>
    rw [addItems, addItems, Summary.addItem_interchangeable here, inductionHypothesis]

theorem Summary.ofProgram_interchangeable :
    Summary.ofProgram first = Summary.ofProgram second := by
  rw [ofProgram, ofProgram, Summary.addItems_interchangeable same, same.length_eq]

end

/-! ## Items that can be exchanged -/

/-- An item in its wire form, if it has one. -/
def Item.inWireForm (item : Item) : Item :=
  match item.accept with
  | .ok instruction => .raw instruction.toWire
  | .error _ => item

/-- A value, or an instruction that was read from one. -/
def Item.Genuine : Item → Prop
  | .raw _ => True
  | .model instruction => instruction.Genuine

namespace Item

theorem Genuine.of_accept {item : Item} {instruction : Instruction} (genuine : item.Genuine)
    (accepted : item.accept = .ok instruction) : instruction.Genuine := by
  cases item with
  | raw value => exact ⟨value, accepted⟩
  | model made =>
    cases accepted
    exact genuine

namespace Interchangeable

protected theorem refl (item : Item) : item.Interchangeable item := by
  cases read : item.accept with
  | error rejection => exact .rejected read read rfl
  | ok instruction => exact .accepted read read ⟨rfl, fun _ => rfl, fun _ => rfl⟩

/-- Objects with readable keys are interchangeable when they are of one type and have the same
name, if they call, and the same code, if they exit. Their order, their nulls and all other
fields do not matter. -/
theorem objects {fields others : Pairs Value} {kind : Text}
    (readable : Instruction.Readable fields) (readableToo : Instruction.Readable others)
    (typed : fields.get? (text "type") = some (.string kind))
    (typedToo : others.get? (text "type") = some (.string kind))
    (name : kind = text "call" →
      Value.fieldOrNull fields (text "name") = Value.fieldOrNull others (text "name"))
    (code : kind = text "jexit" →
      Value.fieldOrNull fields (text "code") = Value.fieldOrNull others (text "code")) :
    Item.Interchangeable (.raw (.object fields)) (.raw (.object others)) := by
  refine .accepted (Instruction.accept_object readable typed)
    (Instruction.accept_object readableToo typedToo) ⟨rfl, ?_, ?_⟩
  · intro isCall
    exact name (of_decide_eq_true isCall)
  · intro isExit
    have same := code (of_decide_eq_true isExit)
    simp only [Instruction.exitCode, same]

/-- Making an instruction of an item beforehand changes nothing. -/
theorem modelled (item : Item) : item.Interchangeable item.modelled := by
  unfold Item.modelled
  cases read : item.accept with
  | error rejection => exact .refl item
  | ok instruction => exact .accepted read rfl ⟨rfl, fun _ => rfl, fun _ => rfl⟩

/-- Neither does writing it out and reading it anew. -/
theorem inWireForm {item : Item} (genuine : item.Genuine) :
    item.Interchangeable item.inWireForm := by
  unfold Item.inWireForm
  cases read : item.accept with
  | error rejection => exact .refl item
  | ok instruction =>
    have readBack := Instruction.accept_toWire (genuine.of_accept read)
    exact .accepted read readBack ⟨rfl, fun _ => rfl, fun _ => rfl⟩

end Interchangeable

end Item

/-- Exchanging items for interchangeable ones cannot be observed: the summary stays, and every
run has the same outcome and leaves the same world with the same events. Objects of one type
are interchangeable whatever they have besides the name of a call and the code of an exit, and
every item is interchangeable with the instruction made of it and with its wire form. -/
theorem interchangeable_unobservable :
    (∀ first second : Program, List.Forall₂ Item.Interchangeable first second →
      Summary.ofProgram first = Summary.ofProgram second ∧
      ∀ (engine : Engine) (enter : Enter) (world : World),
        (engine.run enter first).perform world = (engine.run enter second).perform world) ∧
    (∀ (fields others : Pairs Value) (kind : Text),
      Instruction.Readable fields → Instruction.Readable others →
      fields.get? (text "type") = some (.string kind) →
      others.get? (text "type") = some (.string kind) →
      (kind = text "call" →
        Value.fieldOrNull fields (text "name") = Value.fieldOrNull others (text "name")) →
      (kind = text "jexit" →
        Value.fieldOrNull fields (text "code") = Value.fieldOrNull others (text "code")) →
      Item.Interchangeable (.raw (.object fields)) (.raw (.object others))) ∧
    ∀ item : Item, item.Interchangeable item.modelled ∧
      (item.Genuine → item.Interchangeable item.inWireForm) := by
  refine ⟨?_, ?_, ?_⟩
  · intro first second same
    exact ⟨Summary.ofProgram_interchangeable same, Engine.perform_run_interchangeable same⟩
  · intro fields others kind readable readableToo typed typedToo name code
    exact .objects readable readableToo typed typedToo name code
  · intro item
    exact ⟨.modelled item, .inWireForm⟩

/-- A call with stray fields in another order, a value that is no instruction, and two exits
that have no whole number for a code: one is a value, the other an instruction with a name. -/
theorem interchangeable_unobservable_strays :
    let call : Pairs Value :=
      [(text "type", .string (text "call")), (text "name", .string (text "M.f"))]
    let stray : Pairs Value :=
      [(text "args", .array [.int 1]), (text "name", .string (text "M.f")),
        (text "code", .int 5), (text "note", .null), (text "type", .string (text "call"))]
    let exit : Item :=
      .raw (.object [(text "type", .string (text "jexit")), (text "code", .string (text "3"))])
    let halt : Item := .model ⟨text "jexit", .string (text "M.f"), .null, .bool true, []⟩
    let world : World :=
      { exports := Store.empty.write ⟨0⟩ (Table.empty.put (text "M") ⟨0⟩)
        snapshots := Store.empty.write ⟨0⟩
          { functions := Table.empty.put (text "f") (some ⟨0, .say (text "in")⟩) } }
    let enter : Enter := Op.enterNative (Op.runBody ⟨⟨fun _ => .error .notFound⟩, ⟨[]⟩⟩ 1)
    let engine : Engine := ⟨⟨0⟩, ⟨false, false⟩, none⟩
    let first : Program := [.raw (.object call), .raw .null, exit]
    let second : Program := [.raw (.object stray), .raw .null, halt]
    List.Forall₂ Item.Interchangeable first second ∧
      Item.Interchangeable exit exit.inWireForm ∧
      Summary.ofProgram first = Summary.ofProgram second ∧
      (engine.run enter first).perform world = (engine.run enter second).perform world ∧
      ((engine.run enter second).perform world).1 =
        .error (.exit (.int 0) (some (.exited 0
          ⟨3, 1, [.malformed 1 (.notObject (text "NoneType"))]⟩))) := by
  intro call stray exit halt world enter engine first second
  obtain ⟨exchange, objects, items⟩ := interchangeable_unobservable
  have readable : Instruction.Readable call := by
    simp only [Instruction.Readable, call, List.forall_mem_cons]
    exact ⟨rfl, rfl, List.forall_mem_nil _⟩
  have readableToo : Instruction.Readable stray := by
    simp only [Instruction.Readable, stray, List.forall_mem_cons]
    exact ⟨rfl, rfl, rfl, rfl, rfl, List.forall_mem_nil _⟩
  have calls := objects call stray (text "call") readable readableToo rfl rfl (fun _ => rfl)
    (fun other => absurd other (by decide))
  have exits : Item.Interchangeable exit halt :=
    .accepted rfl rfl ⟨rfl, fun named => absurd named (by decide), fun _ => rfl⟩
  have same : List.Forall₂ Item.Interchangeable first second :=
    .cons calls (.cons (.refl _) (.cons exits .nil))
  obtain ⟨summary, runs⟩ := exchange first second same
  exact ⟨same, (items exit).2 trivial, summary, runs engine enter world, rfl⟩

end Switchboard
