import Switchboard.Proofs.Verdict
import Switchboard.Summary

/-!
# What a summary is made of

A summary reads every item by itself, and what it takes from an item is determined by the
item's demand. The first exit and the warnings of a summary are therefore functions of the
demands in order: `Summary.exitsAt_ofProgram` and `Summary.warnings_ofProgram`.
-/

namespace Switchboard

/-- The place of the item that a warning is about. The items behind an exit have none. -/
def Warning.place? : Warning → Option Nat
  | .malformed index => some index
  | .unnamedCall index => some index
  | .malformedReference index _ => some index
  | .unknownType index _ => some index
  | .unreachable _ _ => none

namespace Demand

/-- Whether a run ends at an item with this demand. -/
def exits : Demand → Bool
  | .exit _ => true
  | _ => false

theorem exits_eq_false {demand : Demand} (stays : ∀ code, demand ≠ .exit code) :
    demand.exits = false := by
  cases demand with
  | exit code => exact absurd rfl (stays code)
  | rejected | unnamedCall | misnamedCall | call | unknown => rfl

/-- The warnings that an item with this demand gives rise to. -/
def warnings (index : Nat) : Demand → List Warning
  | .rejected _ => [.malformed index]
  | .unnamedCall => [.unnamedCall index]
  | .misnamedCall name => [.malformedReference index name]
  | .call _ _ => []
  | .exit _ => []
  | .unknown kind => [.unknownType index kind]

/-- The warnings of an item are about that item, and say so at their beginning. -/
theorem place_of_mem_warnings {demand : Demand} {index : Nat} {warning : Warning}
    (member : warning ∈ demand.warnings index) :
    warning.place? = some index ∧
      ∃ rest, warning.message = text "Instruction " ++ Decimal.ofNat index ++ rest := by
  cases demand with
  | call | exit => cases member
  | rejected | unnamedCall | misnamedCall | unknown =>
    cases List.mem_singleton.mp member
    simp [Warning.place?, Warning.message]

end Demand

namespace Program

/-- The index of the first item that ends a run. -/
def firstExit? (program : Program) : Option Nat :=
  program.findIdx? fun item => item.demand.exits

/-- The warnings that the items give rise to, the first of them standing at an index. -/
def warningsFrom (index : Nat) (program : Program) : List Warning :=
  (program.zipIdx index).flatMap fun entry => entry.1.demand.warnings entry.2

theorem firstExit?_cons (item : Item) (rest : Program) :
    firstExit? (item :: rest) =
      if item.demand.exits then some 0 else (firstExit? rest).map (· + 1) :=
  List.findIdx?_cons

@[simp] theorem warningsFrom_nil (index : Nat) : warningsFrom index [] = [] := rfl

@[simp] theorem warningsFrom_cons (index : Nat) (item : Item) (rest : Program) :
    warningsFrom index (item :: rest) =
      item.demand.warnings index ++ warningsFrom (index + 1) rest := by
  simp [warningsFrom, List.zipIdx_cons]

theorem warningsFrom_append (index : Nat) (first second : Program) :
    warningsFrom index (first ++ second) =
      warningsFrom index first ++ warningsFrom (index + first.length) second := by
  simp [warningsFrom, List.zipIdx_append]

/-- The warnings of the items are about places among the items. -/
theorem place_of_mem_warningsFrom {index : Nat} {program : Program} {warning : Warning}
    (member : warning ∈ program.warningsFrom index) :
    ∃ place, warning.place? = some place ∧ index ≤ place ∧ place < index + program.length ∧
      ∃ rest, warning.message = text "Instruction " ++ Decimal.ofNat place ++ rest := by
  obtain ⟨⟨item, place⟩, entry, warned⟩ := List.mem_flatMap.mp member
  obtain ⟨placed, message⟩ := Demand.place_of_mem_warnings warned
  obtain ⟨early, late, -⟩ := List.mem_zipIdx entry
  exact ⟨place, placed, early, late, message⟩

end Program

namespace Summary

/-! ## One item -/

/-- The exit and the warnings that an instruction adds to a summary follow from its demand. -/
theorem addInstruction_demand (summary : Summary) (index : Nat) (instruction : Instruction) :
    (summary.addInstruction index instruction).exitsAt =
        (summary.exitsAt <|> if instruction.demand.exits then some index else none) ∧
      (summary.addInstruction index instruction).warnings =
        summary.warnings ++ instruction.demand.warnings index := by
  unfold addInstruction Instruction.demand
  by_cases isCall : instruction.isCall = true
  · simp only [isCall, if_true, Instruction.reference]
    cases instruction.name with
    | null => simp [warn, Demand.exits, Demand.warnings]
    | string name =>
      rcases parts : Reference.split name with ⟨module, _ | function⟩
      · simp [parts, warn, Demand.exits, Demand.warnings]
      · by_cases listed : module ∈ summary.modules
        · simp [parts, listed, Demand.exits, Demand.warnings]
        · simp [parts, listed, Demand.exits, Demand.warnings]
    | bool | int | float | array | object => simp [warn, Demand.exits, Demand.warnings]
  · by_cases isExit : instruction.isExit = true
    · simp [isCall, isExit, Demand.exits, Demand.warnings]
    · simp [isCall, isExit, warn, Demand.exits, Demand.warnings]

/-- The exit and the warnings that an item adds to a summary follow from its demand. -/
theorem addItem_demand (summary : Summary) (index : Nat) (item : Item) :
    (summary.addItem index item).exitsAt =
        (summary.exitsAt <|> if item.demand.exits then some index else none) ∧
      (summary.addItem index item).warnings =
        summary.warnings ++ item.demand.warnings index := by
  unfold addItem Item.demand
  cases item.accept with
  | error rejection => simp [warn, Demand.exits, Demand.warnings]
  | ok instruction => exact summary.addInstruction_demand index instruction

theorem types_addInstruction (summary : Summary) (index : Nat) (instruction : Instruction) :
    (summary.addInstruction index instruction).types = tally summary.types instruction.kind := by
  unfold addInstruction
  dsimp only
  repeat' split
  all_goals rfl

/-! ## All items -/

/-- The first exit stands, wherever the summary of the items before it began. -/
theorem exitsAt_addItems (summary : Summary) (index : Nat) (program : Program) :
    (summary.addItems index program).exitsAt =
      (summary.exitsAt <|> program.firstExit?.map (index + ·)) := by
  induction program generalizing summary index with
  | nil => simp [addItems, Program.firstExit?]
  | cons item rest inductionHypothesis =>
    rw [addItems, inductionHypothesis, (summary.addItem_demand index item).1,
      Program.firstExit?_cons]
    by_cases exits : item.demand.exits = true
    · simp [exits]
    · have counted : ∀ position, index + 1 + position = index + (position + 1) := by
        intro position
        omega
      simp [exits, counted, Function.comp_def]

/-- Warnings are added in order, each under the index of its item. -/
theorem warnings_addItems (summary : Summary) (index : Nat) (program : Program) :
    (summary.addItems index program).warnings =
      summary.warnings ++ program.warningsFrom index := by
  induction program generalizing summary index with
  | nil => simp [addItems]
  | cons item rest inductionHypothesis =>
    rw [addItems, inductionHypothesis, (summary.addItem_demand index item).2]
    simp

/-! ## Whole programs -/

/-- The warning about the items that stand behind the first exit. -/
def trailing (program : Program) : List Warning :=
  match program.firstExit? with
  | none => []
  | some exit =>
      if program.length - exit - 1 = 0 then []
      else [.unreachable (program.length - exit - 1) exit]

/-- What a summary counts and lists is what its items add up to. -/
theorem ofProgram_lists (program : Program) :
    (ofProgram program).types = (empty.addItems 0 program).types ∧
      (ofProgram program).modules = (empty.addItems 0 program).modules := by
  unfold ofProgram
  dsimp only
  split
  · exact ⟨rfl, rfl⟩
  · split <;> exact ⟨rfl, rfl⟩

/-- A summary counts all items, names the first exit, and warns of the items in order and
then of those behind the exit. -/
theorem ofProgram_demands (program : Program) :
    (ofProgram program).count = program.length ∧
      (ofProgram program).exitsAt = program.firstExit? ∧
      (ofProgram program).warnings = program.warningsFrom 0 ++ trailing program := by
  have exitsAt : (empty.addItems 0 program).exitsAt = program.firstExit? := by
    simp [exitsAt_addItems, empty]
  have warnings : (empty.addItems 0 program).warnings = program.warningsFrom 0 := by
    simp [warnings_addItems, empty]
  unfold ofProgram trailing
  simp only [exitsAt]
  cases program.firstExit? with
  | none => simp [warnings]
  | some exit =>
    by_cases last : program.length - exit - 1 = 0
    · simp [last, warnings]
    · simp [last, warnings, warn]

theorem trailing_cases (program : Program) :
    trailing program = [] ∨ ∃ count exit, trailing program = [.unreachable count exit] := by
  unfold trailing
  split
  · exact .inl rfl
  · split
    · exact .inl rfl
    · exact .inr ⟨_, _, rfl⟩

/-- The warnings about the items before a place, about those from there on, and the last. -/
theorem warnings_parted (program : Program) {place : Nat} (inside : place ≤ program.length) :
    (ofProgram program).warnings =
      Program.warningsFrom 0 (program.take place) ++
        Program.warningsFrom place (program.drop place) ++ trailing program := by
  have parted := Program.warningsFrom_append 0 (program.take place) (program.drop place)
  rw [List.take_append_drop, List.length_take_of_le inside, Nat.zero_add] at parted
  rw [(ofProgram_demands program).2.2, parted]

/-- The warnings that are about a place before a given one come from the items before it. -/
theorem warnings_below (program : Program) {place : Nat} (inside : place ≤ program.length) :
    ((ofProgram program).warnings.filter fun warning => warning.place?.any (· < place)) =
      Program.warningsFrom 0 (program.take place) := by
  have early : ∀ warning ∈ Program.warningsFrom 0 (program.take place),
      warning.place?.any (· < place) = true := by
    intro warning member
    obtain ⟨found, placed, -, before, -⟩ := Program.place_of_mem_warningsFrom member
    rw [List.length_take_of_le inside] at before
    simpa [placed] using before
  have late : ∀ warning ∈ Program.warningsFrom place (program.drop place),
      ¬ warning.place?.any (· < place) = true := by
    intro warning member
    obtain ⟨found, placed, behind, -⟩ := Program.place_of_mem_warningsFrom member
    simpa [placed] using behind
  have last : (trailing program).filter (fun warning => warning.place?.any (· < place)) = [] := by
    rcases trailing_cases program with none | ⟨count, exit, single⟩
    · rw [none]
      rfl
    · rw [single]
      rfl
  rw [warnings_parted program inside, List.filter_append, List.filter_append,
    List.filter_eq_self.mpr early, List.filter_eq_nil_iff.mpr late, last, List.append_nil,
    List.append_nil]

end Summary

end Switchboard
