import Mathlib.Algebra.BigOperators.Group.List.Lemmas
import Mathlib.Algebra.GroupWithZero.Nat
import Switchboard.Proofs.Dotted
import Switchboard.Proofs.Summary

/-!
# A summary is an inventory

What a summary says can be read off the items of a program without going through them in order:
the types and modules are those that occur, each once and in the order in which they first occur,
and every item that is questionable has one warning. `Item.type?`, `Item.calls?` and
`Item.warning?` say what there is to say of a single item; `Summary.is_inventory` puts the summary
together from them.
-/

namespace Switchboard

/-! ## What an item contributes -/

namespace Item

/-- The type of an item that is accepted. -/
def type? (item : Item) : Option Text :=
  match item.accept with
  | .error _ => none
  | .ok instruction => some instruction.kind

/-- The text before the first dot of what an accepted call names. -/
def calls? (item : Item) : Option Text :=
  match item.accept with
  | .error _ => none
  | .ok instruction =>
      match instruction.name with
      | .string name =>
          if instruction.kind = text "call" ∧ Reference.dot ∈ name then
            some (name.takeWhile (· ≠ Reference.dot))
          else none
      | _ => none

/-- The warning about an item at an index. There is none about a call of a name with a dot, nor
about an exit. -/
def warning? (index : Nat) (item : Item) : Option Warning :=
  match item.accept with
  | .error _ => some (.malformed index)
  | .ok instruction =>
      if instruction.kind = text "call" then
        match instruction.name with
        | .null => some (.unnamedCall index)
        | .string name =>
            if Reference.dot ∈ name then none
            else some (.malformedReference index (.string name))
        | other => some (.malformedReference index other)
      else if instruction.kind = text "jexit" then none
      else some (.unknownType index instruction.kind)

end Item

/-- Whether a warning says that an item is no instruction. -/
def Warning.isMalformed : Warning → Bool
  | .malformed _ => true
  | _ => false

namespace Item

theorem exit_ne_call : text "jexit" ≠ text "call" := by decide

/-- The warnings that the demand of an item gives rise to are the one warning about it. -/
theorem warnings_demand (item : Item) (index : Nat) :
    item.demand.warnings index = (item.warning? index).toList := by
  unfold demand warning?
  cases item.accept with
  | error rejection => rfl
  | ok instruction =>
    unfold Instruction.demand Instruction.isCall Instruction.isExit
    by_cases isCall : instruction.kind = text "call"
    · simp only [isCall, decide_true, if_true]
      cases instruction.name with
      | string name =>
        by_cases dotted : Reference.dot ∈ name
        · obtain ⟨function, parts⟩ := Reference.split_of_mem dotted
          simp only [parts, if_pos dotted]
          rfl
        · simp only [Reference.split_plain dotted, if_neg dotted]
          rfl
      | null | bool | int | float | array | object => rfl
    · by_cases isExit : instruction.kind = text "jexit"
      · simp only [isExit, exit_ne_call, decide_false, decide_true, if_true, if_false,
          Bool.false_eq_true]
        rfl
      · simp only [isCall, isExit, decide_false, if_false, Bool.false_eq_true]
        rfl

/-- An item ends a run exactly when it is accepted as an exit. -/
theorem exits_demand (item : Item) :
    item.demand.exits = true ↔ item.type? = some (text "jexit") := by
  unfold demand type?
  cases item.accept with
  | error rejection => exact iff_of_false Bool.false_ne_true nofun
  | ok instruction =>
    rw [Option.some_inj]
    unfold Instruction.demand Instruction.isCall Instruction.isExit
    by_cases isExit : instruction.kind = text "jexit"
    · simp [isExit, exit_ne_call, Demand.exits]
    · refine iff_of_false ?_ isExit
      simp only [isExit, decide_false, if_false, Bool.false_eq_true]
      split
      · split
        · exact Bool.false_ne_true
        · split <;> exact Bool.false_ne_true
        · exact Bool.false_ne_true
      · exact Bool.false_ne_true

/-- An instruction of another type calls nothing. -/
theorem calls?_model {instruction : Instruction} (other : instruction.kind ≠ text "call") :
    (model instruction).calls? = none := by
  unfold calls? accept
  dsimp only
  split
  · rw [if_neg fun both => other both.1]
  · rfl

end Item

/-! ## Types -/

/-- One more entry is listed unless it was listed before. -/
theorem eraseDups_concat (before : List Text) (entry : Text) :
    (before ++ [entry]).eraseDups =
      if entry ∈ before then before.eraseDups else before.eraseDups ++ [entry] := by
  rw [List.eraseDups_append]
  by_cases listed : entry ∈ before
  · simp [List.removeAll, listed]
  · simp [List.removeAll, listed, List.eraseDups_cons]

/-- Counts are determined by the keys and what is found under each. -/
theorem Pairs.eq_map_keys {pairs : Pairs Nat} (distinct : pairs.keys.Nodup) :
    pairs = pairs.keys.map fun key => (key, (pairs.get? key).getD 0) := by
  induction pairs with
  | nil => rfl
  | cons entry rest inductionHypothesis =>
    obtain ⟨name, value⟩ := entry
    obtain ⟨fresh, others⟩ := List.nodup_cons.mp distinct
    have behind : ∀ key ∈ keys rest, get? ((name, value) :: rest) key = get? rest key := by
      intro key listed
      rw [get?, if_neg]
      rintro rfl
      exact fresh listed
    have first : get? ((name, value) :: rest) name = some value := if_pos rfl
    have tail : rest =
        (keys rest).map fun key => (key, (get? ((name, value) :: rest) key).getD 0) := by
      refine (inductionHypothesis others).trans (List.map_congr_left fun key listed => ?_)
      rw [behind key listed]
    calc (name, value) :: rest
        = (name, (get? ((name, value) :: rest) name).getD 0) ::
            (keys rest).map fun key => (key, (get? ((name, value) :: rest) key).getD 0) := by
          rw [first, Option.getD_some, ← tail]

/-- A table counts how often each entry of a list occurs, in the order of first occurrence. -/
structure Table.Counts (table : Table Nat) (all : List Text) : Prop where
  keys : table.keys = all.eraseDups
  counts : ∀ entry, (table.get? entry).getD 0 = all.count entry

namespace Table.Counts

variable {table : Table Nat} {all : List Text}

theorem tally (counted : table.Counts all) (entry : Text) :
    (Summary.tally table entry).Counts (all ++ [entry]) where
  keys := by
    have put : (Summary.tally table entry).keys =
        if entry ∈ table.keys then table.keys else table.keys ++ [entry] :=
      Pairs.keys_put table.entries entry _
    rw [put, counted.keys, eraseDups_concat]
    simp only [List.mem_eraseDups]
  counts other := by
    rw [Summary.tally, Table.get?_put, List.count_append, counted.counts]
    by_cases same : entry = other
    · subst same
      rw [if_pos rfl, Option.getD_some, List.count_singleton_self]
    · rw [if_neg same, counted.counts, List.count_singleton, beq_false_of_ne same]
      rfl

theorem entries (counted : table.Counts all) :
    table.entries = all.eraseDups.map fun entry => (entry, all.count entry) := by
  calc table.entries
      = table.keys.map fun key => (key, (table.get? key).getD 0) :=
        Pairs.eq_map_keys table.distinct
    _ = all.eraseDups.map fun entry => (entry, all.count entry) := by
        simp only [counted.keys, counted.counts]

/-- The counts add up to the number of entries. -/
theorem sum_counts (counted : table.Counts all) :
    (table.entries.map Prod.snd).sum = all.length := by
  have distinct : all.eraseDups.Nodup := counted.keys ▸ table.distinct
  -- the library counts by decidable equality, and texts are counted point by point
  have counting : ∀ entry, @List.count Text instBEqOfDecidableEq entry all = all.count entry := by
    intro entry
    congr
    exact lawful_beq_subsingleton _ _
  have same : all.eraseDups.Perm all.dedup := by
    rw [List.perm_ext_iff_of_nodup distinct (List.nodup_dedup all)]
    intro entry
    rw [List.mem_eraseDups, List.mem_dedup]
  calc (table.entries.map Prod.snd).sum
      = (all.eraseDups.map fun entry => all.count entry).sum := by
        rw [counted.entries, List.map_map]
        rfl
    _ = (all.dedup.map fun entry => all.count entry).sum := (same.map _).sum_eq
    _ = all.length := by
        have total := List.sum_map_count_dedup_eq_length all
        simp only [counting] at total
        exact total

end Table.Counts

namespace Summary

variable {summary : Summary} {before : List Text}

/-- An accepted item is counted under its type. -/
theorem counts_addItem (counted : summary.types.Counts before) (index : Nat) (item : Item) :
    (summary.addItem index item).types.Counts (before ++ item.type?.toList) := by
  unfold addItem Item.type?
  cases item.accept with
  | error rejection =>
    rw [Option.toList_none, List.append_nil]
    exact counted
  | ok instruction =>
    rw [types_addInstruction]
    exact counted.tally instruction.kind

theorem counts_addItems (counted : summary.types.Counts before) (index : Nat)
    (program : Program) :
    (summary.addItems index program).types.Counts (before ++ program.filterMap Item.type?) := by
  induction program generalizing summary before index with
  | nil =>
    rw [List.filterMap_nil, List.append_nil]
    exact counted
  | cons item rest inductionHypothesis =>
    have others := inductionHypothesis (counts_addItem counted index item) (index + 1)
    rw [List.filterMap_eq_flatMap_toList, List.flatMap_cons, ← List.append_assoc,
      ← List.filterMap_eq_flatMap_toList]
    exact others

/-! ## Modules -/

/-- A module that an instruction calls is listed unless it was listed before. -/
theorem modules_addInstruction (listed : summary.modules = before.eraseDups) (index : Nat)
    (instruction : Instruction) :
    (summary.addInstruction index instruction).modules =
      (before ++ (Item.model instruction).calls?.toList).eraseDups := by
  unfold addInstruction Instruction.isCall Instruction.isExit Instruction.reference
  by_cases isCall : instruction.kind = text "call"
  · unfold Item.calls? Item.accept
    simp only [isCall, decide_true, if_true, true_and]
    cases instruction.name with
    | string name =>
      by_cases dotted : Reference.dot ∈ name
      · obtain ⟨function, parts⟩ := Reference.split_of_mem dotted
        simp only [parts, if_pos dotted, Option.toList_some, eraseDups_concat, listed,
          List.contains_iff_mem, List.mem_eraseDups]
        split <;> rfl
      · simpa [Reference.split_plain dotted, dotted, warn] using listed
    | null | bool | int | float | array | object => simpa [warn] using listed
  · rw [Item.calls?_model isCall, Option.toList_none, List.append_nil, ← listed]
    simp only [isCall, decide_false, Bool.false_eq_true, if_false]
    split <;> rfl

theorem modules_addItem (listed : summary.modules = before.eraseDups) (index : Nat)
    (item : Item) :
    (summary.addItem index item).modules = (before ++ item.calls?.toList).eraseDups := by
  unfold addItem Item.calls?
  cases accepted : item.accept with
  | error rejection => simpa [warn] using listed
  | ok instruction => exact modules_addInstruction listed index instruction

theorem modules_addItems (listed : summary.modules = before.eraseDups) (index : Nat)
    (program : Program) :
    (summary.addItems index program).modules =
      (before ++ program.filterMap Item.calls?).eraseDups := by
  induction program generalizing summary before index with
  | nil =>
    rw [List.filterMap_nil, List.append_nil]
    exact listed
  | cons item rest inductionHypothesis =>
    rw [List.filterMap_eq_flatMap_toList, List.flatMap_cons, ← List.append_assoc,
      ← List.filterMap_eq_flatMap_toList]
    exact inductionHypothesis (modules_addItem listed index item) (index + 1)

end Summary

/-! ## Exits and warnings -/

namespace Program

/-- No item ends a run exactly when none is accepted as an exit. -/
theorem firstExit?_eq_none_iff (program : Program) :
    program.firstExit? = none ↔ text "jexit" ∉ program.filterMap Item.type? := by
  rw [firstExit?, List.findIdx?_eq_none_iff, List.mem_filterMap]
  constructor
  · rintro stays ⟨item, member, exits⟩
    exact Bool.false_ne_true ((stays item member).symm.trans (item.exits_demand.mpr exits))
  · intro absent item member
    rw [Bool.eq_false_iff]
    intro exits
    exact absent ⟨item, member, item.exits_demand.mp exits⟩

/-- The first item that ends a run is the one with the least index among the accepted exits. -/
theorem firstExit?_eq_some_iff (program : Program) (index : Nat) :
    program.firstExit? = some index ↔
      program[index]?.bind Item.type? = some (text "jexit") ∧
        ∀ earlier < index, program[earlier]?.bind Item.type? ≠ some (text "jexit") := by
  have exitAt : ∀ (place : Nat) (inside : place < program.length),
      (program[place]).demand.exits = true ↔
        program[place]?.bind Item.type? = some (text "jexit") := by
    intro place inside
    rw [Item.exits_demand, List.getElem?_eq_getElem inside, Option.bind_some]
  rw [firstExit?, List.findIdx?_eq_some_iff_getElem]
  constructor
  · rintro ⟨inside, exits, least⟩
    refine ⟨(exitAt index inside).mp exits, ?_⟩
    intro earlier before exitsToo
    exact least earlier before ((exitAt earlier (by omega)).mpr exitsToo)
  · rintro ⟨exits, least⟩
    have inside : index < program.length := by
      by_contra outside
      rw [List.getElem?_eq_none (by omega), Option.bind_none] at exits
      cases exits
    refine ⟨inside, (exitAt index inside).mpr exits, ?_⟩
    intro earlier before exitsToo
    exact least earlier before ((exitAt earlier (by omega)).mp exitsToo)

/-- The warnings that items give rise to are those about the items, in order. -/
theorem warningsFrom_eq (index : Nat) (program : Program) :
    program.warningsFrom index =
      (program.zipIdx index).filterMap fun entry => entry.1.warning? entry.2 := by
  rw [warningsFrom, List.filterMap_eq_flatMap_toList]
  simp only [Item.warnings_demand]

/-- Every item is counted under its type, or a warning says that it is malformed. -/
theorem types_and_malformed (index : Nat) (program : Program) :
    (program.filterMap Item.type?).length +
        (program.warningsFrom index).countP Warning.isMalformed = program.length := by
  have single : ∀ (item : Item) (place : Nat), item.type?.toList.length +
      (item.demand.warnings place).countP Warning.isMalformed = 1 := by
    intro item place
    rw [Item.warnings_demand]
    unfold Item.type? Item.warning?
    cases item.accept with
    | error rejection => rfl
    | ok instruction =>
      dsimp only
      repeat' split
      all_goals rfl
  induction program generalizing index with
  | nil => rfl
  | cons item rest inductionHypothesis =>
    have first := single item index
    have others := inductionHypothesis (index + 1)
    rw [warningsFrom_cons, List.countP_append, List.filterMap_eq_flatMap_toList,
      List.flatMap_cons, List.length_append, ← List.filterMap_eq_flatMap_toList, List.length_cons]
    omega

end Program

namespace Summary

/-- A last warning stands behind the others exactly when items follow the first exit. -/
theorem trailing_eq (program : Program) :
    trailing program =
      match program.firstExit? with
      | none => []
      | some exit =>
          if exit < program.length - 1 then [.unreachable (program.length - 1 - exit) exit]
          else [] := by
  unfold trailing
  cases program.firstExit? with
  | none => rfl
  | some exit =>
    dsimp only
    have same : program.length - exit - 1 = program.length - 1 - exit := by omega
    by_cases last : exit < program.length - 1
    · rw [if_neg (by omega), if_pos last, same]
    · rw [if_pos (by omega), if_neg last]

/-- A summary is put together from what there is to say of the items one by one. It counts all of
them. The types are those of the accepted items in the order in which they first occur, each with
the number of its occurrences, and together with the warnings about malformed items they account
for every item. The exit is the least index of an accepted exit. The modules are those that
accepted calls name before a dot, also behind the exit, in the order in which they first occur. The
warnings are those about single items, in the order of the items, and one more when items stand
behind the exit. -/
theorem is_inventory (program : Program) :
    let summary := ofProgram program
    let kinds := program.filterMap Item.type?
    summary.count = program.length ∧
    summary.types.entries = kinds.eraseDups.map (fun kind => (kind, kinds.count kind)) ∧
    (summary.types.entries.map Prod.snd).sum + summary.warnings.countP Warning.isMalformed =
      program.length ∧
    (summary.exitsAt = none ↔ text "jexit" ∉ kinds) ∧
    (∀ index, summary.exitsAt = some index ↔
      program[index]?.bind Item.type? = some (text "jexit") ∧
        ∀ earlier < index, program[earlier]?.bind Item.type? ≠ some (text "jexit")) ∧
    summary.modules = (program.filterMap Item.calls?).eraseDups ∧
    summary.warnings =
      (program.zipIdx.filterMap fun entry => entry.1.warning? entry.2) ++
        match summary.exitsAt with
        | none => []
        | some exit =>
            if exit < program.length - 1 then [.unreachable (program.length - 1 - exit) exit]
            else [] := by
  intro summary kinds
  obtain ⟨count, exitsAt, warnings⟩ := ofProgram_demands program
  have counted : summary.types.Counts kinds := by
    have none : empty.types.Counts [] := ⟨rfl, fun _ => rfl⟩
    rw [show summary.types = _ from (ofProgram_lists program).1]
    exact counts_addItems none 0 program
  have malformed : summary.warnings.countP Warning.isMalformed =
      (program.warningsFrom 0).countP Warning.isMalformed := by
    have last : (trailing program).countP Warning.isMalformed = 0 := by
      rcases trailing_cases program with none | ⟨count, exit, single⟩
      · rw [none]
        rfl
      · rw [single]
        rfl
    rw [show summary.warnings = _ from warnings, List.countP_append, last, Nat.add_zero]
  refine ⟨count, counted.entries, ?_, ?_, ?_, ?_, ?_⟩
  · rw [counted.sum_counts, malformed]
    exact Program.types_and_malformed 0 program
  · rw [show summary.exitsAt = _ from exitsAt]
    exact program.firstExit?_eq_none_iff
  · intro index
    rw [show summary.exitsAt = _ from exitsAt]
    exact program.firstExit?_eq_some_iff index
  · have none : empty.modules = ([] : List Text).eraseDups := rfl
    rw [show summary.modules = _ from (ofProgram_lists program).2]
    exact modules_addItems none 0 program
  · rw [show summary.warnings = _ from warnings, show summary.exitsAt = _ from exitsAt,
      Program.warningsFrom_eq, trailing_eq]

/-- A program with every kind of item: a module that is called twice, once behind the exit, a
name that begins with a dot, and a second exit that does not count. -/
theorem is_inventory_mixed :
    let call (name : Value) : Item := .model ⟨text "call", name, .null, .null, []⟩
    let other (kind : Text) : Item := .raw (.object [(text "type", .string kind)])
    let program : Program :=
      [call (.string (text "N.f.g")), .raw .null, call (.string (text ".f")), call .null,
        other (text "jexit"), call (.string (text "M.g")), call (.string (text "N")),
        other (text "loop"), other (text "jexit"), call (.string (text "N.h")), call (.int 3)]
    let summary := ofProgram program
    summary.count = 11 ∧
      summary.types.entries = [(text "call", 7), (text "jexit", 2), (text "loop", 1)] ∧
      summary.exitsAt = some 4 ∧ summary.modules = [text "N", [], text "M"] ∧
      summary.warnings = [.malformed 1, .unnamedCall 3, .malformedReference 6 (.string (text "N")),
        .unknownType 7 (text "loop"), .malformedReference 10 (.int 3), .unreachable 6 4] := by
  intro call other program summary
  obtain ⟨count, types, -, -, exits, modules, warnings⟩ := is_inventory program
  have exitsAt : summary.exitsAt = some 4 := (exits 4).mpr ⟨rfl, by decide⟩
  refine ⟨count, types.trans rfl, exitsAt, modules.trans rfl, ?_⟩
  rw [show (ofProgram program).exitsAt = some 4 from exitsAt] at warnings
  exact warnings

end Summary

end Switchboard
