import Mathlib
import Switchboard.Proofs.JsonMode
import Switchboard.Proofs.Loading
import Switchboard.Proofs.Reach
import Switchboard.Proofs.Rendering
import Switchboard.Proofs.Wire

/-!
# Documents give back what they were printed from

A file that holds a written program loads as that program. What a summary and a report say of a
program of plain data is plain again (`Summary.plain_toValue`, `RunResult.plain_report`): their
texts are taken from the program or made of scalars, and no count of theirs exceeds the number of
its items. So the documents that the command line prints of them are read back.
-/

namespace Switchboard

/-! ## Texts without surrogates -/

@[simp] theorem CodePoint.isSurrogate_scalar (value : Char) :
    (CodePoint.scalar value).isSurrogate = false := rfl

namespace Text

@[simp] theorem hasSurrogate_nil : hasSurrogate [] = false := rfl

@[simp] theorem hasSurrogate_cons (point : CodePoint) (rest : Text) :
    hasSurrogate (point :: rest) = (point.isSurrogate || rest.hasSurrogate) := rfl

@[simp] theorem hasSurrogate_append (first second : Text) :
    hasSurrogate (first ++ second) = (first.hasSurrogate || second.hasSurrogate) :=
  List.any_append

@[simp] theorem hasSurrogate_ofChars (characters : List Char) :
    hasSurrogate (ofChars characters) = false := by
  simp [hasSurrogate, ofChars]

@[simp] theorem hasSurrogate_text (literal : String) : hasSurrogate (text literal) = false :=
  hasSurrogate_ofChars literal.toList

@[simp] theorem hasSurrogate_ofNat (number : Nat) : hasSurrogate (Decimal.ofNat number) = false :=
  hasSurrogate_ofChars _

@[simp] theorem hasSurrogate_ofInt (number : Int) : hasSurrogate (Decimal.ofInt number) = false := by
  cases number <;> simp [Decimal.ofInt]

@[simp] theorem hasSurrogate_digits (width number : Nat) :
    hasSurrogate (Hex.digits width number) = false := by
  induction width generalizing number with
  | zero => rfl
  | succ width inductionHypothesis =>
    simp [Hex.digits, inductionHypothesis]

theorem hasSurrogate_eq_false_iff {source : Text} :
    source.hasSurrogate = false ↔ ∀ point ∈ source, point.isSurrogate = false := by
  simp [hasSurrogate]

theorem hasSurrogate_quotePoint (mark : CodePoint) {point : CodePoint}
    (scalar : point.isSurrogate = false) : hasSurrogate (quotePoint mark point) = false := by
  unfold quotePoint
  repeat' split
  all_goals simp [scalar]

/-- Quoting brings in no surrogates. -/
theorem hasSurrogate_quoted {source : Text} (scalars : source.hasSurrogate = false) :
    source.quoted.hasSurrogate = false := by
  rw [hasSurrogate_eq_false_iff] at scalars
  have body : hasSurrogate (source.flatMap (quotePoint source.quoteMark)) = false := by
    rw [hasSurrogate, List.any_flatMap, List.any_eq_false]
    intro point member
    exact Bool.eq_false_iff.mp (hasSurrogate_quotePoint source.quoteMark (scalars point member))
  have mark : source.quoteMark.isSurrogate = false := by
    unfold quoteMark
    split <;> rfl
  simp [quoted, body, mark]

theorem hasSurrogate_join {separator : Text} {texts : List Text}
    (separating : separator.hasSurrogate = false)
    (each : ∀ joined ∈ texts, joined.hasSurrogate = false) :
    hasSurrogate (join separator texts) = false := by
  rw [hasSurrogate_eq_false_iff] at separating ⊢
  intro point member
  rcases mem_of_mem_join member with inside | ⟨joined, listed, inside⟩
  · exact separating point inside
  · exact hasSurrogate_eq_false_iff.mp (each joined listed) point inside

/-- What comes before the first dot, and what comes before the second, has no surrogates. -/
theorem hasSurrogate_split {name : Text} (scalars : name.hasSurrogate = false) :
    (Reference.split name).1.hasSurrogate = false ∧
      ∀ function, (Reference.split name).2 = some function → function.hasSurrogate = false := by
  rw [hasSurrogate_eq_false_iff] at scalars
  refine ⟨?_, fun function found => ?_⟩
  · rw [hasSurrogate_eq_false_iff]
    exact fun point member => scalars point ((List.takeWhile_sublist _).subset member)
  · obtain ⟨rest, dotted, rfl⟩ := Option.map_eq_some_iff.mp found
    unfold Reference.afterDot? at dotted
    split at dotted
    · cases dotted
    · next dot behind dropped =>
      cases dotted
      rw [hasSurrogate_eq_false_iff]
      intro point member
      have inside : point ∈ name.dropWhile (· ≠ Reference.dot) := by
        rw [dropped]
        exact .tail _ ((List.takeWhile_sublist _).subset member)
      exact scalars point ((List.dropWhile_sublist _).subset inside)

end Text

namespace Value

theorem describeItems_eq_map (items : List Value) : describeItems items = items.map describe := by
  induction items with
  | nil => rfl
  | cons item rest inductionHypothesis => rw [describeItems, inductionHypothesis, List.map_cons]

theorem describeFields_eq_map (fields : List (Text × Value)) :
    describeFields fields =
      fields.map fun field => field.1.quoted ++ text ": " ++ field.2.describe := by
  induction fields with
  | nil => rfl
  | cons field rest inductionHypothesis => rw [describeFields, inductionHypothesis, List.map_cons]

/-- Plain data is described without surrogates. -/
theorem Plain.hasSurrogate_describe {value : Value} (plain : value.Plain) :
    value.describe.hasSurrogate = false := by
  induction plain with
  | null => rfl
  | bool flag => cases flag <;> rfl
  | int => exact Text.hasSurrogate_ofInt _
  | string scalars => exact Text.hasSurrogate_quoted scalars
  | @array items _ inductionHypothesis =>
    have joined : Text.hasSurrogate (Text.join (text ", ") (describeItems items)) = false := by
      refine Text.hasSurrogate_join (by simp) fun joined member => ?_
      rw [describeItems_eq_map] at member
      obtain ⟨item, listed, rfl⟩ := List.mem_map.mp member
      exact inductionHypothesis item listed
    simp [describe, joined]
  | @object fields distinct named _ inductionHypothesis =>
    have joined : Text.hasSurrogate (Text.join (text ", ") (describeFields fields)) = false := by
      refine Text.hasSurrogate_join (by simp) fun joined member => ?_
      rw [describeFields_eq_map] at member
      obtain ⟨field, listed, rfl⟩ := List.mem_map.mp member
      simp [Text.hasSurrogate_quoted (named field listed), inductionHypothesis field listed]
    simp [describe, joined]

end Value

/-! ## Demands of plain items -/

namespace Pairs

variable {α : Type}

theorem mem_of_get? {pairs : Pairs α} {key : Text} {value : α}
    (found : pairs.get? key = some value) : (key, value) ∈ pairs := by
  induction pairs with
  | nil => cases found
  | cons entry rest inductionHypothesis =>
    rw [get?] at found
    split at found
    · next same =>
      cases found
      cases same
      exact .head _
    · exact .tail _ (inductionHypothesis found)

theorem mem_of_mem_put {pairs : Pairs α} {key : Text} {value : α} {entry : Text × α}
    (member : entry ∈ pairs.put key value) : entry = (key, value) ∨ entry ∈ pairs := by
  induction pairs with
  | nil => exact .inl (List.mem_singleton.mp member)
  | cons other rest inductionHypothesis =>
    rw [put] at member
    split at member
    · next same =>
      rcases List.mem_cons.mp member with rfl | member
      · exact .inl (by rw [same])
      · exact .inr (.tail _ member)
    · rcases List.mem_cons.mp member with rfl | member
      · exact .inr (.head _)
      · exact (inductionHypothesis member).imp_right (.tail _)

end Pairs

/-- A field of plain data is plain, also when it is absent. -/
theorem Value.Plain.fieldOrNull {fields : Pairs Value} (plain : (Value.object fields).Plain)
    (key : Text) : (Value.fieldOrNull fields key).Plain := by
  cases plain with
  | object distinct named each =>
    unfold Value.fieldOrNull
    cases found : fields.get? key with
    | none => exact .null
    | some value => exact each _ (Pairs.mem_of_get? found)

/-- An instruction whose fields are plain. -/
structure Instruction.Plain (instruction : Instruction) : Prop where
  kind : instruction.kind.hasSurrogate = false
  name : instruction.name.Plain
  code : instruction.code.Plain

theorem Instruction.plain_of_accept {value : Value} {instruction : Instruction}
    (plain : value.Plain) (accepted : accept value = .ok instruction) : instruction.Plain := by
  obtain ⟨fields, kind, rfl, readable, typed⟩ := eq_object_of_accept accepted
  rw [accept_object readable typed] at accepted
  cases accepted
  refine ⟨?_, plain.fieldOrNull _, plain.fieldOrNull _⟩
  have typedPlain := plain.fieldOrNull (text "type")
  rw [Value.fieldOrNull, typed] at typedPlain
  cases typedPlain with
  | string scalars => exact scalars

/-- A demand that can be told in plain data. -/
def Demand.Plain : Demand → Prop
  | .rejected rejection => rejection.message.hasSurrogate = false
  | .unnamedCall => True
  | .misnamedCall name => name.Plain
  | .call module function => module.hasSurrogate = false ∧ function.hasSurrogate = false
  | .exit code => (Value.int code).Plain
  | .unknown kind => kind.hasSurrogate = false

theorem Instruction.Plain.exitCode {instruction : Instruction} (plain : instruction.Plain) :
    (Value.int instruction.exitCode).Plain := by
  have code := plain.code
  unfold Instruction.exitCode
  split
  · next number coded => exact coded ▸ code
  · exact .int (by decide)

theorem Instruction.Plain.demand {instruction : Instruction} (plain : instruction.Plain) :
    instruction.demand.Plain := by
  have name := plain.name
  unfold Instruction.demand
  split
  · split
    · trivial
    · next named =>
      rw [named] at name
      cases name with
      | string scalars =>
        obtain ⟨module, function⟩ := Text.hasSurrogate_split scalars
        split
        · exact .string scalars
        · next parts =>
          rw [parts] at module function
          exact ⟨module, function _ rfl⟩
    · exact name
  · split
    · exact plain.exitCode
    · exact plain.kind

theorem Rejection.hasSurrogate_message {value : Value} {rejection : Rejection}
    (rejected : Instruction.accept value = .error rejection) :
    rejection.message.hasSurrogate = false := by
  unfold Instruction.accept at rejected
  split at rejected
  · split at rejected
    · cases rejected
      rfl
    · split at rejected <;> cases rejected <;> rfl
  · cases rejected
    cases value <;> rfl

/-- An item of plain data. -/
def Item.Plain : Item → Prop
  | .raw value => value.Plain
  | .model instruction => instruction.Plain

theorem Item.Plain.accept {item : Item} (plain : item.Plain) {instruction : Instruction}
    (accepted : item.accept = .ok instruction) : instruction.Plain := by
  cases item with
  | raw value => exact Instruction.plain_of_accept plain accepted
  | model =>
    cases accepted
    exact plain

/-- Plain items demand nothing that is not plain. -/
theorem Item.Plain.demand {item : Item} (plain : item.Plain) : item.demand.Plain := by
  unfold Item.demand
  split
  · next rejection rejected =>
    cases item with
    | raw value => exact Rejection.hasSurrogate_message rejected
    | model => cases rejected
  · next accepted => exact (plain.accept accepted).demand

theorem Program.plain_ofValues {items : List Value} (plain : ∀ item ∈ items, item.Plain) :
    ∀ item ∈ Program.ofValues items, item.Plain := by
  intro item member
  obtain ⟨value, listed, rfl⟩ := List.mem_map.mp member
  exact plain value listed

/-! ## Counts -/

/-- A smaller number has no more digits. -/
theorem Decimal.length_ofNat_le {small large : Nat} (least : small ≤ large) :
    (ofNat small).length ≤ (ofNat large).length := by
  have positive : 0 < (Nat.toDigits 10 large).length :=
    List.length_pos_iff.mpr Nat.toDigits_ne_nil
  have bounded := (Nat.length_toDigits_le_iff (by decide) positive).mp le_rfl
  simp only [ofNat, Text.ofChars, List.length_map]
  exact (Nat.length_toDigits_le_iff (by decide) positive).mpr (Nat.lt_of_le_of_lt least bounded)

/-- A number up to one that can be written can be written. -/
theorem Value.plain_count {number bound : Nat} (least : number ≤ bound)
    (short : (Decimal.ofNat bound).length ≤ Json.maxIntegerDigits) :
    (Value.int number).Plain :=
  .int ((Decimal.length_ofNat_le least).trans short)

/-- Texts without surrogates are plain. -/
theorem Value.plain_strings {texts : List Text}
    (scalars : ∀ content ∈ texts, content.hasSurrogate = false) :
    (Value.array (texts.map .string)).Plain := by
  refine .array fun item member => ?_
  obtain ⟨content, listed, rfl⟩ := List.mem_map.mp member
  exact .string (scalars content listed)

/-! ## Summaries -/

theorem Demand.Plain.hasSurrogate_warnings {demand : Demand} (plain : demand.Plain) {index : Nat}
    {warning : Warning} (member : warning ∈ demand.warnings index) :
    warning.message.hasSurrogate = false := by
  cases demand with
  | call | exit => cases member
  | rejected | unnamedCall =>
    cases List.mem_singleton.mp member
    simp [Warning.message]
  | misnamedCall name =>
    cases List.mem_singleton.mp member
    simp [Warning.message, Value.Plain.hasSurrogate_describe plain]
  | unknown kind =>
    cases List.mem_singleton.mp member
    simp [Warning.message, Text.hasSurrogate_quoted plain]

namespace Summary

variable {summary : Summary} {program : Program} {bound : Nat}

/-- Types are counted under plain names, none more often than a bound. -/
def TypesWithin (summary : Summary) (bound : Nat) : Prop :=
  ∀ entry ∈ summary.types.entries, entry.1.hasSurrogate = false ∧ entry.2 ≤ bound

theorem TypesWithin.tally (within : summary.TypesWithin bound) {kind : Text}
    (scalars : kind.hasSurrogate = false) {entry : Text × Nat}
    (member : entry ∈ (tally summary.types kind).entries) :
    entry.1.hasSurrogate = false ∧ entry.2 ≤ bound + 1 := by
  rcases Pairs.mem_of_mem_put member with rfl | old
  · refine ⟨scalars, ?_⟩
    cases found : summary.types.get? kind with
    | none => simp
    | some count =>
      have counted := (within _ (Pairs.mem_of_get? found)).2
      simpa using counted
  · exact ⟨(within entry old).1, (within entry old).2.trans (Nat.le_succ bound)⟩

/-- One more item is counted at most once. -/
theorem TypesWithin.addItem (within : summary.TypesWithin bound) {item : Item}
    (plain : item.Plain) (index : Nat) : (summary.addItem index item).TypesWithin (bound + 1) := by
  intro entry member
  unfold Summary.addItem at member
  split at member
  · exact ⟨(within entry member).1, (within entry member).2.trans (Nat.le_succ bound)⟩
  · next accepted =>
    rw [types_addInstruction] at member
    exact within.tally (plain.accept accepted).kind member

theorem TypesWithin.addItems (within : summary.TypesWithin bound)
    (plain : ∀ item ∈ program, item.Plain) (index : Nat) :
    (summary.addItems index program).TypesWithin (bound + program.length) := by
  induction program generalizing summary bound index with
  | nil => exact within
  | cons item rest inductionHypothesis =>
    have others := inductionHypothesis (within.addItem (plain item (by simp)) index)
      (fun other member => plain other (.tail _ member)) (index + 1)
    rw [List.length_cons, Nat.add_comm rest.length, ← Nat.add_assoc]
    exact others

theorem typesWithin_ofProgram (plain : ∀ item ∈ program, item.Plain) :
    (ofProgram program).TypesWithin program.length := by
  have none : empty.TypesWithin 0 := nofun
  have within := none.addItems plain 0
  rw [Nat.zero_add] at within
  rw [TypesWithin, (ofProgram_lists program).1]
  exact within

theorem hasSurrogate_warnings (plain : ∀ item ∈ program, item.Plain) {warning : Warning}
    (member : warning ∈ (ofProgram program).warnings) : warning.message.hasSurrogate = false := by
  rw [(ofProgram_demands program).2.2] at member
  rcases List.mem_append.mp member with warned | trailing
  · obtain ⟨⟨item, place⟩, entry, warned⟩ := List.mem_flatMap.mp warned
    have listed : item ∈ program := by
      obtain ⟨-, -, found⟩ := List.mem_zipIdx entry
      rw [found]
      exact List.getElem_mem _
    exact (plain item listed).demand.hasSurrogate_warnings warned
  · rcases trailing_cases program with none | ⟨count, exit, single⟩
    · rw [none] at trailing
      cases trailing
    · rw [single] at trailing
      cases List.mem_singleton.mp trailing
      simp [Warning.message]

theorem hasSurrogate_modules (plain : ∀ item ∈ program, item.Plain) {module : Text}
    (member : module ∈ (ofProgram program).modules) : module.hasSurrogate = false := by
  obtain ⟨item, listed, called⟩ := (mem_modules_iff program module).mp member
  have demanded := (plain item listed).demand
  cases demand : item.demand with
  | call =>
    rw [demand] at called demanded
    cases called
    exact demanded.1
  | rejected | unnamedCall | misnamedCall | exit | unknown =>
    rw [demand] at called
    cases called

/-- The summary of plain items is plain. -/
theorem plain_toValue (plain : ∀ item ∈ program, item.Plain)
    (short : (Decimal.ofNat program.length).length ≤ Json.maxIntegerDigits) :
    (ofProgram program).toValue.Plain := by
  obtain ⟨count, exitsAt, -⟩ := ofProgram_demands program
  have types : (Value.object (ofProgram program).typeFields).Plain := by
    have within := typesWithin_ofProgram plain
    refine .object ?_ ?_ ?_
    · have distinct := (ofProgram program).types.distinct
      simpa [typeFields, Pairs.keys, Function.comp_def] using distinct
    · intro field member
      obtain ⟨entry, listed, rfl⟩ := List.mem_map.mp member
      exact (within entry listed).1
    · intro field member
      obtain ⟨entry, listed, rfl⟩ := List.mem_map.mp member
      exact Value.plain_count (within entry listed).2 short
  have exit : (((ofProgram program).exitsAt.map countValue).getD .null).Plain := by
    rw [exitsAt]
    cases first : program.firstExit? with
    | none => exact .null
    | some place =>
      obtain ⟨inside, -⟩ := List.findIdx?_eq_some_iff_getElem.mp first
      exact Value.plain_count inside.le short
  have warnings : (Value.array ((ofProgram program).warnings.map fun warning =>
      .string warning.message)).Plain := by
    refine .array fun item member => ?_
    obtain ⟨warning, listed, rfl⟩ := List.mem_map.mp member
    exact .string (hasSurrogate_warnings plain listed)
  have distinct : [text "instruction_count", text "instruction_types", text "modules",
      text "exits_at", text "warnings"].Nodup := by decide
  refine .object distinct ?_ ?_
  · simp
  · intro field member
    simp only [List.mem_cons, List.not_mem_nil, or_false] at member
    rcases member with rfl | rfl | rfl | rfl | rfl
    · exact Value.plain_count count.le short
    · exact types
    · exact Value.plain_strings fun module => hasSurrogate_modules plain
    · exact exit
    · exact warnings

end Summary

/-! ## Reports -/

namespace Engine

theorem hasSurrogate_callVerdict (engine : Engine) (world : World) {module function : Text}
    (scalars : module.hasSurrogate = false) (scalarsToo : function.hasSurrogate = false)
    {diagnostic : Diagnostic}
    (member : diagnostic ∈ (engine.callVerdict module function world).diagnostics) :
    diagnostic.message.hasSurrogate = false := by
  unfold callVerdict at member
  split at member
  · split at member
    · cases List.mem_singleton.mp member
      simp [Diagnostic.message, scalars]
    · cases member
  · split at member
    · cases List.mem_singleton.mp member
      simp [Diagnostic.message, scalarsToo]
    · cases member

/-- The diagnostics of plain items have no surrogates. -/
theorem hasSurrogate_verdict (engine : Engine) (index : Nat) {item : Item} (world : World)
    (plain : item.Plain) {diagnostic : Diagnostic}
    (member : diagnostic ∈ (engine.verdict index item world).diagnostics) :
    diagnostic.message.hasSurrogate = false := by
  have demanded := plain.demand
  unfold verdict at member
  generalize item.demand = demand at member demanded
  cases demand with
  | rejected rejection =>
    cases List.mem_singleton.mp member
    have scalars : _ = false := demanded
    simp [Diagnostic.message, scalars]
  | unnamedCall =>
    cases List.mem_singleton.mp member
    simp [Diagnostic.message]
  | misnamedCall name =>
    cases List.mem_singleton.mp member
    simp [Diagnostic.message, Value.Plain.hasSurrogate_describe demanded]
  | call module function => exact engine.hasSurrogate_callVerdict world demanded.1 demanded.2 member
  | exit => cases member
  | unknown kind =>
    cases List.mem_singleton.mp member
    have scalars : _ = false := demanded
    simp [Diagnostic.message, scalars]

end Engine

/-- A tally that can be told in plain data, with no count above a bound. -/
structure Tally.Within (tally : Tally) (bound : Nat) : Prop where
  executed : tally.executed ≤ bound
  calls : tally.calls ≤ bound
  diagnostics : ∀ diagnostic ∈ tally.diagnostics, diagnostic.message.hasSurrogate = false

namespace Engine

variable {engine : Engine} {enter : Enter} {index bound : Nat} {item : Item} {program : Program}
  {tally : Tally} {world after : World} {visits : List Visit}
  {outcome : Except Failure RunResult} {verdict : Verdict}

/-- One more item adds at most one to each count. -/
theorem within_count (within : tally.Within bound) (plain : item.Plain)
    (reached : engine.verdict index item world = verdict) :
    (tally.count verdict).Within (bound + 1) where
  executed := Nat.succ_le_succ within.executed
  calls := by
    have single : verdict.calls ≤ 1 := by cases verdict <;> simp [Verdict.calls]
    exact Nat.add_le_add within.calls single
  diagnostics := by
    intro diagnostic member
    rcases List.mem_append.mp member with old | new
    · exact within.diagnostics diagnostic old
    · rw [← reached] at new
      exact engine.hasSurrogate_verdict index world plain new

/-- What a run over plain items comes to by itself is plain. -/
theorem Walk.within (walk : engine.Walk enter index program tally world visits outcome after)
    {result : RunResult} (ended : outcome = .ok result) (plain : ∀ item ∈ program, item.Plain)
    (within : tally.Within bound) :
    result.tally.Within (bound + program.length) ∧
      ∀ code, result.exitCode = some code → (Value.int code).Plain := by
  -- every item moves the bound on by one, so that it ends at the length of the program
  induction walk generalizing bound with
  | finished =>
    cases ended
    exact ⟨within, nofun⟩
  | @exited index item rest tally world code reached =>
    cases ended
    have counted := within_count within (plain item (by simp)) reached
    have demanded := (plain item (by simp)).demand
    rw [(engine.verdict_eq_exited_iff index item world code).mp reached] at demanded
    refine ⟨⟨?_, ?_, counted.diagnostics⟩, ?_⟩
    · exact counted.executed.trans (by simp)
    · exact counted.calls.trans (by simp)
    · rintro _ ⟨⟩
      exact demanded
  | failed => cases ended
  | @entered index item rest _ _ _ _ _ _ _ reached _ _ inductionHypothesis
  | @passed index item rest _ _ _ _ _ _ reached _ _ inductionHypothesis =>
    have counted := within_count within (plain item (by simp)) reached
    have later := inductionHypothesis ended (fun other member => plain other (.tail _ member))
      counted
    rw [List.length_cons, Nat.add_comm rest.length, ← Nat.add_assoc]
    exact later

end Engine

/-- The report of a plain result is plain. -/
theorem RunResult.plain_report {result : RunResult} {bound : Nat}
    (within : result.tally.Within bound)
    (coded : ∀ code, result.exitCode = some code → (Value.int code).Plain)
    (short : (Decimal.ofNat bound).length ≤ Json.maxIntegerDigits) :
    result.report.toValue.Plain := by
  have exit : ((result.exitCode.map Value.int).getD .null).Plain := by
    cases ended : result.exitCode with
    | none => exact .null
    | some code => exact coded code ended
  have state : result.state.name.hasSurrogate = false := by cases result <;> rfl
  have distinct : [text "state", text "executed", text "calls", text "diagnostics",
      text "exit_code"].Nodup := by decide
  refine .object distinct ?_ ?_
  · simp
  · intro field member
    simp only [List.mem_cons, List.not_mem_nil, or_false] at member
    rcases member with rfl | rfl | rfl | rfl | rfl
    · exact .string state
    · exact Value.plain_count within.executed short
    · exact Value.plain_count within.calls short
    · refine Value.plain_strings fun content member => ?_
      obtain ⟨diagnostic, listed, rfl⟩ := List.mem_map.mp member
      exact within.diagnostics diagnostic listed
    · exact exit

/-! ## Printed documents -/

/-- A document that was printed on a line of its own is read back. -/
theorem Json.read_line {value : Value} (plain : value.Plain) :
    Json.read (Json.write value ++ [newline]) = .ok value := by
  refine Json.read_write plain fun point member => ?_
  rw [List.mem_singleton.mp member]
  rfl

/-- A file that holds a written program loads as that program. -/
theorem Program.load_written {files : FileSystem} {path : Text} {items : List Value}
    (plain : ∀ item ∈ items, item.Plain)
    (written : files.readFile (Path.normalize path) =
      .ok (Text.Utf8.encode (Json.write (.array items)))) :
    load files path = .ok items := by
  have steady := Json.steady_writeValue (.array plain) 0
  have folded : (Json.write (.array items)).foldNewlines = Json.write (.array items) :=
    Json.foldNewlines_steady steady
  have document : Json.Document (Json.write (.array items)) (.array items) :=
    Json.document_of_read (by simpa using Json.read_write (.array plain) Json.blanks_nil)
  exact load_eq_ok_iff.mpr
    ⟨_, Json.hasSurrogate_steady steady, written, folded.symm ▸ document⟩

namespace CommandLine

section

variable {around : Surroundings} {path : Text} {items : List Value} {arguments : List Text}

/-- In JSON mode an inspection prints the summary and nothing else. -/
theorem execute_inspect_json {verbose : Bool}
    (loaded : Program.load around.files path = .ok items)
    (asked : callOf around.files arguments = .ok ⟨.inspect path true, verbose⟩) :
    (execute around arguments).status = .int 0 ∧
      (execute around arguments).stdout =
        Json.write (Summary.ofProgram (.ofValues items)).toValue ++ [newline] := by
  have carried : (carryOut around (.inspect path true)).perform {} =
      (.ok .done, World.record {} [.wrote .stdout
        (Json.write (Summary.ofProgram (.ofValues items)).toValue ++ [newline])]) := by
    rw [carryOut, withProgram, loaded]
    rfl
  rw [execute, asked]
  dsimp only
  rw [carried]
  refine ⟨rfl, ?_⟩
  simp [outcomeOf, Event.written, World.record]

/-- In JSON mode a run that comes to a result prints the report of it last. -/
theorem events_run_json {flags : RunFlags} {plugins : List Text} {loaded : World}
    (json : flags.json = true) (readable : Program.load around.files path = .ok items)
    (asked : callOf around.files arguments = .ok (flags.call path plugins))
    (loads : Loads around runHost plugins flags.opening loaded) :
    let ran := (Op.runProgram (around.enter Op.maxDepth) runHost (.ofValues items)).perform loaded
    ∀ result, resultOf ran.1 = some result →
      (execute around arguments).events =
        ran.2.trace ++ [.wrote .stdout (Json.write result.report.toValue ++ [newline])] := by
  intro ran result came
  have through := perform_carryOut_running readable loads
  rw [execute_run asked, through, events_outcomeOf, World.record_trace, json, documents,
    if_pos rfl, came]
  rfl

/-- A run whose functions return comes to a result of its own, and over plain items the report of
it is plain. -/
theorem plain_report_of_nativesReturn {program : Program} {loaded : World}
    (plain : ∀ item ∈ program, item.Plain)
    (short : (Decimal.ofNat program.length).length ≤ Json.maxIntegerDigits)
    (returns : (engineOf loaded runHost).NativesReturn (around.enter Op.maxDepth) program loaded) :
    let ran := (Op.runProgram (around.enter Op.maxDepth) runHost program).perform loaded
    ∃ result, resultOf ran.1 = some result ∧ result.report.toValue.Plain := by
  intro ran
  obtain ⟨result, after, concluded, walked⟩ := Engine.run_of_nativesReturn returns
  -- an exit of its own concludes the run with a failure, which carries the result
  have ended : ran.1 = Engine.conclude result := by
    change ((Op.runProgram _ _ _).perform loaded).1 = _
    rw [perform_runProgram, concluded]
  have empty : ({} : Tally).Within 0 := ⟨le_rfl, le_rfl, nofun⟩
  obtain ⟨within, coded⟩ := walked.within rfl plain empty
  rw [Nat.zero_add] at within
  refine ⟨result, ?_, RunResult.plain_report within coded short⟩
  rw [ended]
  cases result <;> rfl

end

/-- Loading undoes writing. Let a file hold the document of an array of plain data: no fractions,
whole numbers of limited length, texts of scalars and objects without repeated keys. Then the file
loads as exactly these items, and whatever is done with the program of the file is done with them.
The document that an inspection prints is read back as the summary of the items, and the document
that a run prints at its end as the report of its result: of any result whose report is plain, and
the result of the run itself is one, when the functions that it enters return. A count is written
like any other number, so that the number of items is taken to be one that can be written. -/
theorem loading_undoes_writing (around : Surroundings) (path : Text) (items : List Value)
    (plain : ∀ item ∈ items, item.Plain)
    (written : around.files.readFile (Path.normalize path) =
      .ok (Text.Utf8.encode (Json.write (.array items)))) :
    let program := Program.ofValues items
    Program.load around.files path = .ok items ∧
    (∀ modelled, Op.programOf around.files (.file path) modelled =
      Op.programOf around.files (.values items) modelled) ∧
    (∀ next, withProgram around path next = next items) ∧
    ((Decimal.ofNat items.length).length ≤ Json.maxIntegerDigits →
      (∀ arguments verbose,
        callOf around.files arguments = .ok ⟨.inspect path true, verbose⟩ →
        (execute around arguments).status = .int 0 ∧
          Json.read (execute around arguments).stdout = .ok (Summary.ofProgram program).toValue) ∧
      (∀ arguments, ∀ flags : RunFlags, ∀ plugins loaded, flags.json = true →
        callOf around.files arguments = .ok (flags.call path plugins) →
        Loads around runHost plugins flags.opening loaded →
        let ran := (Op.runProgram (around.enter Op.maxDepth) runHost program).perform loaded
        ((engineOf loaded runHost).NativesReturn (around.enter Op.maxDepth) program loaded →
          ∃ result, resultOf ran.1 = some result ∧ result.report.toValue.Plain) ∧
        ∀ result, resultOf ran.1 = some result → result.report.toValue.Plain →
          ∃ document, (execute around arguments).events =
              ran.2.trace ++ [.wrote .stdout document] ∧
            Json.read document = .ok result.report.toValue)) := by
  intro program
  have loads := Program.load_written plain written
  have plainToo := Program.plain_ofValues plain
  have length : program.length = items.length := List.length_map ..
  refine ⟨loads, fun modelled => ?_, fun next => ?_, fun short => ⟨?_, ?_⟩⟩
  · simp only [Op.programOf, loads]
  · rw [withProgram, loads]
  · intro arguments verbose asked
    obtain ⟨status, stdout⟩ := execute_inspect_json loads asked
    refine ⟨status, ?_⟩
    rw [stdout]
    exact Json.read_line (Summary.plain_toValue plainToo (length ▸ short))
  · intro arguments flags plugins loaded json asked loadsAll ran
    refine ⟨plain_report_of_nativesReturn plainToo (length ▸ short), fun result came told => ?_⟩
    exact ⟨_, events_run_json json loads asked loadsAll result came, Json.read_line told⟩

/-- A call to a module with a name beyond ASCII, with nested arguments and a control character, and
an exit behind it. The report of the run names the module in its diagnostic. -/
theorem loading_undoes_writing_nested :
    let items : List Value :=
      [.object [(text "type", .string (text "call")), (text "name", .string (text "é😀.f")),
          (text "args", .array [.int (-120), .bool true, .int 1, .null, .object [],
            .string (text "\"\\\r\n\x01")])],
        .object [(text "type", .string (text "jexit")), (text "code", .int 300)]]
    let around : Surroundings :=
      ⟨⟨fun _ => .ok (.file (Text.Utf8.encode (Json.write (.array items))))⟩, ⟨[]⟩⟩
    let inspection := execute around [text "inspect", text "--json", text "./p"]
    let flags : RunFlags := ⟨true, true, false⟩
    let result : RunResult := .exited 300 ⟨2, 0, [.unknownModule (text "é😀")]⟩
    Program.load around.files (text "./p") = .ok items ∧
      inspection.status = .int 0 ∧
      Json.read inspection.stdout = .ok (Summary.ofProgram (.ofValues items)).toValue ∧
      ∃ shown document, (execute around (flags.arguments (text "./p") [])).events =
          shown ++ [.wrote .stdout document] ∧
        Json.read document = .ok result.report.toValue := by
  intro items around inspection flags result
  have numbers : ∀ number ∈ [-120, 1, 300], (Value.int number).Plain :=
    fun number member => .int (by revert number; decide)
  have strings (literal : String) : (Value.string (text literal)).Plain := .string (by simp)
  have plain : ∀ item ∈ items, item.Plain := by
    simp only [items, List.forall_mem_cons]
    refine ⟨.object (by decide) (by simp) ?_, .object (by decide) (by simp) ?_, nofun⟩
    · simp only [List.forall_mem_cons]
      refine ⟨strings _, strings _, .array ?_, nofun⟩
      simp only [List.forall_mem_cons]
      exact ⟨numbers _ (by decide), .bool true, numbers _ (by decide), .null,
        .object List.nodup_nil nofun nofun, strings _, nofun⟩
    · simp only [List.forall_mem_cons]
      exact ⟨strings _, numbers _ (by decide), nofun⟩
  have asked : callOf around.files [text "inspect", text "--json", text "./p"] =
      .ok ⟨.inspect (text "./p") true, false⟩ := rfl
  have readable : around.files.lookup (text "./p") =
      .ok (.file (Text.Utf8.encode (Json.write (.array items)))) := rfl
  have run : callOf around.files (flags.arguments (text "./p") []) =
      .ok (flags.call (text "./p") []) := callOf_arguments readable flags []
  have known : resultOf ((Op.runProgram (around.enter Op.maxDepth) runHost
      (.ofValues items)).perform flags.opening).1 = some result := rfl
  have ended : (((engineOf flags.opening runHost).runFrom (around.enter Op.maxDepth) 0
      (.ofValues items) {}).perform flags.opening).1 = .ok result := rfl
  obtain ⟨loaded, -, -, printed⟩ :=
    loading_undoes_writing around (text "./p") items plain rfl
  obtain ⟨inspected, reported⟩ := printed (by decide)
  obtain ⟨status, summary⟩ := inspected _ _ asked
  obtain ⟨returning, printing⟩ := reported _ flags [] _ rfl run .nil
  obtain ⟨other, came, told⟩ := returning (Engine.nativesReturn_iff.mpr ⟨result, ended⟩)
  cases came.symm.trans known
  obtain ⟨document, events, read⟩ := printing result known told
  exact ⟨loaded, status, summary, _, document, events, read⟩

end CommandLine

end Switchboard
