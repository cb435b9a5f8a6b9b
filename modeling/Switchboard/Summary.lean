import Switchboard.Instruction
import Switchboard.Value.Describe

/-!
# Program summaries

A summary tells what a program contains without running it: how many instructions of each
type, which modules it calls, where it ends, and what looks wrong.
-/

namespace Switchboard

/-- Something that looks wrong in a program. Indices count items from zero. -/
inductive Warning where
  | malformed (index : Nat)
  | unnamedCall (index : Nat)
  | malformedReference (index : Nat) (name : Value)
  | unknownType (index : Nat) (kind : Text)
  | unreachable (count : Nat) (exit : Nat)

/-- A warning in words. -/
def Warning.message : Warning → Text
  | .malformed index => text "Instruction " ++ Decimal.ofNat index ++ text ": malformed"
  | .unnamedCall index =>
      text "Instruction " ++ Decimal.ofNat index ++ text ": call has no name"
  | .malformedReference index name =>
      text "Instruction " ++ Decimal.ofNat index ++ text ": malformed reference " ++ name.describe
  | .unknownType index kind =>
      text "Instruction " ++ Decimal.ofNat index ++ text ": unknown type " ++ kind.quoted
  | .unreachable count exit =>
      Decimal.ofNat count ++ text " instruction(s) after jexit at " ++ Decimal.ofNat exit ++
        text " never run"

/-- What a program contains. -/
structure Summary where
  count : Nat
  types : Table Nat
  modules : List Text
  exitsAt : Option Nat
  warnings : List Warning

namespace Summary

/-- The summary of no items. -/
def empty : Summary := ⟨0, .empty, [], none, []⟩

/-- Count one more instruction of a type. -/
def tally (types : Table Nat) (kind : Text) : Table Nat :=
  types.put kind ((types.get? kind).getD 0 + 1)

/-- Add a warning at the end. -/
def warn (summary : Summary) (warning : Warning) : Summary :=
  { summary with warnings := summary.warnings ++ [warning] }

/-- Take an instruction at `index` into account. -/
def addInstruction (summary : Summary) (index : Nat) (instruction : Instruction) : Summary :=
  let summary := { summary with types := tally summary.types instruction.kind }
  if instruction.isCall then
    match instruction.name, instruction.reference with
    | .null, _ => summary.warn (.unnamedCall index)
    | _, (some module, some _) =>
        if summary.modules.contains module then summary
        else { summary with modules := summary.modules ++ [module] }
    | name, _ => summary.warn (.malformedReference index name)
  else if instruction.isExit then
    { summary with exitsAt := summary.exitsAt <|> some index }
  else summary.warn (.unknownType index instruction.kind)

/-- Take the item at `index` into account. -/
def addItem (summary : Summary) (index : Nat) (item : Item) : Summary :=
  match item.accept with
  | .error _ => summary.warn (.malformed index)
  | .ok instruction => summary.addInstruction index instruction

/-- Take the items from `index` on into account. -/
def addItems (summary : Summary) : (index : Nat) → Program → Summary
  | _, [] => summary
  | index, item :: rest => addItems (summary.addItem index item) (index + 1) rest

/-- The summary of a program. Items behind the first exit are counted like all others, and
their number is a last warning. -/
def ofProgram (program : Program) : Summary :=
  let summary := { empty.addItems 0 program with count := program.length }
  match summary.exitsAt with
  | none => summary
  | some exit =>
      let unreachable := program.length - exit - 1
      if unreachable = 0 then summary else summary.warn (.unreachable unreachable exit)

/-- A count as a JSON value. -/
def countValue (number : Nat) : Value := .int number

/-- The counts of the types as fields, in order of first occurrence. -/
def typeFields (summary : Summary) : Pairs Value :=
  summary.types.entries.map fun entry => (entry.1, countValue entry.2)

/-- The summary as a JSON document. -/
def toValue (summary : Summary) : Value :=
  .object
    [(text "instruction_count", countValue summary.count),
      (text "instruction_types", .object summary.typeFields),
      (text "modules", .array (summary.modules.map .string)),
      (text "exits_at", (summary.exitsAt.map countValue).getD .null),
      (text "warnings", .array (summary.warnings.map fun warning => .string warning.message))]

/-- The summary as lines for a reader, under the path the program was named by. -/
def lines (summary : Summary) (path : Text) : List Text :=
  let modules := Text.join (text ", ") summary.modules
  [text "Program: " ++ path,
    text "  Instructions: " ++ Decimal.ofNat summary.count,
    text "  Types: " ++ (Value.object summary.typeFields).describe,
    text "  Modules: " ++ (if modules.isEmpty then text "-" else modules)] ++
  (summary.exitsAt.map fun exit => text "  Exits at: " ++ Decimal.ofNat exit).toList ++
  summary.warnings.map fun warning => text "  ! " ++ warning.message

end Summary

end Switchboard
