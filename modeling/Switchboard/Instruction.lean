import Switchboard.Decimal
import Switchboard.Reference
import Switchboard.Value

/-!
# Instructions

A program is an array of values. `Instruction.accept` decides which of them are
instructions: exactly the objects with a string under `type`. `Instruction.toWire` writes an
instruction back in a fixed order and without its null fields.
-/

namespace Switchboard

/-! ## Rejections -/

/-- One step of the path to a faulty field. -/
inductive PathStep where
  | field (name : Text)
  | index (position : Int)
  deriving DecidableEq

/-- A step as text. -/
def PathStep.message : PathStep → Text
  | .field name => name
  | .index position => Decimal.ofInt position

/-- One finding about a value that should be an instruction. -/
structure Finding where
  path : List PathStep := []
  message : Text := text "invalid"
  deriving DecidableEq

/-- Findings in one line: the first in full, the others counted. -/
def Finding.summarize : List Finding → Text
  | [] => text "invalid instruction"
  | first :: others =>
      let path := Text.join (text ".") (first.path.map PathStep.message)
      let place := if path.isEmpty then text "instruction" else path
      let more :=
        if others.isEmpty then []
        else text " (+" ++ Decimal.ofNat others.length ++ text " more)"
      place ++ text ": " ++ first.message ++ more

/-- Why a value is no instruction. -/
inductive Rejection where
  | notObject (kind : Text)
  | unreadableKey
  | missingType
  | typeNotString
  deriving DecidableEq

/-- A rejection in one line. -/
def Rejection.message : Rejection → Text
  | .notObject kind => text "expected an instruction object, got " ++ kind
  | .unreadableKey =>
      Finding.summarize [⟨[], text
        "Input should be a valid string, unable to parse raw data as a unicode string"⟩]
  | .missingType => Finding.summarize [⟨[.field (text "type")], text "Field required"⟩]
  | .typeNotString =>
      Finding.summarize [⟨[.field (text "type")], text "Input should be a valid string"⟩]

/-! ## The model -/

/-- An instruction. A field that is absent and a field that is null are the same; `extras`
are the fields that have no meaning here, in their order. -/
structure Instruction where
  kind : Text
  name : Value
  args : Value
  code : Value
  extras : Pairs Value
  deriving Inhabited

namespace Instruction

/-- The keys of the fields that have a meaning, in the order of writing. -/
def knownKeys : List Text := [text "type", text "name", text "args", text "code"]

/-- Read an instruction from a JSON value. -/
def accept : Value → Except Rejection Instruction
  | .object fields =>
      if fields.any fun field => field.1.hasSurrogate then .error .unreadableKey
      else
        match Pairs.get? fields (text "type") with
        | none => .error .missingType
        | some (.string kind) =>
            .ok
              { kind
                name := Value.fieldOrNull fields (text "name")
                args := Value.fieldOrNull fields (text "args")
                code := Value.fieldOrNull fields (text "code")
                extras := fields.filter fun field => !knownKeys.contains field.1 }
        | some _ => .error .typeNotString
  | other => .error (.notObject other.kindName)

/-- Whether the instruction calls a function. -/
def isCall (instruction : Instruction) : Bool := instruction.kind = text "call"

/-- Whether the instruction ends the program. -/
def isExit (instruction : Instruction) : Bool := instruction.kind = text "jexit"

/-- The exit status: the code when it is a whole number, else zero. -/
def exitCode (instruction : Instruction) : Int :=
  match instruction.code with
  | .int number => number
  | _ => 0

/-- The module and function that the name refers to; a name that is no string has neither. -/
def reference (instruction : Instruction) : Option Text × Option Text :=
  match instruction.name with
  | .string name =>
      let (module, function) := Reference.split name
      (some module, function)
  | _ => (none, none)

/-- The fields of the wire form, null fields left out. -/
def wireFields (instruction : Instruction) : Pairs Value :=
  ([(text "type", .string instruction.kind), (text "name", instruction.name),
    (text "args", instruction.args), (text "code", instruction.code)] ++
      instruction.extras).filter fun field => field.2.isPresent

/-- The wire form: the known fields in order, then the extras, without nulls. -/
def toWire (instruction : Instruction) : Value := .object instruction.wireFields

end Instruction

/-! ## Programs -/

/-- One item of a program: a JSON value, or an instruction that a host made from one. -/
inductive Item where
  | raw (value : Value)
  | model (instruction : Instruction)

/-- The instruction that an item stands for. -/
def Item.accept : Item → Except Rejection Instruction
  | .raw value => Instruction.accept value
  | .model instruction => .ok instruction

/-- Make an instruction of an item beforehand where possible. -/
def Item.modelled (item : Item) : Item :=
  match item.accept with
  | .ok instruction => .model instruction
  | .error _ => item

/-- A program: its items in order of execution. -/
abbrev Program := List Item

/-- The program that consists of these values. -/
def Program.ofValues (values : List Value) : Program := values.map .raw

end Switchboard
