import Switchboard.CommandLine.Suggestion
import Switchboard.Text.Quoted

/-!
# Command-line arguments

Arguments are split into options and operands. Long options take their value behind an equals
sign or as the next argument; short options combine behind one dash, and the rest of such a
group is the value of the first option that takes one. Two dashes end the options.
-/

namespace Switchboard.CommandLine

/-- The options of all commands. -/
inductive Switch where
  | help
  | verbose
  | plugin
  | reportUnknownModules
  | json
  deriving DecidableEq

/-- How a switch is spelt and whether it takes a value. -/
structure SwitchSpec where
  switch : Switch
  letter : Option Char
  words : List Text
  takesValue : Bool := false

/-- What is wrong with the arguments. -/
inductive UsageFault where
  | unknownOption (name : Text) (similar : List Text)
  | missingValue (option : Text)
  | unwantedValue (option : Text)
  | missingOperand (operand : Text)
  | missingCommand
  | unknownCommand (name : Text) (similar : List Text)
  | extraOperands (operands : List Text)
  | missingFile (operand path : Text)
  | fileIsDirectory (operand path : Text)
  deriving DecidableEq

namespace UsageFault

/-- Names that the user may have meant. -/
def hint : List Text → Text
  | [] => []
  | [only] => text " Did you mean " ++ only.quoted ++ text "?"
  | several =>
      text " (Did you mean one of: " ++ Text.join (text ", ") (several.map Text.quoted) ++ text "?)"

/-- The fault in words. -/
def message : UsageFault → Text
  | .unknownOption name similar => text "No such option " ++ name.quoted ++ text "." ++ hint similar
  | .missingValue option => text "Option " ++ option.quoted ++ text " requires an argument."
  | .unwantedValue option => text "Option " ++ option.quoted ++ text " does not take a value."
  | .missingOperand operand => text "Missing argument " ++ operand.quoted ++ text "."
  | .missingCommand => text "Missing command."
  | .unknownCommand name similar =>
      text "No such command " ++ name.quoted ++ text "." ++ hint similar
  | .extraOperands operands =>
      text "Got unexpected extra argument" ++ text (if operands.length = 1 then "" else "s") ++
        text " (" ++ Text.join (text " ") operands ++ text ")"
  | .missingFile operand path =>
      text "Invalid value for " ++ operand.quoted ++ text ": File " ++ path.quoted ++
        text " does not exist."
  | .fileIsDirectory operand path =>
      text "Invalid value for " ++ operand.quoted ++ text ": File " ++ path.quoted ++
        text " is a directory."

/-- Whether the fault is reported with the usage line of the command. Faults of the value of
an option are reported alone. -/
def showsUsage : UsageFault → Bool
  | .missingValue _ => false
  | .unwantedValue _ => false
  | _ => true

end UsageFault

/-- Options with their values, and operands, in the order of the arguments. -/
structure Arguments where
  options : List (Switch × Text) := []
  operands : List Text := []

namespace Arguments

/-- Whether a switch was given. -/
def has (arguments : Arguments) (switch : Switch) : Bool :=
  arguments.options.any fun option => option.1 = switch

/-- The values given for a switch. -/
def values (arguments : Arguments) (switch : Switch) : List Text :=
  (arguments.options.filter fun option => option.1 = switch).map Prod.snd

/-- Add operands at the end. -/
def addOperands (arguments : Arguments) (operands : List Text) : Arguments :=
  { arguments with operands := arguments.operands ++ operands }

end Arguments

/-- The dash before options. -/
def dash : CodePoint := .scalar '-'

/-- The argument that ends the options. -/
def endOfOptions : Text := [dash, dash]

/-- The name of a long option and the value behind its equals sign. -/
def splitValue (argument : Text) : Text × Option Text :=
  match argument.dropWhile (· ≠ .scalar '=') with
  | [] => (argument, none)
  | _ :: value => (argument.takeWhile (· ≠ .scalar '='), some value)

/-- A group of short options: the options it holds, and the one that takes its value from the
next argument. -/
structure ShortGroup where
  options : List (Switch × Text) := []
  pending : Option (Switch × Text) := none

/-- Read the letters behind a single dash. -/
def readLetters (specs : List SwitchSpec) : Text → Except UsageFault ShortGroup
  | [] => .ok {}
  | letter :: rest =>
      let name : Text := [dash, letter]
      match specs.find? fun spec => spec.letter.map CodePoint.scalar = some letter with
      | none => .error (.unknownOption name [])
      | some spec =>
          if spec.takesValue then
            .ok (if rest.isEmpty then { pending := some (spec.switch, name) }
              else { options := [(spec.switch, rest)] })
          else do
            let group ← readLetters specs rest
            return { group with options := (spec.switch, []) :: group.options }

/-- What the first of some arguments is. -/
inductive Reading where
  | options (options : List (Switch × Text))
  | pending (options : List (Switch × Text)) (switch : Switch) (name : Text)

/-- Read an argument that begins with a dash. -/
def readOption (specs : List SwitchSpec) (argument : Text) : Except UsageFault Reading :=
  let (name, value?) := splitValue argument
  match specs.find? fun spec => name ∈ spec.words with
  | some spec =>
      match spec.takesValue, value? with
      | true, some value => .ok (.options [(spec.switch, value)])
      | true, none => .ok (.pending [] spec.switch name)
      | false, some _ => .error (.unwantedValue name)
      | false, none => .ok (.options [(spec.switch, [])])
  | none =>
      if endOfOptions.isPrefixOf argument then
        .error (.unknownOption name (suggestions name (specs.flatMap SwitchSpec.words)))
      else do
        let group ← readLetters specs (argument.drop 1)
        return match group.pending with
          | none => .options group.options
          | some (switch, name) => .pending group.options switch name

/-- Read arguments after those already read. With `interspersed` false the first operand
ends the options. -/
def readArguments (specs : List SwitchSpec) (interspersed : Bool) :
    List Text → Arguments → Except UsageFault Arguments
  | [], read => .ok read
  | argument :: rest, read =>
      if argument = endOfOptions then .ok (read.addOperands rest)
      else if [dash].isPrefixOf argument ∧ 1 < argument.length then
        match readOption specs argument with
        | .error fault => .error fault
        | .ok (.options options) =>
            readArguments specs interspersed rest { read with options := read.options ++ options }
        | .ok (.pending options switch name) =>
            match rest with
            | [] => .error (.missingValue name)
            | value :: rest =>
                readArguments specs interspersed rest
                  { read with options := read.options ++ options ++ [(switch, value)] }
      else if interspersed then
        readArguments specs interspersed rest (read.addOperands [argument])
      else .ok (read.addOperands (argument :: rest))

end Switchboard.CommandLine
