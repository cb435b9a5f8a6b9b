import Switchboard.Instruction
import Switchboard.Value.Describe

/-!
# Runs

What a run of a program amounts to: how many items it executed and called, a diagnostic for
every item it could not carry out, and how it ended. `RunResult` is what the engine computes;
`RunReport` is the form that hosts read, in which every entry is plain data.
-/

namespace Switchboard

/-- Where a run stands. -/
inductive RunState where
  | running
  | completed
  | exited
  deriving DecidableEq, Inhabited

/-- The name of a state. -/
def RunState.name : RunState → Text
  | .running => text "running"
  | .completed => text "completed"
  | .exited => text "exited"

/-- The state with a given name. -/
def RunState.ofName? (name : Text) : Option RunState :=
  [RunState.running, .completed, .exited].find? fun state => state.name = name

/-- An item that could not be carried out. Indices count items from zero. -/
inductive Diagnostic where
  | malformed (index : Nat) (rejection : Rejection)
  | unnamedCall (index : Nat)
  | malformedReference (name : Value)
  | unknownModule (module : Text)
  | unknownFunction (function : Text)
  | unknownInstruction (kind : Text)

/-- A diagnostic in words. -/
def Diagnostic.message : Diagnostic → Text
  | .malformed index rejection =>
      text "Malformed instruction at " ++ Decimal.ofNat index ++ text ": " ++ rejection.message
  | .unnamedCall index => text "Call at " ++ Decimal.ofNat index ++ text " has no name"
  | .malformedReference name => text "Malformed call reference: " ++ name.describe
  | .unknownModule module => text "Unknown module: " ++ module
  | .unknownFunction function => text "Unknown function: " ++ function
  | .unknownInstruction kind => text "Unknown instruction: " ++ kind

/-- What a run has done so far. -/
structure Tally where
  executed : Nat := 0
  calls : Nat := 0
  diagnostics : List Diagnostic := []

/-- The result of a run: it came to the end of its program, or to an exit with a code. -/
inductive RunResult where
  | completed (tally : Tally)
  | exited (code : Int) (tally : Tally)

/-- The result of a run as a host reads it. The exit code is null when there is none. -/
structure RunReport where
  state : RunState := .running
  executed : Int := 0
  calls : Int := 0
  diagnostics : List Text := []
  exitCode : Value := .null

namespace RunReport

/-- Whether the run ended at an exit instruction. -/
def exited (report : RunReport) : Bool := report.state = .exited

/-- The report as a JSON document. -/
def toValue (report : RunReport) : Value :=
  .object
    [(text "state", .string report.state.name),
      (text "executed", .int report.executed),
      (text "calls", .int report.calls),
      (text "diagnostics", .array (report.diagnostics.map .string)),
      (text "exit_code", report.exitCode)]

end RunReport

namespace RunResult

/-- What the run did. -/
def tally : RunResult → Tally
  | .completed tally => tally
  | .exited _ tally => tally

/-- The state in which the run ended. -/
def state : RunResult → RunState
  | .completed _ => .completed
  | .exited _ _ => .exited

/-- The code of the exit that ended the run. -/
def exitCode : RunResult → Option Int
  | .completed _ => none
  | .exited code _ => some code

/-- The report of a result. -/
def report (result : RunResult) : RunReport where
  state := result.state
  executed := result.tally.executed
  calls := result.tally.calls
  diagnostics := result.tally.diagnostics.map Diagnostic.message
  exitCode := (result.exitCode.map Value.int).getD .null

end RunResult

end Switchboard
