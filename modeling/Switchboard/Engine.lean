import Switchboard.Module.Use

/-!
# The engine

The engine carries out a program item by item. A call is resolved through the export table
as it is at that moment, an exit ends the run, and every item that can be neither called nor
ended on becomes a diagnostic; none of them stops the run. The only failures inside
`Engine.runFrom` are those of the functions it enters, which it does not touch; the exit of
the program itself is a result, which `Engine.run` turns into a failure for its caller.
-/

namespace Switchboard

/-- An engine: the exports it resolves calls through, what it reports, and where it prints
its exit notice. -/
structure Engine where
  exports : ExportsRef
  reporting : Reporting
  stream : Option Stream

/-- What an item makes of a run: it goes on, or it ends with a code. -/
inductive Progress where
  | goesOn (tally : Tally)
  | exits (code : Int) (tally : Tally)

namespace Engine

/-- The line that announces an exit. -/
def exitNotice (code : Value) : Text := text "[juli] Exiting with code " ++ code.display

/-- Log a diagnostic and add it to the tally. -/
def diagnose (tally : Tally) (diagnostic : Diagnostic) : Op Tally := do
  Op.log (.diagnosed diagnostic)
  return { tally with diagnostics := tally.diagnostics ++ [diagnostic] }

/-- Call a function of an exported module. A name without a function is a diagnostic that the
module has already logged. -/
def callFunction (engine : Engine) (enter : Enter) (module function : Text) (tally : Tally) :
    Op Tally := do
  match (← Op.readExports engine.exports).get? module with
  | none =>
      if engine.reporting.unknownModules then
        diagnose tally (.unknownModule module)
      else
        Op.log (.skippedCall module)
        return tally
  | some snapshot =>
      if ← Op.invokeSnapshot enter snapshot function then
        return { tally with calls := tally.calls + 1 }
      else
        return { tally with diagnostics := tally.diagnostics ++ [.unknownFunction function] }

/-- Carry out a call instruction. -/
def call (engine : Engine) (enter : Enter) (index : Nat) (instruction : Instruction)
    (tally : Tally) : Op Tally :=
  match instruction.name with
  | .null => diagnose tally (.unnamedCall index)
  | .string name =>
      match Reference.split name with
      | (_, none) => diagnose tally (.malformedReference (.string name))
      | (module, some function) => engine.callFunction enter module function tally
  | other => diagnose tally (.malformedReference other)

/-- Carry out an exit instruction: announce its code and end. -/
def exit (engine : Engine) (instruction : Instruction) (tally : Tally) : Op Progress := do
  let code := instruction.exitCode
  if engine.reporting.exitNotice then
    Op.printTo engine.stream (exitNotice (.int code))
  return .exits code tally

/-- Carry out the item at an index. -/
def step (engine : Engine) (enter : Enter) (index : Nat) (item : Item) (tally : Tally) :
    Op Progress := do
  let tally := { tally with executed := tally.executed + 1 }
  match item.accept with
  | .error rejection => return .goesOn (← diagnose tally (.malformed index rejection))
  | .ok instruction =>
      if instruction.isCall then
        return .goesOn (← engine.call enter index instruction tally)
      else if instruction.isExit then
        engine.exit instruction tally
      else
        return .goesOn (← diagnose tally (.unknownInstruction instruction.kind))

/-- Carry out the items from an index on. -/
def runFrom (engine : Engine) (enter : Enter) :
    (index : Nat) → Program → Tally → Op RunResult
  | _, [], tally => return .completed tally
  | index, item :: rest, tally => do
      match ← engine.step enter index item tally with
      | .goesOn tally => engine.runFrom enter (index + 1) rest tally
      | .exits code tally => return .exited code tally

/-- Run a program. An exit of the program is a failure that carries the result. -/
def run (engine : Engine) (enter : Enter) (program : Program) : Op RunResult := do
  let result ← engine.runFrom enter 0 program {}
  match result with
  | .completed _ => return result
  | .exited code _ => throw (.exit (.int code) (some result))

end Engine

end Switchboard
