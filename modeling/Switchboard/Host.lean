import Switchboard.Engine
import Switchboard.Text.Blank

/-!
# Hosts

The builder interface: a host adopts a module, attaches source to it, exports it, and runs
programs against what was exported. Callbacks are operations of any kind; each operation
here says what it does before and after its callback, and a callback that fails ends it.
-/

namespace Switchboard.Op

/-- Make a host. It uses the given export table if that has entries, and a new one
otherwise. -/
def newHost (exports : Option ExportsRef) (reporting : Reporting) (stream : Option Stream) :
    Op HostRef := do
  let given ← match exports with
    | none => pure none
    | some ref => do
        let table ← readExports ref
        pure (if table.size = 0 then none else some ref)
  let used ← match given with
    | some ref => pure ref
    | none => newExports
  let ref := (← get).hosts.next
  modify fun world =>
    { world with hosts := world.hosts.allocate ⟨used, reporting, stream, none⟩ }
  return ref

/-- Make a module the current one. It takes over the stream of the host unless it has one. -/
def adopt (host : HostRef) (module : ModuleRef) : Op Unit := do
  let stream := (← readHost host).stream
  updateModule module fun content => { content with stream := content.stream <|> stream }
  updateHost host fun content => { content with current := some module }

/-- Adopt a module, then build it. -/
def build (host : HostRef) (module : ModuleRef) (callback : Op Unit) : Op Unit := do
  adopt host module
  callback

/-- Attach the trimmed source that the callback returns to the module that is current after
it. Without a current module the callback is not entered. -/
def attachSource (host : HostRef) (callback : Op Text) : Op Unit := do
  match (← readHost host).current with
  | none => log .sourceWithoutModule
  | some _ =>
      let source ← callback
      match (← readHost host).current with
      | none => return ()
      | some module => updateModule module fun content => { content with script := source.trim }

/-- Enter the callback, then export the module that is current after it. -/
def exportCurrent (host : HostRef) (callback : Op Unit) (name : Text) :
    Op (Option SnapshotRef) := do
  callback
  let state ← readHost host
  match state.current with
  | none =>
      log (.nothingToExport name)
      return none
  | some module =>
      let snapshot ← takeSnapshot module
      publish state.exports name snapshot
      return some snapshot

/-- The snapshot exported under a name. -/
def importExport (host : HostRef) (name : Text) : Op (Option SnapshotRef) := do
  return (← readExports (← readHost host).exports).get? name

/-- Call a function of an exported module directly. Unknown modules and functions are passed
over in silence; a name without a function cannot be called. -/
def callDirect (enter : Enter) (host : HostRef) (module function : Text) : Op Bool := do
  match ← importExport host module with
  | none => return false
  | some ref =>
      match (← readSnapshot ref).functions.get? function with
      | none => return false
      | some none => throw .notCallable
      | some (some native) =>
          enter native
          return true

/-- Leave with a code, announcing it if the host says so. -/
def exit (host : HostRef) (code : Value) : Op Unit := do
  let state ← readHost host
  if state.reporting.exitNotice then
    printTo state.stream (Engine.exitNotice code)
  throw (.exit code none)

/-- The engine of a host, with what it reports at this moment. -/
def engine (host : HostRef) : Op Engine := do
  let state ← readHost host
  return ⟨state.exports, state.reporting, state.stream⟩

/-- Run a program against the exports of a host. -/
def runProgram (enter : Enter) (host : HostRef) (program : Program) : Op RunResult := do
  (← engine host).run enter program

end Switchboard.Op
