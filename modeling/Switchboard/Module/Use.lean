import Switchboard.Println
import Switchboard.World

/-!
# Using modules

Entering the functions of a table and attaching source to a module. What entering a native
function means is a parameter of every operation that can do so: the engine is correct for
all of them.
-/

namespace Switchboard

/-- What entering a native function does. -/
abbrev Enter := Native → Op Unit

namespace Op

/-- Enter the function under `name`. A name without a function is logged under the owner of
the table, and the result is false. -/
def invoke (enter : Enter) (functions : FunctionTable) (owner : Option Text) (name : Text) :
    Op Bool := do
  match functions.function? name with
  | none =>
      log (.unknownFunction name owner)
      return false
  | some native =>
      enter native
      return true

/-- Enter a function of a module. -/
def invokeModule (enter : Enter) (ref : ModuleRef) (name : Text) : Op Bool := do
  let module ← readModule ref
  invoke enter module.functions module.name name

/-- Enter a function of a snapshot. -/
def invokeSnapshot (enter : Enter) (ref : SnapshotRef) (name : Text) : Op Bool := do
  let snapshot ← readSnapshot ref
  invoke enter snapshot.functions snapshot.name name

/-- Attach source to a module: the argument of its first println shape is the result, and a
module that echoes prints it to the given stream, else to its own, else to standard output. -/
def attach (ref : ModuleRef) (code : Text) (stream : Option Stream) : Op (Option Text) := do
  let module ← readModule ref
  match Println.argument? code with
  | none => return none
  | some argument =>
      if module.echo then printTo (stream <|> module.stream) argument
      return some argument

/-- Attach the script of a module to that module. -/
def attachScript (ref : ModuleRef) : Op (Option Text) := do
  attach ref (← readModule ref).script none

/-- Put a new function under a name of a module. -/
def define (ref : ModuleRef) (name : Text) (action : Option NativeAction) : Op Unit := do
  match action with
  | none => updateModule ref (·.define name none)
  | some action =>
      let native ← newNative action
      updateModule ref (·.define name (some native))

/-- Make a snapshot of a module as it is now. -/
def takeSnapshot (ref : ModuleRef) : Op SnapshotRef := do
  newSnapshot (← readModule ref).snapshot

/-- Export a snapshot under a name, in place of any earlier one. -/
def publish (ref : ExportsRef) (name : Text) (snapshot : SnapshotRef) : Op Unit := do
  let exports ← readExports ref
  modify fun world => { world with exports := world.exports.write ref (exports.put name snapshot) }
  log (.published name (exports.contains name))

/-- The views of all exports, in code point order of their names. -/
def listExports (ref : ExportsRef) : Op (List (Text × SnapshotView)) := do
  let world ← get
  let exports := world.exports.read ref
  return exports.sortedKeys.filterMap fun name =>
    (exports.get? name).map fun snapshot => (name, (world.snapshots.read snapshot).view)

end Op

end Switchboard
