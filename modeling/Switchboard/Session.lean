import Switchboard.Plugin
import Switchboard.Program.Load

/-!
# Sessions

`perform` gives every step of a host script its meaning, with the meaning of nested bodies
as a parameter; `runBody` ties the knot, to a bounded depth of nesting. A session plays a
list of steps from an empty world: a step that fails is recorded, and the next one goes on
from the world it left.
-/

namespace Switchboard

/-- What scripts find around them: files and plugins. -/
structure Surroundings where
  files : FileSystem
  plugins : Catalogue

namespace Op

/-! ## Labels -/

/-- What a label stands for. -/
def resolve {α : Type} (labels : Table α) (label : Text) : Op α :=
  match labels.get? label with
  | some found => return found
  | none => throw (.unknownLabel label)

/-- The module with a label. -/
def moduleAt (label : Text) : Op ModuleRef := do resolve (← get).labels.modules label

/-- The snapshot with a label. -/
def snapshotAt (label : Text) : Op SnapshotRef := do resolve (← get).labels.snapshots label

/-- The host with a label. -/
def hostAt (label : Text) : Op HostRef := do resolve (← get).labels.hosts label

/-- The export table that a label leads to. -/
def exportsAt : ExportsLabel → Op ExportsRef
  | .exports label => do resolve (← get).labels.exports label
  | .ofHost label => do return (← readHost (← hostAt label)).exports

/-- Change the labels. -/
def relabel (change : Labels → Labels) : Op Unit :=
  modify fun world => { world with labels := change world.labels }

/-- Give a snapshot a label, if there is one to give, and view it. -/
def viewLabelled (label : Option Text) (ref : SnapshotRef) : Op StepResult := do
  match label with
  | none => pure ()
  | some label =>
      relabel fun labels => { labels with snapshots := labels.snapshots.put label ref }
  return .snapshot (← readSnapshot ref).view

/-- View a snapshot that may be missing. -/
def viewFound (label : Option Text) : Option SnapshotRef → Op StepResult
  | none => return .nothing
  | some ref => viewLabelled label ref

/-- The label of a module, if scripts gave it one. -/
def labelOf (labels : Table ModuleRef) (ref : ModuleRef) : CurrentModule :=
  match labels.entries.find? fun entry => entry.2 = ref with
  | some (label, _) => .labelled label
  | none => .unlabelled

/-- The current module of a host as scripts know it. -/
def currentModule (host : Host) (labels : Labels) : CurrentModule :=
  match host.current with
  | none => .none
  | some ref => labelOf labels.modules ref

/-! ## Steps -/

/-- The program that a source names. -/
def programOf (files : FileSystem) (source : ProgramSource) (modelled : Bool) : Op Program := do
  let values ← match source with
    | .values items => pure items
    | .file path =>
        match Program.load files path with
        | .ok items => pure items
        | .error failure => throw failure
  let program := Program.ofValues values
  return if modelled then program.map Item.modelled else program

/-- What a native function does, given the meaning of bodies. -/
def enterNative (run : Body → Op Unit) (native : Native) : Op Unit :=
  match native.action with
  | .script body => run body
  | .say line => printTo none line
  | .attachScript module => discard (attachScript module)

/-- Enter a callback. One that is absent cannot be called. -/
def enterCallback (run : Body → Op Unit) : Option Body → Op Unit
  | none => throw .notCallable
  | some body => run body

/-- Define a function of a labelled module. -/
def defineAt (module function : Text) (body : Option Body) : Op Unit := do
  define (← moduleAt module) function (body.map .script)

/-- Export what a label stands for. A module is exported as a new snapshot. -/
def publishAt (exports : ExportsRef) (name : Text) : ExportLabel → Op StepResult
  | .module label => do
      let snapshot ← takeSnapshot (← moduleAt label)
      publish exports name snapshot
      return .published (← readSnapshot snapshot).view false
  | .snapshot label => do
      let snapshot ← snapshotAt label
      publish exports name snapshot
      return .published (← readSnapshot snapshot).view true

/-- Carry out one step of a host script. -/
def performStep (around : Surroundings) (run : Body → Op Unit) : Step → Op StepResult
  | .note label => do
      emit (.traced label .nothing)
      return .nothing
  | .print content => do
      printTo none content
      return .nothing
  | .raise kind message => throw (.raised kind message)
  | .attempt body =>
      tryCatch (do run body; return .attempted none) fun failure =>
        return .attempted (some failure)
  | .newModule label name script echo stream => do
      let ref ← newModule { name, script, echo, stream }
      relabel fun labels => { labels with modules := labels.modules.put label ref }
      return .nothing
  | .define module function body => do
      defineAt module function body
      return .nothing
  | .decorate module function body => do
      defineAt module function body
      return .flag true
  | .setScript module script => do
      updateModule (← moduleAt module) fun content => { content with script }
      return .nothing
  | .setEcho module echo => do
      updateModule (← moduleAt module) fun content => { content with echo }
      return .nothing
  | .attach module code stream => return .argument (← attach (← moduleAt module) code stream)
  | .attachScript module => return .argument (← attachScript (← moduleAt module))
  | .invoke module function =>
      return .flag (← invokeModule (enterNative run) (← moduleAt module) function)
  | .compareModules first second => do
      let first ← readModule (← moduleAt first)
      let second ← readModule (← moduleAt second)
      return .flag (first.same second)
  | .takeSnapshot module label => do
      viewLabelled (some label) (← takeSnapshot (← moduleAt module))
  | .newSnapshot label name script => do
      viewLabelled (some label) (← newSnapshot { name, script })
  | .invokeSnapshot snapshot function =>
      return .flag (← invokeSnapshot (enterNative run) (← snapshotAt snapshot) function)
  | .hasFunction snapshot function =>
      return .flag ((← readSnapshot (← snapshotAt snapshot)).hasFunction function)
  | .viewSnapshot snapshot => do viewLabelled none (← snapshotAt snapshot)
  | .compareSnapshots first second => do
      let first ← readSnapshot (← snapshotAt first)
      let second ← readSnapshot (← snapshotAt second)
      return .flag (first.same second)
  | .sameSnapshot first second =>
      return .flag (decide ((← snapshotAt first) = (← snapshotAt second)))
  | .assignField snapshot field => do
      discard (snapshotAt snapshot)
      throw (.readOnlyField field)
  | .assignFunction snapshot _ => do
      discard (snapshotAt snapshot)
      throw .readOnlyTable
  | .newExports label => do
      let ref ← newExports
      relabel fun labels => { labels with exports := labels.exports.put label ref }
      return .nothing
  | .labelExports host label => do
      let ref := (← readHost (← hostAt host)).exports
      relabel fun labels => { labels with exports := labels.exports.put label ref }
      return .nothing
  | .sameExports host exports => do
      let used := (← readHost (← hostAt host)).exports
      return .flag (decide (used = (← exportsAt (.exports exports))))
  | .publish exports name source => do publishAt (← exportsAt exports) name source
  | .lookup exports name label => do
      viewFound label ((← readExports (← exportsAt exports)).get? name)
  | .listNames exports => return .names (← readExports (← exportsAt exports)).sortedKeys
  | .countNames exports => return .count (← readExports (← exportsAt exports)).size
  | .containsName exports name =>
      return .flag ((← readExports (← exportsAt exports)).contains name)
  | .listExports exports => return .listing (← listExports (← exportsAt exports))
  | .newHost label exports reporting stream => do
      let given ← match exports with
        | none => pure none
        | some label => some <$> exportsAt (.exports label)
      let ref ← newHost given reporting stream
      relabel fun labels => { labels with hosts := labels.hosts.put label ref }
      return .nothing
  | .setReporting host reporting => do
      updateHost (← hostAt host) fun content => { content with reporting }
      return .nothing
  | .adopt host module => do
      adopt (← hostAt host) (← moduleAt module)
      return .nothing
  | .build host module body => do
      build (← hostAt host) (← moduleAt module) (enterCallback run body)
      return .nothing
  | .attachSource host source body => do
      attachSource (← hostAt host) (do run body; return source)
      return .nothing
  | .exportCurrent host body name label => do
      viewFound label (← exportCurrent (← hostAt host) (enterCallback run body) name)
  | .importExport host name label => do
      viewFound label (← importExport (← hostAt host) name)
  | .call host module function =>
      return .flag (← callDirect (enterNative run) (← hostAt host) module function)
  | .exit host code => do
      exit (← hostAt host) code
      return .nothing
  | .run host source modelled => do
      let host ← hostAt host
      let program ← programOf around.files source modelled
      return .ran (← runProgram (enterNative run) host program)
  | .execute exports reporting stream source modelled => do
      let exports ← exportsAt exports
      let program ← programOf around.files source modelled
      return .ran (← (Engine.mk exports reporting stream).run (enterNative run) program)
  | .loadPlugin host name => do
      loadPlugin around.plugins run (← hostAt host) name
      return .nothing
  | .current host => do
      let host ← readHost (← hostAt host)
      return .current (currentModule host (← get).labels)

/-- Carry out the steps of a body, tracing the results of those that are tagged. -/
def performAll (around : Surroundings) (run : Body → Op Unit) : Body → Op Unit
  | [] => return ()
  | (tag, step) :: rest => do
      let result ← performStep around run step
      match tag with
      | none => pure ()
      | some label => emit (.traced label result)
      performAll around run rest

/-- Carry out a body in which bodies nest to at most the given depth. -/
def runBody (around : Surroundings) : (depth : Nat) → Body → Op Unit
  | 0, _ => throw .nestedTooDeeply
  | depth + 1, body => performAll around (runBody around depth) body

/-- How deep bodies may nest. -/
def maxDepth : Nat := 1000

end Op

/-! ## Playing sessions -/

/-- What came of one step: its result or failure, and the events on the way. -/
structure StepRecord where
  outcome : Except Failure StepResult
  events : List Event

namespace Session

/-- Play a step from a world; the events of earlier steps are put aside. -/
def playStep (around : Surroundings) (step : Step) (world : World) : StepRecord × World :=
  let operation := Op.performStep around (Op.runBody around Op.maxDepth) step
  let (outcome, after) := operation.perform { world with trace := [] }
  (⟨outcome, Event.joinWrites after.trace⟩, after)

/-- Play steps one after another. -/
def playFrom (around : Surroundings) : List Step → World → List StepRecord × World
  | [], world => ([], world)
  | step :: rest, world =>
      let (record, world) := playStep around step world
      let (records, world) := playFrom around rest world
      (record :: records, world)

/-- Play a session from the empty world. -/
def play (around : Surroundings) (steps : List Step) : List StepRecord × World :=
  playFrom around steps {}

/-- The hosts that scripts know, each with its current module and its exports. -/
def hosts (world : World) : List (Text × CurrentModule × List (Text × SnapshotView)) :=
  world.labels.hosts.entries.map fun (label, ref) =>
    let host := world.hosts.read ref
    let exports := world.exports.read host.exports
    (label, Op.currentModule host world.labels,
      exports.sortedKeys.filterMap fun name =>
        (exports.get? name).map fun snapshot => (name, (world.snapshots.read snapshot).view))

/-- The modules that scripts know. -/
def modules (world : World) : List (Text × Module) :=
  world.labels.modules.entries.map fun (label, ref) => (label, world.modules.read ref)

end Session

end Switchboard
