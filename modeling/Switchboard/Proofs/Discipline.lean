import Switchboard.Proofs.Listing
import Switchboard.Session

/-!
# Disciplines of operations

A discipline is a property of operations that every primitive operation has and that
sequencing and catching keep. Everything that hosts, engines, plugins and scripts do is put
together from primitive operations in these two ways, so that `Op.Discipline.runBody` holds:
a host script, however deeply it nests, keeps every discipline. A statement about all
operations is proved by showing that it is a discipline.

Where a snapshot is stored and in which order names were exported is nothing that operations
make use of. A discipline may rest on this: operations that are handed a snapshot have a
property of their own, and what is read is the same in `World.Alike` worlds.
-/

namespace Switchboard

/-! ## Relocated worlds -/

/-- Which snapshots of two worlds correspond. No snapshot has two counterparts. -/
structure Relocation where
  Relates : SnapshotRef → SnapshotRef → Prop
  unique : ∀ {first second other another}, Relates first second → Relates other another →
    (first = other ↔ second = another)

namespace Relocation

/-- Every snapshot stays where it is. -/
def stay : Relocation where
  Relates := Eq
  unique := by rintro first _ other _ rfl rfl; exact Iff.rfl

theorem stay_rel (found : Option SnapshotRef) : Option.Rel stay.Relates found found := by
  cases found with
  | none => exact .none
  | some => exact .some rfl

/-- What corresponding entries lead to is the same when corresponding snapshots lead to the
same. -/
theorem map_eq {relocation : Relocation} {β : Type} {here there : Option SnapshotRef}
    (related : Option.Rel relocation.Relates here there) {first second : SnapshotRef → β}
    (agrees : ∀ {one other}, relocation.Relates one other → first one = second other) :
    here.map first = there.map second := by
  cases related with
  | some related => rw [Option.map_some, Option.map_some, agrees related]
  | none => rfl

end Relocation

/-- Two worlds that differ in nothing but the trace, the order of exports and the addresses of
snapshots. Snapshots that are made from now on correspond in the order in which they are
made. -/
structure World.Alike (relocation : Relocation) (first second : World) : Prop where
  modules : first.modules = second.modules
  snapshots : ∀ {here there}, relocation.Relates here there →
    first.snapshots.read here = second.snapshots.read there
  fresh : ∀ count,
    relocation.Relates ⟨first.snapshots.size + count⟩ ⟨second.snapshots.size + count⟩
  exports : ∀ ref name, Option.Rel relocation.Relates ((first.exports.read ref).get? name)
    ((second.exports.read ref).get? name)
  exportsSize : first.exports.size = second.exports.size
  hosts : first.hosts = second.hosts
  natives : first.natives = second.natives
  moduleLabels : first.labels.modules = second.labels.modules
  snapshotLabels : ∀ label, Option.Rel relocation.Relates (first.labels.snapshots.get? label)
    (second.labels.snapshots.get? label)
  exportsLabels : first.labels.exports = second.labels.exports
  hostLabels : first.labels.hosts = second.labels.hosts
  imports : first.imports = second.imports

/-- Alike worlds have exports under the same names. -/
theorem World.Alike.sameKeys {relocation : Relocation} {first second : World}
    (alike : World.Alike relocation first second) (ref : ExportsRef) :
    (first.exports.read ref).SameKeys (second.exports.read ref) := by
  intro name
  have shown : ((first.exports.read ref).get? name).map (fun _ => ()) =
      ((second.exports.read ref).get? name).map fun _ => () :=
    Relocation.map_eq (alike.exports ref name) fun _ => rfl
  simpa only [Option.isSome_map, Table.contains] using congrArg Option.isSome shown

/-- The labels with other labels for snapshots. -/
def Labels.withSnapshots (labels : Labels) (snapshots : Table SnapshotRef) : Labels :=
  { labels with snapshots }

/-- A change apart from the labels of snapshots leaves those as they are. -/
theorem Labels.snapshots_eq_of_apart {change : Labels → Labels} (apart : ∀ labels snapshots,
    change (withSnapshots labels snapshots) = (change labels).withSnapshots snapshots)
    (labels : Labels) : (change labels).snapshots = labels.snapshots := by
  have same : change labels = (change labels).withSnapshots labels.snapshots :=
    apart labels labels.snapshots
  rw [same, withSnapshots]

namespace Op

/-! ## What a discipline is -/

/-- A property of operations that the primitive ones have and that sequencing and catching
keep. `Uniform` is the property for operations that are handed a snapshot: no operation makes
anything of where a snapshot is stored. Reading may depend on what alike worlds have in
common, and a module that is changed keeps its stream unless a host adopts it. -/
structure Discipline (Keeps : (α : Type) → Op α → Prop)
    (Uniform : (α : Type) → (SnapshotRef → Op α) → Prop) : Prop where
  pure : ∀ {α : Type} (value : α), Keeps α (pure value)
  throw : ∀ {α : Type} (failure : Failure), Keeps α (throw failure)
  bind : ∀ {α β : Type} {operation : Op α} {next : α → Op β}, Keeps α operation →
    (∀ value, Keeps β (next value)) → Keeps β (operation >>= next)
  tryCatch : ∀ {α : Type} {operation : Op α} {handler : Failure → Op α}, Keeps α operation →
    (∀ failure, Keeps α (handler failure)) → Keeps α (tryCatch operation handler)
  look : ∀ {α : Type} {next : World → Op α}, (∀ world, Keeps α (next world)) →
    (∀ relocation first second, World.Alike relocation first second →
      next first = next second) → Keeps α (get >>= next)
  emit : ∀ event, Keeps Unit (emit event)
  newModule : ∀ module, Keeps ModuleRef (newModule module)
  changeModule : ∀ ref {change : Module → Module},
    (∀ module, (change module).stream = module.stream) → Keeps Unit (updateModule ref change)
  newSnapshot : ∀ {α : Type} {use : SnapshotRef → Op α} snapshot, Uniform α use →
    Keeps α (newSnapshot snapshot >>= use)
  takeSnapshot : ∀ {α : Type} {use : SnapshotRef → Op α} source, Uniform α use →
    Keeps α (takeSnapshot source >>= use)
  findSnapshot : ∀ {α : Type} {use : SnapshotRef → Op α} label, Uniform α use →
    Keeps α (snapshotAt label >>= use)
  findExport : ∀ {α : Type} {use : Option SnapshotRef → Op α} ref name, Keeps α (use none) →
    Uniform α (fun snapshot => use (some snapshot)) →
      Keeps α (readExports ref >>= fun exports => use (exports.get? name))
  regardless : ∀ {α : Type} {operation : Op α}, Keeps α operation →
    Uniform α fun _ => operation
  handOn : ∀ {α β : Type} {use : SnapshotRef → Op α} {next : α → SnapshotRef → Op β},
    Uniform α use → (∀ value, Uniform β (next value)) →
      Uniform β fun snapshot => use snapshot >>= fun value => next value snapshot
  readSnapshot : Uniform Snapshot readSnapshot
  compareSnapshot : ∀ {α : Type} {next : Bool → Op α} label, (∀ same, Keeps α (next same)) →
    Uniform α fun snapshot => snapshotAt label >>= fun other => next (decide (snapshot = other))
  publish : ∀ ref name, Uniform Unit (publish ref name)
  labelSnapshot : ∀ label, Uniform Unit fun snapshot => relabel fun labels =>
    { labels with snapshots := labels.snapshots.put label snapshot }
  newExports : Keeps ExportsRef newExports
  placeHost : ∀ host, Keeps HostRef (do
    let ref := (← get).hosts.next
    modify fun world => { world with hosts := world.hosts.allocate host }
    return ref)
  setReporting : ∀ ref reporting,
    Keeps Unit (updateHost ref fun content => { content with reporting })
  adopt : ∀ host module, Keeps Unit (adopt host module)
  newNative : ∀ action, Keeps Native (newNative action)
  relabel : ∀ {change : Labels → Labels}, (∀ labels snapshots,
    change (labels.withSnapshots snapshots) = (change labels).withSnapshots snapshots) →
      Keeps Unit (relabel change)
  setImport : ∀ name state, Keeps Unit (setImport name state)

namespace Discipline

variable {Keeps : (α : Type) → Op α → Prop} {Uniform : (α : Type) → (SnapshotRef → Op α) → Prop}
  (discipline : Discipline Keeps Uniform)

include discipline

/-! ## Reading -/

/-- Reading what alike worlds have in common keeps the discipline. -/
theorem read {α : Type} {view : World → α}
    (agrees : ∀ relocation first second, World.Alike relocation first second →
      view first = view second) :
    Keeps α (do return view (← get)) :=
  discipline.look (fun _ => discipline.pure _) fun relocation first second alike =>
    congrArg Pure.pure (agrees relocation first second alike)

/-- Returning something that an operation came to keeps the discipline of the operation. -/
theorem returning {α β : Type} {operation : Op α} {view : α → β}
    (carried : Keeps α operation) : Keeps β (do return view (← operation)) :=
  discipline.bind carried fun _ => discipline.pure _

theorem readModule (ref : ModuleRef) : Keeps Module (readModule ref) :=
  discipline.read fun _ _ _ alike => by rw [alike.modules]

theorem readHost (ref : HostRef) : Keeps Host (readHost ref) :=
  discipline.read fun _ _ _ alike => by rw [alike.hosts]

/-- Going on from the names of an export table keeps the discipline. -/
theorem readNames {α : Type} (ref : ExportsRef) {next : Exports → Op α}
    (continues : ∀ exports, Keeps α (next exports))
    (agrees : ∀ first second : Exports, first.SameKeys second → next first = next second) :
    Keeps α (readExports ref >>= next) :=
  discipline.look (fun world => continues (world.exports.read ref)) fun _ _ _ alike =>
    agrees _ _ (alike.sameKeys ref)

/-- Going on from one entry of an export table keeps the discipline. -/
theorem readEntry {α : Type} (ref : ExportsRef) (name : Text) {next : Exports → Op α}
    (agrees : ∀ first second : Exports, first.get? name = second.get? name →
      next first = next second)
    (absent : Keeps α (next .empty))
    (present : Uniform α fun snapshot => next (Table.empty.put name snapshot)) :
    Keeps α (Op.readExports ref >>= next) := by
  let use : Option SnapshotRef → Op α := fun found =>
    next (found.elim .empty (Table.empty.put name))
  have through : ∀ exports : Exports, next exports = use (exports.get? name) := by
    intro exports
    refine agrees _ _ ?_
    cases exports.get? name with
    | none => rfl
    | some snapshot => rw [Option.elim_some, Table.get?_put, if_pos rfl]
  rw [funext through]
  exact discipline.findExport ref name absent present

/-- Going on from the content of a snapshot is the same wherever it is stored. -/
theorem viewing {α : Type} {next : Snapshot → Op α}
    (continues : ∀ content, Keeps α (next content)) :
    Uniform α fun snapshot => Op.readSnapshot snapshot >>= next :=
  discipline.handOn discipline.readSnapshot fun content => discipline.regardless (continues content)

theorem log (notice : Notice) : Keeps Unit (log notice) :=
  discipline.emit _

theorem printTo (stream : Option Stream) (line : Text) :
    Keeps Unit (printTo stream line) := discipline.emit _

omit discipline in
theorem ite {α : Type} {condition : Prop} [Decidable condition]
    {first second : Op α} (holds : Keeps α first) (fails : Keeps α second) :
    Keeps α (if condition then first else second) := by
  split
  · exact holds
  · exact fails

/-! ## Modules -/

theorem attach (ref : ModuleRef) (code : Text)
    (stream : Option Stream) : Keeps (Option Text) (attach ref code stream) := by
  refine discipline.bind (discipline.readModule ref) fun module => ?_
  split
  · exact discipline.pure _
  · exact ite
      (discipline.bind (discipline.printTo _ _) fun _ => discipline.pure _) (discipline.pure _)

theorem attachScript (ref : ModuleRef) :
    Keeps (Option Text) (attachScript ref) :=
  discipline.bind (discipline.readModule ref) fun _ => discipline.attach _ _ _

theorem define (ref : ModuleRef) (name : Text)
    (action : Option NativeAction) : Keeps Unit (define ref name action) := by
  unfold Op.define
  split
  · exact discipline.changeModule ref fun _ => rfl
  · exact discipline.bind (discipline.newNative _) fun _ =>
      discipline.changeModule ref fun _ => rfl

section

variable {enter : Enter} (natives : ∀ native, Keeps Unit (enter native))

include natives

/-- The functions of a table keep a discipline when all native functions do. -/
theorem invoke (functions : FunctionTable)
    (owner : Option Text) (name : Text) : Keeps Bool (invoke enter functions owner name) := by
  unfold Op.invoke
  split
  · exact discipline.bind (discipline.log _) fun _ => discipline.pure _
  · exact discipline.bind (natives _) fun _ => discipline.pure _

theorem invokeSnapshot (name : Text) :
    Uniform Bool fun snapshot => invokeSnapshot enter snapshot name :=
  discipline.viewing fun _ => discipline.invoke natives _ _ _

/-! ## Runs -/

omit natives in
theorem diagnose (tally : Tally) (diagnostic : Diagnostic) :
    Keeps Tally (Engine.diagnose tally diagnostic) :=
  discipline.bind (discipline.log _) fun _ => discipline.pure _

theorem callFunction (engine : Engine) (module function : Text)
    (tally : Tally) : Keeps Tally (engine.callFunction enter module function tally) := by
  refine discipline.readEntry _ module (fun _ _ same => by simp only [same]) ?_ ?_
  · exact ite (discipline.diagnose _ _)
      (discipline.bind (discipline.log _) fun _ => discipline.pure _)
  · simp only [Table.get?_put, if_true]
    exact discipline.handOn (discipline.invokeSnapshot natives _) fun _ =>
      discipline.regardless (ite (discipline.pure _) (discipline.pure _))

theorem call (engine : Engine) (index : Nat)
    (instruction : Instruction) (tally : Tally) :
    Keeps Tally (engine.call enter index instruction tally) := by
  unfold Engine.call
  split
  · exact discipline.diagnose _ _
  · split
    · exact discipline.diagnose _ _
    · exact discipline.callFunction natives _ _ _ _
  · exact discipline.diagnose _ _

theorem step (engine : Engine) (index : Nat)
    (item : Item) (tally : Tally) : Keeps Progress (engine.step enter index item tally) := by
  unfold Engine.step
  split
  · exact discipline.bind (discipline.diagnose _ _) fun _ => discipline.pure _
  · refine ite
      (discipline.bind (discipline.call natives _ _ _ _) fun _ => discipline.pure _) ?_
    refine ite ?_
      (discipline.bind (discipline.diagnose _ _) fun _ => discipline.pure _)
    exact ite
      (discipline.bind (discipline.printTo _ _) fun _ => discipline.pure _) (discipline.pure _)

theorem runFrom (engine : Engine) (index : Nat)
    (program : Program) (tally : Tally) :
    Keeps RunResult (engine.runFrom enter index program tally) := by
  induction program generalizing index tally with
  | nil => exact discipline.pure _
  | cons item rest inductionHypothesis =>
    refine discipline.bind (discipline.step natives engine index item tally) fun progress => ?_
    cases progress with
    | goesOn tally => exact inductionHypothesis _ _
    | exits code tally => exact discipline.pure _

/-- A run keeps a discipline when the native functions that it may enter do. -/
theorem run (engine : Engine) (program : Program) :
    Keeps RunResult (engine.run enter program) := by
  refine discipline.bind (discipline.runFrom natives engine 0 program {}) fun result => ?_
  cases result with
  | completed => exact discipline.pure _
  | exited => exact discipline.throw _

end

/-! ## Hosts -/

theorem newHost (exports : Option ExportsRef) (reporting : Reporting)
    (stream : Option Stream) : Keeps HostRef (newHost exports reporting stream) := by
  have placed := fun used => discipline.placeHost ⟨used, reporting, stream, none⟩
  cases exports
  case' none =>
    refine discipline.bind (discipline.pure _) fun given => ?_
  case' some ref =>
    refine discipline.readNames ref (fun table => ?_) fun _ _ same => by simp only [same.size_eq]
    refine discipline.bind (discipline.pure _) fun given => ?_
  -- in both cases a host without exports of its own gets new ones
  all_goals
    cases given with
    | none => exact discipline.bind discipline.newExports placed
    | some ref => exact discipline.bind (discipline.pure ref) placed

theorem attachSource (host : HostRef) {callback : Op Text} (called : Keeps Text callback) :
    Keeps Unit (attachSource host callback) := by
  refine discipline.bind (discipline.readHost host) fun state => ?_
  split
  · exact discipline.log _
  · refine discipline.bind called fun source => ?_
    refine discipline.bind (discipline.readHost host) fun state => ?_
    split
    · exact discipline.pure _
    · exact discipline.changeModule _ fun _ => rfl

/-- Exporting keeps the discipline when what goes on is the same for every snapshot. -/
theorem exportCurrent {α : Type} (host : HostRef) {callback : Op Unit}
    (called : Keeps Unit callback) (name : Text) {use : Option SnapshotRef → Op α}
    (absent : Keeps α (use none)) (present : Uniform α fun snapshot => use (some snapshot)) :
    Keeps α (Op.exportCurrent host callback name >>= use) := by
  rw [Op.exportCurrent, bind_assoc]
  refine discipline.bind called fun _ => ?_
  rw [bind_assoc]
  refine discipline.bind (discipline.readHost host) fun state => ?_
  split
  · rw [bind_assoc]
    exact discipline.bind (discipline.log _) fun _ => absent
  · simp only [bind_assoc, pure_bind]
    refine discipline.takeSnapshot _ ?_
    exact discipline.handOn (discipline.publish _ _) fun _ => present

/-- Importing keeps the discipline when what goes on is the same for every snapshot. -/
theorem importExport {α : Type} (host : HostRef) (name : Text) {use : Option SnapshotRef → Op α}
    (absent : Keeps α (use none)) (present : Uniform α fun snapshot => use (some snapshot)) :
    Keeps α (Op.importExport host name >>= use) := by
  rw [Op.importExport, bind_assoc]
  refine discipline.bind (discipline.readHost host) fun state => ?_
  exact discipline.findExport state.exports name absent present

theorem callDirect {enter : Enter} (natives : ∀ native, Keeps Unit (enter native))
    (host : HostRef) (module function : Text) :
    Keeps Bool (callDirect enter host module function) := by
  refine discipline.importExport host module (discipline.pure _) ?_
  refine discipline.viewing fun snapshot => ?_
  split
  · exact discipline.pure _
  · exact discipline.throw _
  · exact discipline.bind (natives _) fun _ => discipline.pure _

theorem exit (host : HostRef) (code : Value) : Keeps Unit (exit host code) := by
  refine discipline.bind (discipline.readHost host) fun state => ?_
  exact ite (discipline.bind (discipline.printTo _ _) fun _ => discipline.throw _)
    (discipline.throw _)

theorem runProgram {enter : Enter} (natives : ∀ native, Keeps Unit (enter native))
    (host : HostRef) (program : Program) : Keeps RunResult (runProgram enter host program) := by
  refine discipline.bind ?_ fun engine => discipline.run natives engine program
  exact discipline.bind (discipline.readHost host) fun _ => discipline.pure _

/-! ## Plugins -/

section

variable {run : Body → Op Unit} (bodies : ∀ body, Keeps Unit (run body))

include bodies

omit bodies in
theorem isImported (name : Text) : Keeps Bool (isImported name) :=
  discipline.read fun _ _ _ alike => by rw [alike.imports]

omit bodies in
theorem bindBelow (parent name : Text) : Keeps Unit (bindBelow parent name) := by
  refine ite ?_ (discipline.pure _)
  refine discipline.look (fun world => ?_) fun _ _ _ alike => by rw [alike.imports]
  split
  · exact discipline.setImport _ _
  · exact discipline.pure _

theorem importPlugin (catalogue : Catalogue) (name : Text) (parent : Option Text) :
    Keeps Unit (importPlugin catalogue run name parent) := by
  have imported : ∀ (plugin : Plugin) {ending : Op Unit}, Keeps Unit ending →
      Keeps Unit (do
        Op.setImport name .loading
        MonadExcept.tryCatch (run plugin.onImport) fun failure => do
          Op.setImport name .failed
          MonadExcept.throw failure
        Op.setImport name .loaded
        ending) := by
    intro plugin ending kept
    refine discipline.bind (discipline.setImport _ _) fun _ => ?_
    refine discipline.bind (discipline.tryCatch (bodies _) fun failure => ?_) fun _ => ?_
    · exact discipline.bind (discipline.setImport _ _) fun _ => discipline.throw _
    · exact discipline.bind (discipline.setImport _ _) fun _ => kept
  unfold Op.importPlugin
  cases parent with
  | none =>
    cases catalogue.find? name with
    | none => exact discipline.throw _
    | some plugin => exact imported plugin (discipline.pure _)
  | some parent =>
    -- the parent decides only whether a throw comes first
    refine ite ?_ (discipline.bind (discipline.throw _) fun _ => ?_)
    all_goals
      cases catalogue.find? name with
      | none => exact discipline.throw _
      | some plugin => exact imported plugin (discipline.bindBelow _ _)

theorem importAncestry (catalogue : Catalogue) (names : List Text) :
    Keeps Unit (importAncestry catalogue run names) := by
  induction names with
  | nil => exact discipline.pure _
  | cons name parents inductionHypothesis =>
    refine discipline.bind (discipline.isImported name) fun _ => ?_
    refine ite (discipline.pure _) ?_
    refine discipline.bind inductionHypothesis fun _ => ?_
    refine discipline.bind (discipline.isImported name) fun _ => ?_
    exact ite (discipline.pure _) (discipline.importPlugin bodies _ _ _)

theorem importName (catalogue : Catalogue) (name : Text) :
    Keeps Unit (importName catalogue run name) := by
  unfold Op.importName
  split
  · exact discipline.throw _
  · exact ite (discipline.throw _) (discipline.importAncestry bodies _ _)

omit bodies in
theorem registration (catalogue : Catalogue) (name : Text) :
    Keeps Registration (registration catalogue name) := by
  refine discipline.look (fun world => ?_) fun _ _ _ alike => by rw [alike.imports]
  split <;> exact discipline.pure _

omit bodies in
theorem registerGreeter (host : HostRef) : Keeps Unit (registerGreeter host) := by
  refine discipline.bind (discipline.newModule _) fun greeter => ?_
  refine discipline.bind ?_ fun _ => ?_
  · refine discipline.bind (discipline.adopt _ _) fun _ => ?_
    exact discipline.bind (discipline.define _ _ _) fun _ => discipline.define _ _ _
  refine discipline.bind (discipline.attachSource host (discipline.pure _)) fun _ => ?_
  exact discipline.exportCurrent host (discipline.pure _) _ (discipline.pure _)
    (discipline.regardless (discipline.pure _))

theorem register (host : HostRef) (plugin : Text) (offered : Registration) :
    Keeps Unit (register run host plugin offered) := by
  cases offered with
  | absent => exact discipline.throw _
  | notCallable => exact discipline.throw _
  | greeter => exact discipline.registerGreeter host
  | script body =>
    have labelled : Keeps Unit (Op.relabel fun labels =>
        { labels with hosts := labels.hosts.put registeringHost host }) :=
      discipline.relabel fun _ _ => rfl
    exact discipline.bind labelled fun _ => bodies body

theorem loadPlugin (catalogue : Catalogue) (host : HostRef) (name : Text) :
    Keeps Unit (loadPlugin catalogue run host name) := by
  refine discipline.bind ?_ fun _ => ?_
  · refine discipline.tryCatch (discipline.importName bodies _ _) fun failure => ?_
    exact ite (discipline.throw _) (discipline.throw _)
  · refine discipline.bind (discipline.registration _ _) fun offered => ?_
    exact discipline.bind (discipline.register bodies _ _ _) fun _ => discipline.log _

end

/-! ## Labels -/

theorem resolve {α : Type} (labels : Table α) (label : Text) : Keeps α (resolve labels label) := by
  unfold Op.resolve
  split
  · exact discipline.pure _
  · exact discipline.throw _

theorem moduleAt (label : Text) : Keeps ModuleRef (moduleAt label) :=
  discipline.look (fun _ => discipline.resolve _ _) fun _ _ _ alike => by rw [alike.moduleLabels]

theorem hostAt (label : Text) : Keeps HostRef (hostAt label) :=
  discipline.look (fun _ => discipline.resolve _ _) fun _ _ _ alike => by rw [alike.hostLabels]

theorem exportsAt (label : ExportsLabel) : Keeps ExportsRef (exportsAt label) := by
  cases label with
  | exports label =>
    exact discipline.look (fun _ => discipline.resolve _ _) fun _ _ _ alike => by
      rw [alike.exportsLabels]
  | ofHost label =>
    exact discipline.bind (discipline.hostAt label) fun _ =>
      discipline.bind (discipline.readHost _) fun _ => discipline.pure _

/-- The export table that a label is known to lead to. -/
theorem exported (label : Text) :
    Keeps (Option ExportsRef) (some <$> Op.exportsAt (.exports label)) := by
  rw [map_eq_pure_bind]
  exact discipline.returning (discipline.exportsAt _)

theorem viewLabelled (label : Option Text) : Uniform StepResult (viewLabelled label) := by
  have viewed : Uniform StepResult fun ref => do return .snapshot (← Op.readSnapshot ref).view :=
    discipline.viewing fun _ => discipline.pure _
  cases label with
  | none => exact viewed
  | some label => exact discipline.handOn (discipline.labelSnapshot label) fun _ => viewed

/-! ## Scripts -/

theorem listExports (ref : ExportsRef) :
    Keeps (List (Text × SnapshotView)) (listExports ref) := by
  refine discipline.look (fun _ => discipline.pure _) fun relocation first second alike => ?_
  have views : ∀ name, ((first.exports.read ref).get? name).map
        (fun snapshot => (name, (first.snapshots.read snapshot).view)) =
      ((second.exports.read ref).get? name).map
        (fun snapshot => (name, (second.snapshots.read snapshot).view)) :=
    fun name => Relocation.map_eq (alike.exports ref name) fun related => by
      rw [alike.snapshots related]
  simp only [(alike.sameKeys ref).sortedKeys_eq, views]

theorem programOf (files : FileSystem) (source : ProgramSource) (modelled : Bool) :
    Keeps Program (programOf files source modelled) := by
  cases source with
  | values items => exact discipline.pure _
  | file path =>
    unfold Op.programOf
    dsimp only
    split
    · exact discipline.pure _
    · exact discipline.bind (discipline.throw _) fun _ => discipline.pure _

theorem publishAt (exports : ExportsRef) (name : Text) (source : ExportLabel) :
    Keeps StepResult (publishAt exports name source) := by
  cases source with
  | module label =>
    refine discipline.bind (discipline.moduleAt label) fun _ => discipline.takeSnapshot _ ?_
    exact discipline.handOn (discipline.publish _ _) fun _ =>
      discipline.viewing fun _ => discipline.pure _
  | snapshot label =>
    refine discipline.findSnapshot label (discipline.handOn (discipline.publish _ _) fun _ => ?_)
    exact discipline.viewing fun _ => discipline.pure _

theorem defineAt (module function : Text) (body : Option Body) :
    Keeps Unit (defineAt module function body) :=
  discipline.bind (discipline.moduleAt module) fun _ => discipline.define _ _ _

section

variable {run : Body → Op Unit} (bodies : ∀ body, Keeps Unit (run body))

include bodies

/-- Native functions keep a discipline when the bodies that they run do. -/
theorem enterNative (native : Native) : Keeps Unit (enterNative run native) := by
  unfold Op.enterNative
  split
  · exact bodies _
  · exact discipline.printTo _ _
  · exact discipline.bind (discipline.attachScript _) fun _ => discipline.pure _

theorem enterCallback (body : Option Body) : Keeps Unit (enterCallback run body) := by
  cases body with
  | none => exact discipline.throw _
  | some body => exact bodies body

/-- One step of a host script keeps a discipline when the bodies inside it do. -/
theorem performStep (around : Surroundings) (step : Step) :
    Keeps StepResult (performStep around run step) := by
  have natives := discipline.enterNative bodies
  cases step with
  | note | print => exact discipline.returning (discipline.emit _)
  | raise => exact discipline.throw _
  | attempt body =>
    exact discipline.tryCatch (discipline.returning (bodies body)) fun _ => discipline.pure _
  | newModule =>
    exact discipline.bind (discipline.newModule _) fun _ =>
      discipline.returning (discipline.relabel fun _ _ => rfl)
  | define | decorate => exact discipline.returning (discipline.defineAt _ _ _)
  | setScript module | setEcho module =>
    exact discipline.bind (discipline.moduleAt module) fun ref =>
      discipline.returning (discipline.changeModule ref fun _ => rfl)
  | attach module =>
    exact discipline.bind (discipline.moduleAt module) fun _ =>
      discipline.returning (discipline.attach _ _ _)
  | attachScript module =>
    exact discipline.bind (discipline.moduleAt module) fun _ =>
      discipline.returning (discipline.attachScript _)
  | invoke module =>
    refine discipline.bind (discipline.moduleAt module) fun _ => discipline.returning ?_
    exact discipline.bind (discipline.readModule _) fun _ => discipline.invoke natives _ _ _
  | compareModules first second =>
    refine discipline.bind (discipline.moduleAt first) fun _ => ?_
    refine discipline.bind (discipline.readModule _) fun _ => ?_
    exact discipline.bind (discipline.moduleAt second) fun _ =>
      discipline.returning (discipline.readModule _)
  | takeSnapshot module =>
    exact discipline.bind (discipline.moduleAt module) fun _ =>
      discipline.takeSnapshot _ (discipline.viewLabelled _)
  | newSnapshot => exact discipline.newSnapshot _ (discipline.viewLabelled _)
  | invokeSnapshot snapshot =>
    refine discipline.findSnapshot snapshot ?_
    exact discipline.handOn (discipline.invokeSnapshot natives _) fun _ =>
      discipline.regardless (discipline.pure _)
  | hasFunction snapshot =>
    exact discipline.findSnapshot snapshot (discipline.viewing fun _ => discipline.pure _)
  | viewSnapshot snapshot =>
    exact discipline.findSnapshot snapshot (discipline.viewLabelled _)
  | compareSnapshots first second =>
    refine discipline.findSnapshot first (discipline.viewing fun _ => ?_)
    exact discipline.findSnapshot second (discipline.viewing fun _ => discipline.pure _)
  | sameSnapshot first second =>
    exact discipline.findSnapshot first
      (discipline.compareSnapshot second fun _ => discipline.pure _)
  | assignField snapshot | assignFunction snapshot =>
    refine discipline.bind ?_ fun _ => discipline.throw _
    exact discipline.findSnapshot snapshot (discipline.regardless (discipline.pure _))
  | newExports =>
    exact discipline.bind discipline.newExports fun _ =>
      discipline.returning (discipline.relabel fun _ _ => rfl)
  | labelExports host =>
    refine discipline.bind (discipline.hostAt host) fun _ => ?_
    exact discipline.bind (discipline.readHost _) fun _ =>
      discipline.returning (discipline.relabel fun _ _ => rfl)
  | sameExports host exports =>
    refine discipline.bind (discipline.hostAt host) fun _ => ?_
    exact discipline.bind (discipline.readHost _) fun _ =>
      discipline.returning (discipline.exportsAt _)
  | publish exports =>
    exact discipline.bind (discipline.exportsAt exports) fun _ => discipline.publishAt _ _ _
  | lookup exports name label =>
    refine discipline.bind (discipline.exportsAt exports) fun ref => ?_
    exact discipline.findExport ref name (discipline.pure _) (discipline.viewLabelled label)
  | listNames exports =>
    refine discipline.bind (discipline.exportsAt exports) fun ref => ?_
    exact discipline.readNames ref (fun _ => discipline.pure _) fun _ _ same => by
      simp only [same.sortedKeys_eq]
  | countNames exports =>
    refine discipline.bind (discipline.exportsAt exports) fun ref => ?_
    exact discipline.readNames ref (fun _ => discipline.pure _) fun _ _ same => by
      simp only [same.size_eq]
  | containsName exports name =>
    refine discipline.bind (discipline.exportsAt exports) fun ref => ?_
    exact discipline.readNames ref (fun _ => discipline.pure _) fun _ _ same => by
      simp only [same name]
  | listExports exports =>
    exact discipline.bind (discipline.exportsAt exports) fun _ =>
      discipline.returning (discipline.listExports _)
  | newHost label exports reporting stream =>
    have made : ∀ given, Keeps StepResult (do
        let ref ← Op.newHost given reporting stream
        Op.relabel fun labels => { labels with hosts := labels.hosts.put label ref }
        return .nothing) := fun given =>
      discipline.bind (discipline.newHost given reporting stream) fun _ =>
        discipline.returning (discipline.relabel fun _ _ => rfl)
    cases exports with
    | none => exact made none
    | some given => exact discipline.bind (discipline.exported given) made
  | setReporting host =>
    exact discipline.bind (discipline.hostAt host) fun _ =>
      discipline.returning (discipline.setReporting _ _)
  | adopt host module =>
    refine discipline.bind (discipline.hostAt host) fun _ => ?_
    exact discipline.bind (discipline.moduleAt module) fun _ =>
      discipline.returning (discipline.adopt _ _)
  | build host module body =>
    refine discipline.bind (discipline.hostAt host) fun _ => ?_
    refine discipline.bind (discipline.moduleAt module) fun _ => discipline.returning ?_
    exact discipline.bind (discipline.adopt _ _) fun _ => discipline.enterCallback bodies body
  | attachSource host source body =>
    refine discipline.bind (discipline.hostAt host) fun _ => discipline.returning ?_
    exact discipline.attachSource _ (discipline.returning (bodies body))
  | exportCurrent host body =>
    refine discipline.bind (discipline.hostAt host) fun _ => ?_
    exact discipline.exportCurrent _ (discipline.enterCallback bodies body) _
      (discipline.pure _) (discipline.viewLabelled _)
  | importExport host =>
    refine discipline.bind (discipline.hostAt host) fun _ => ?_
    exact discipline.importExport _ _ (discipline.pure _) (discipline.viewLabelled _)
  | call host =>
    exact discipline.bind (discipline.hostAt host) fun _ =>
      discipline.returning (discipline.callDirect natives _ _ _)
  | exit host =>
    exact discipline.bind (discipline.hostAt host) fun _ =>
      discipline.returning (discipline.exit _ _)
  | run host =>
    refine discipline.bind (discipline.hostAt host) fun _ => ?_
    exact discipline.bind (discipline.programOf _ _ _) fun _ =>
      discipline.returning (discipline.runProgram natives _ _)
  | execute exports =>
    refine discipline.bind (discipline.exportsAt exports) fun _ => ?_
    exact discipline.bind (discipline.programOf _ _ _) fun _ =>
      discipline.returning (discipline.run natives _ _)
  | loadPlugin host =>
    exact discipline.bind (discipline.hostAt host) fun _ =>
      discipline.returning (discipline.loadPlugin bodies _ _ _)
  | current host =>
    refine discipline.bind (discipline.hostAt host) fun _ => ?_
    refine discipline.bind (discipline.readHost _) fun _ => ?_
    exact discipline.look (fun _ => discipline.pure _) fun _ _ _ alike => by
      simp only [currentModule, alike.moduleLabels]

theorem performAll (around : Surroundings) (body : Body) :
    Keeps Unit (performAll around run body) := by
  induction body with
  | nil => exact discipline.pure _
  | cons entry rest inductionHypothesis =>
    obtain ⟨tag, step⟩ := entry
    refine discipline.bind (discipline.performStep bodies around step) fun result => ?_
    cases tag with
    | none => exact inductionHypothesis
    | some label => exact discipline.bind (discipline.emit _) fun _ => inductionHypothesis

end

/-- Every host script keeps every discipline. -/
theorem runBody (around : Surroundings) (depth : Nat) (body : Body) :
    Keeps Unit (runBody around depth body) := by
  induction depth generalizing body with
  | zero => exact discipline.throw _
  | succ depth inductionHypothesis =>
    exact discipline.performAll inductionHypothesis around body

end Discipline

end Op

end Switchboard
