import Switchboard.Proofs.Exitless

/-!
# Calm operations

Most of what hosts do bears neither on where text is printed nor on who has adopted what:
`World.Calm` says that streams, labels of hosts and modules and the number of both stay as they
are, and that nothing is written. `Op.Calm` operations make such changes only.
-/

namespace Switchboard

/-- A change that bears on nothing that deeds bear on, and that shows only log records and traces. -/
structure World.Calm (before after : World) : Prop where
  hosts : before.hosts.size = after.hosts.size
  stream : ∀ host, (after.hosts.read host).stream = (before.hosts.read host).stream
  hostLabels : after.labels.hosts = before.labels.hosts
  moduleLabels : after.labels.modules = before.labels.modules
  modules : after.modules.size = before.modules.size
  streams : ∀ module, (after.modules.read module).stream = (before.modules.read module).stream
  events : ∃ events, after.trace = before.trace ++ events ∧
    ∀ stream content, .wrote stream content ∉ events

namespace World.Calm

variable {before between after : World}

theorem refl (world : World) : world.Calm world :=
  ⟨rfl, fun _ => rfl, rfl, rfl, rfl, fun _ => rfl, [], (List.append_nil _).symm, nofun⟩

theorem trans (first : before.Calm between) (second : between.Calm after) : before.Calm after := by
  obtain ⟨shown, trace, calm⟩ := first.events
  obtain ⟨more, traceToo, calmToo⟩ := second.events
  refine ⟨first.hosts.trans second.hosts, fun host => (second.stream host).trans (first.stream host),
    second.hostLabels.trans first.hostLabels, second.moduleLabels.trans first.moduleLabels,
    second.modules.trans first.modules,
    fun module => (second.streams module).trans (first.streams module), shown ++ more, ?_, ?_⟩
  · rw [traceToo, trace, List.append_assoc]
  · intro stream content member
    rcases List.mem_append.mp member with old | new
    · exact calm stream content old
    · exact calmToo stream content new

/-- A module may be changed if it keeps its stream. -/
theorem changeModule (world : World) (ref : ModuleRef) (change : Module → Module)
    (keeps : ∀ module, (change module).stream = module.stream) :
    world.Calm
      { world with modules := world.modules.write ref (change (world.modules.read ref)) } := by
  refine { refl world with streams := fun module => ?_ }
  by_cases same : module = ref
  · rw [same, Store.read_write_same, keeps]
  · rw [Store.read_write_other _ _ same]

/-- A host may be changed if it keeps its stream. -/
theorem changeHost (world : World) (ref : HostRef) (change : Host → Host)
    (keeps : ∀ host, (change host).stream = host.stream) :
    world.Calm { world with hosts := world.hosts.write ref (change (world.hosts.read ref)) } := by
  refine { refl world with stream := fun host => ?_ }
  by_cases same : host = ref
  · rw [same, Store.read_write_same, keeps]
  · rw [Store.read_write_other _ _ same]

end World.Calm

namespace Op

variable {α β : Type} {operation : Op α} {next : α → Op β}

/-- An operation whose every change is calm. -/
def Calm (operation : Op α) : Prop := ∀ world : World, world.Calm (operation.perform world).2

namespace Calm

protected theorem bind (first : operation.Calm) (second : ∀ value, (next value).Calm) :
    (operation >>= next).Calm := by
  intro world
  have early := first world
  rw [perform_bind]
  rcases performed : operation.perform world with ⟨failure | value, between⟩ <;>
    rw [performed] at early
  · exact early
  · exact early.trans (second value between)

/-- An operation that leaves the world as it is. -/
theorem still (leaves : ∀ world, (operation.perform world).2 = world) : operation.Calm := by
  intro world
  rw [leaves world]
  exact .refl world

protected theorem pure (value : α) : (pure value : Op α).Calm := still fun _ => rfl

protected theorem throw (failure : Failure) : (throw failure : Op α).Calm := still fun _ => rfl

end Calm

theorem Looks.calm (looks : operation.Looks) : operation.Calm := .still looks.leaves

theorem calm_log (notice : Notice) : (log notice).Calm := fun world =>
  { World.Calm.refl world with events := ⟨[.logged notice], rfl, by simp⟩ }

theorem calm_updateModule (ref : ModuleRef) {change : Module → Module}
    (keeps : ∀ module, (change module).stream = module.stream) :
    (updateModule ref change).Calm :=
  fun world => .changeModule world ref change keeps

theorem calm_define (ref : ModuleRef) (name : Text) (action : Option NativeAction) :
    (define ref name action).Calm := by
  cases action with
  | none => exact calm_updateModule ref fun _ => rfl
  | some action =>
    have made : (newNative action).Calm := fun world => { World.Calm.refl world with }
    exact made.bind fun _ => calm_updateModule ref fun _ => rfl

theorem calm_defineAt (module function : Text) (body : Option Body) :
    (defineAt module function body).Calm :=
  (looks_moduleAt module).calm.bind fun _ => calm_define _ _ _

theorem calm_newSnapshot (snapshot : Snapshot) : (newSnapshot snapshot).Calm :=
  fun world => { World.Calm.refl world with }

theorem calm_takeSnapshot (source : ModuleRef) : (takeSnapshot source).Calm :=
  fun world => { World.Calm.refl world with }

theorem calm_publish (ref : ExportsRef) (name : Text) (snapshot : SnapshotRef) :
    (publish ref name snapshot).Calm := fun world =>
  { World.Calm.refl world with
    events := ⟨[.logged (.published name ((world.exports.read ref).contains name))], rfl,
      by simp⟩ }

theorem calm_relabel {change : Labels → Labels}
    (hosts : ∀ labels, (change labels).hosts = labels.hosts)
    (modules : ∀ labels, (change labels).modules = labels.modules) : (relabel change).Calm :=
  fun world =>
    { World.Calm.refl world with
      hostLabels := hosts world.labels
      moduleLabels := modules world.labels }

theorem calm_viewLabelled (label : Option Text) (ref : SnapshotRef) :
    (viewLabelled label ref).Calm := by
  cases label with
  | none => exact .still fun _ => rfl
  | some label =>
    have labelled : (relabel fun labels =>
        { labels with snapshots := labels.snapshots.put label ref }).Calm :=
      calm_relabel (fun _ => rfl) fun _ => rfl
    exact labelled.bind fun _ => .still fun _ => rfl

theorem calm_viewFound (label : Option Text) (found : Option SnapshotRef) :
    (viewFound label found).Calm := by
  cases found with
  | none => exact .pure _
  | some ref => exact calm_viewLabelled label ref

theorem calm_publishAt (exports : ExportsRef) (name : Text) (source : ExportLabel) :
    (publishAt exports name source).Calm := by
  cases source with
  | module label =>
    refine (looks_moduleAt label).calm.bind fun _ => (calm_takeSnapshot _).bind fun _ => ?_
    exact (calm_publish _ _ _).bind fun _ => .still fun _ => rfl
  | snapshot label =>
    refine (looks_snapshotAt label).calm.bind fun _ => (calm_publish _ _ _).bind fun _ => ?_
    exact .still fun _ => rfl

theorem calm_setReporting (host : HostRef) (reporting : Reporting) :
    (updateHost host fun content => { content with reporting }).Calm :=
  fun world => .changeHost world host (fun content => { content with reporting }) fun _ => rfl

theorem calm_setImport (name : Text) (state : ImportState) : (setImport name state).Calm :=
  fun world => { World.Calm.refl world with }

theorem calm_bindBelow (parent name : Text) : (bindBelow parent name).Calm := by
  unfold bindBelow
  split
  · refine .bind (.still fun _ => rfl) fun world => ?_
    split
    · exact calm_setImport _ _
    · exact .pure _
  · exact .pure _

/-- What an export does behind its callback. -/
theorem calm_exported (host : HostRef) (name : Text) : (do
    let state ← readHost host
    match state.current with
    | none =>
        log (.nothingToExport name)
        return none
    | some module =>
        let snapshot ← takeSnapshot module
        publish state.exports name snapshot
        return some snapshot : Op (Option SnapshotRef)).Calm := by
  refine .bind (.still fun _ => rfl) fun state => ?_
  split
  · exact (calm_log _).bind fun _ => .pure _
  · refine (calm_takeSnapshot _).bind fun _ => (calm_publish _ _ _).bind fun _ => .pure _

/-- What attaching a source does behind its callback. -/
theorem calm_sourced (host : HostRef) (source : Text) : (do
    match (← readHost host).current with
    | none => return ()
    | some module => updateModule module fun content => { content with script := source.trim } :
      Op Unit).Calm := by
  refine .bind (.still fun _ => rfl) fun state => ?_
  split
  · exact .pure _
  · exact calm_updateModule _ fun _ => rfl

end Op

end Switchboard
