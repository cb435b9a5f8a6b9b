import Switchboard.Proofs.History

/-!
# What operations leave as it was

Some things about hosts and modules are settled once: the export table and the stream of a host
when it is made, the stream of a module when it is first given one, and that a host works on
some module once it has adopted one. `World.Persists` says that they still hold in a later
world. No operation breaks it, however it nests and whether it returns or fails
(`Op.persistent_discipline`).
-/

namespace Switchboard

/-- Whatever was settled about the hosts and modules of a world still holds in a later one. -/
structure World.Persists (before after : World) : Prop where
  hosts : before.hosts.size ≤ after.hosts.size
  modules : before.modules.size ≤ after.modules.size
  exports : ∀ {host : HostRef}, host.address < before.hosts.size →
    (after.hosts.read host).exports = (before.hosts.read host).exports
  stream : ∀ {host : HostRef}, host.address < before.hosts.size →
    (after.hosts.read host).stream = (before.hosts.read host).stream
  current : ∀ {host : HostRef}, host.address < before.hosts.size →
    (before.hosts.read host).current.isSome = true → (after.hosts.read host).current.isSome = true
  destination : ∀ {module : ModuleRef} {stream : Stream}, module.address < before.modules.size →
    (before.modules.read module).stream = some stream →
      (after.modules.read module).stream = some stream

namespace World

variable {before between after : World}

theorem Persists.refl (world : World) : world.Persists world where
  hosts := Nat.le_refl _
  modules := Nat.le_refl _
  exports _ := rfl
  stream _ := rfl
  current _ holds := holds
  destination _ holds := holds

theorem Persists.trans (first : before.Persists between) (second : between.Persists after) :
    before.Persists after where
  hosts := Nat.le_trans first.hosts second.hosts
  modules := Nat.le_trans first.modules second.modules
  exports used :=
    (second.exports (Nat.lt_of_lt_of_le used first.hosts)).trans (first.exports used)
  stream used := (second.stream (Nat.lt_of_lt_of_le used first.hosts)).trans (first.stream used)
  current used holds :=
    second.current (Nat.lt_of_lt_of_le used first.hosts) (first.current used holds)
  destination used holds :=
    second.destination (Nat.lt_of_lt_of_le used first.modules) (first.destination used holds)

/-- A module may be changed as long as it keeps a stream that it has. -/
theorem persists_changeModule (world : World) (ref : ModuleRef) (change : Module → Module)
    (keeps : ∀ {stream}, (world.modules.read ref).stream = some stream →
      (change (world.modules.read ref)).stream = some stream) :
    world.Persists
      { world with modules := world.modules.write ref (change (world.modules.read ref)) } := by
  refine { Persists.refl world with destination := ?_ }
  intro module stream _ given
  by_cases same : module = ref
  · subst same
    rw [Store.read_write_same]
    exact keeps given
  · rwa [Store.read_write_other _ _ same]

/-- A host may be changed as long as it keeps its exports and its stream and does not give up
working on a module. -/
theorem persists_changeHost (world : World) (ref : HostRef) (change : Host → Host)
    (exports : ∀ host, (change host).exports = host.exports)
    (stream : ∀ host, (change host).stream = host.stream)
    (current : ∀ host, host.current.isSome = true → (change host).current.isSome = true) :
    world.Persists
      { world with hosts := world.hosts.write ref (change (world.hosts.read ref)) } := by
  have settled : ∀ host : HostRef,
      (world.hosts.write ref (change (world.hosts.read ref))).read host = world.hosts.read host ∨
        (world.hosts.write ref (change (world.hosts.read ref))).read host =
          change (world.hosts.read host) := by
    intro host
    by_cases same : host = ref
    · subst same
      exact .inr (Store.read_write_same _ _ _)
    · exact .inl (Store.read_write_other _ _ same)
  refine { Persists.refl world with exports := ?_, stream := ?_, current := ?_ }
  · intro host _
    rcases settled host with same | changed
    · exact congrArg Host.exports same
    · exact (congrArg Host.exports changed).trans (exports _)
  · intro host _
    rcases settled host with same | changed
    · exact congrArg Host.stream same
    · exact (congrArg Host.stream changed).trans (stream _)
  · intro host _ holds
    rcases settled host with same | changed
    · exact (congrArg (·.current.isSome) same).trans holds
    · exact (congrArg (·.current.isSome) changed).trans (current _ holds)

/-- A host more. -/
theorem persists_addHost (world : World) (host : Host) :
    world.Persists { world with hosts := world.hosts.allocate host } := by
  have kept : ∀ {ref : HostRef}, ref.address < world.hosts.size →
      (world.hosts.allocate host).read ref = world.hosts.read ref :=
    fun used => Store.read_allocate_old _ _ used
  exact { Persists.refl world with
    hosts := Nat.le_succ _
    exports := fun used => congrArg Host.exports (kept used)
    stream := fun used => congrArg Host.stream (kept used)
    current := fun used holds => (congrArg (·.current.isSome) (kept used)).trans holds }

/-- A module more. -/
theorem persists_addModule (world : World) (module : Module) :
    world.Persists { world with modules := world.modules.allocate module } :=
  { Persists.refl world with
    modules := Nat.le_succ _
    destination := fun used holds =>
      (congrArg Module.stream (Store.read_allocate_old _ _ used)).trans holds }

/-- Steady changes leave settled things as they are. -/
theorem persists_apply (world : World) {change : Change} (steady : change.Steady) :
    world.Persists (world.apply change) := by
  cases change with
  | moduleMade module => exact world.persists_addModule module
  | moduleChanged ref change =>
    exact world.persists_changeModule ref change fun given => (steady _).trans given
  | hostMade host => exact world.persists_addHost host
  | hostChanged ref change =>
    apply world.persists_changeHost ref change
    · exact fun host => (steady host).1
    · exact fun host => (steady host).2.1
    · intro host working
      rwa [(steady host).2.2]
  | seen | unseen | snapshotMade | snapshotTaken | exportsMade | published | nativeMade
  | relabelled | importSet => exact { Persists.refl world with }

end World

namespace Op

/-- An operation after which everything that was settled still holds. -/
def Persistent {α : Type} (operation : Op α) : Prop :=
  ∀ world : World, world.Persists (operation.perform world).2

protected theorem Persistent.bind {α β : Type} {operation : Op α} {next : α → Op β}
    (first : operation.Persistent) (second : ∀ value, (next value).Persistent) :
    (operation >>= next).Persistent := by
  intro world
  have early := first world
  rw [perform_bind]
  rcases performed : operation.perform world with ⟨failure | value, between⟩ <;>
    rw [performed] at early
  · exact early
  · exact early.trans (second value between)

protected theorem Persistent.tryCatch {α : Type} {operation : Op α} {handler : Failure → Op α}
    (first : operation.Persistent) (second : ∀ failure, (handler failure).Persistent) :
    (tryCatch operation handler).Persistent := by
  intro world
  have early := first world
  rw [perform_tryCatch]
  rcases performed : operation.perform world with ⟨failure | value, between⟩ <;>
    rw [performed] at early
  · exact early.trans (second failure between)
  · exact early

/-- Leaving settled things as they are is founded on adoption and steady changes. -/
theorem persistent_groundwork : Groundwork fun _ operation => operation.Persistent where
  pure _ world := .refl world
  throw _ world := .refl world
  bind := .bind
  tryCatch := .tryCatch
  look continues _ world := continues world world
  make _ _ steady world := world.persists_apply steady
  adopt host module world := by
    -- a stream that the module has comes before the one of the host
    have adopted := world.persists_changeModule module
      (fun content => { content with stream := content.stream <|> (world.hosts.read host).stream })
      fun given => by simp [given]
    exact adopted.trans (World.persists_changeHost _ host
      (fun content => { content with current := some module }) (fun _ => rfl) (fun _ => rfl)
      fun _ _ => rfl)

/-- Leaving settled things as they are is a discipline. -/
theorem persistent_discipline :
    Discipline (fun _ operation => operation.Persistent)
      fun _ use => ∀ snapshot, (use snapshot).Persistent :=
  persistent_groundwork.discipline

/-- A host that has a module has one after every body, whether it returns or fails. -/
theorem current_after_runBody (around : Surroundings) (depth : Nat) (body : Body)
    {host : HostRef} {world : World} (used : host.address < world.hosts.size)
    (working : (world.hosts.read host).current ≠ none) :
    ∃ module, (((runBody around depth body).perform world).2.hosts.read host).current =
      some module := by
  have persists := persistent_discipline.runBody around depth body world
  have isSome := persists.current used (Option.isSome_iff_ne_none.mpr working)
  exact Option.isSome_iff_exists.mp isSome

end Op

end Switchboard
