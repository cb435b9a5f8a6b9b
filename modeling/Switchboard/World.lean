import Switchboard.World.Event

/-!
# The world

All state that operations share: modules, snapshots, export tables and hosts by address, the
labels of host scripts, the imported plugins, and the events so far. An `Op` is an operation
on the world that ends with a value or a failure and keeps its effects in either case.
-/

namespace Switchboard

/-! ## Storage -/

/-- Cells by address. Addresses from `size` on are free and hold the default value. -/
structure Store (kind : RefKind) (α : Type) where
  cells : Nat → α
  size : Nat

namespace Store

variable {kind : RefKind} {α : Type}

/-- The store in which every address is free. -/
def empty [Inhabited α] : Store kind α := ⟨fun _ => default, 0⟩

/-- The content of a cell. -/
def read (store : Store kind α) (ref : Ref kind) : α := store.cells ref.address

/-- Replace the content of a cell. -/
def write (store : Store kind α) (ref : Ref kind) (content : α) : Store kind α :=
  { store with
    cells := fun address => if address = ref.address then content else store.cells address }

/-- The address that the next allocation takes. -/
def next (store : Store kind α) : Ref kind := ⟨store.size⟩

/-- Fill the next free cell. -/
def allocate (store : Store kind α) (content : α) : Store kind α :=
  { store.write store.next content with size := store.size + 1 }

@[simp] theorem read_write_same (store : Store kind α) (ref : Ref kind) (content : α) :
    (store.write ref content).read ref = content := by
  simp [read, write]

theorem read_write_other (store : Store kind α) {ref other : Ref kind} (content : α)
    (different : other ≠ ref) : (store.write ref content).read other = store.read other := by
  have addresses : other.address ≠ ref.address := fun equal => different (by
    cases other; cases ref; simp_all)
  simp [read, write, addresses]

@[simp] theorem read_allocate_next (store : Store kind α) (content : α) :
    (store.allocate content).read store.next = content := by
  simp [read, allocate, write]

theorem read_allocate_other (store : Store kind α) (content : α) {ref : Ref kind}
    (different : ref ≠ store.next) : (store.allocate content).read ref = store.read ref :=
  read_write_other store content different

/-- Allocation leaves every cell in use as it was. -/
theorem read_allocate_old (store : Store kind α) (content : α) {ref : Ref kind}
    (used : ref.address < store.size) : (store.allocate content).read ref = store.read ref := by
  have different : ref ≠ store.next := by
    intro equal
    rw [equal, next] at used
    exact Nat.lt_irrefl _ used
  exact read_allocate_other store content different

end Store

/-! ## Hosts and labels -/

/-- A host: the export table it uses, what it reports, where it prints, and the module it
works on. -/
structure Host where
  exports : ExportsRef := ⟨0⟩
  reporting : Reporting := {}
  stream : Option Stream := none
  current : Option ModuleRef := none

instance : Inhabited Host := ⟨{}⟩

/-- The labels that host scripts have given. -/
structure Labels where
  modules : Table ModuleRef := .empty
  snapshots : Table SnapshotRef := .empty
  exports : Table ExportsRef := .empty
  hosts : Table HostRef := .empty

/-- How far the import of a plugin has come. A plugin is shadowed when one below it was
imported later under the name of its registration. -/
inductive ImportState where
  | loading
  | loaded
  | shadowed
  | failed
  deriving DecidableEq

/-- The state that operations share. -/
structure World where
  modules : Store .module Module := .empty
  snapshots : Store .snapshot Snapshot := .empty
  exports : Store .exports Exports := .empty
  hosts : Store .host Host := .empty
  natives : Nat := 0
  labels : Labels := {}
  imports : Table ImportState := .empty
  trace : List Event := []

/-! ## Operations -/

/-- An operation on the world. Its effects stay when it fails. -/
abbrev Op (α : Type) := ExceptT Failure (StateM World) α

namespace Op

/-- Carry out an operation. -/
def perform {α : Type} (operation : Op α) (world : World) : Except Failure α × World :=
  operation.run.run world

/-- Let the outside see an event. -/
def emit (event : Event) : Op Unit :=
  modify fun world => { world with trace := world.trace ++ [event] }

/-- Log a record. -/
def log (notice : Notice) : Op Unit := emit (.logged notice)

/-- Print a line to a stream, or to standard output when no stream is given. Every stream is taken
to hold every text: what becomes of lone surrogates is for its owner to say, as the command line
does for the lines of its own. -/
def printTo (stream : Option Stream) (line : Text) : Op Unit :=
  emit (.wrote (stream.getD .stdout) (line ++ [newline]))

/-- The module at an address. -/
def readModule (ref : ModuleRef) : Op Module := return (← get).modules.read ref

/-- Change the module at an address. -/
def updateModule (ref : ModuleRef) (change : Module → Module) : Op Unit :=
  modify fun world =>
    { world with modules := world.modules.write ref (change (world.modules.read ref)) }

/-- Make a new module. -/
def newModule (module : Module) : Op ModuleRef := do
  let ref := (← get).modules.next
  modify fun world => { world with modules := world.modules.allocate module }
  return ref

/-- The snapshot at an address. -/
def readSnapshot (ref : SnapshotRef) : Op Snapshot := return (← get).snapshots.read ref

/-- Make a new snapshot. Snapshots are never changed afterwards. -/
def newSnapshot (snapshot : Snapshot) : Op SnapshotRef := do
  let ref := (← get).snapshots.next
  modify fun world => { world with snapshots := world.snapshots.allocate snapshot }
  return ref

/-- The export table at an address. -/
def readExports (ref : ExportsRef) : Op Exports := return (← get).exports.read ref

/-- Make a new, empty export table. -/
def newExports : Op ExportsRef := do
  let ref := (← get).exports.next
  modify fun world => { world with exports := world.exports.allocate .empty }
  return ref

/-- The host at an address. -/
def readHost (ref : HostRef) : Op Host := return (← get).hosts.read ref

/-- Change the host at an address. -/
def updateHost (ref : HostRef) (change : Host → Host) : Op Unit :=
  modify fun world =>
    { world with hosts := world.hosts.write ref (change (world.hosts.read ref)) }

/-- Make a function with a new identity. -/
def newNative (action : NativeAction) : Op Native := do
  let identity := (← get).natives
  modify fun world => { world with natives := identity + 1 }
  return ⟨identity, action⟩

end Op

end Switchboard
