import Switchboard.Script

/-!
# Modules

A module is a named table of native functions with an attached script. `Module` is the form
under construction; `Snapshot` is the immutable copy that is exported. Functions are told
apart by identity, never by what they do.
-/

namespace Switchboard

/-- The kinds of thing that live at an address. -/
inductive RefKind where
  | module
  | snapshot
  | exports
  | host

/-- The address of a thing of some kind. -/
structure Ref (kind : RefKind) where
  address : Nat
  deriving DecidableEq

/-- The address of a module. -/
abbrev ModuleRef := Ref .module

/-- The address of a snapshot. -/
abbrev SnapshotRef := Ref .snapshot

/-- The address of an export table. -/
abbrev ExportsRef := Ref .exports

/-- The address of a host. -/
abbrev HostRef := Ref .host

/-- What a native function does: run a script, print a line, or attach the script of a module
to that module. -/
inductive NativeAction where
  | script (body : Body)
  | say (line : Text)
  | attachScript (module : ModuleRef)

/-- A native function. Every definition makes a function with an identity of its own. -/
structure Native where
  identity : Nat
  action : NativeAction

/-- The functions of a module by name. A name may be present without a function. -/
abbrev FunctionTable := Table (Option Native)

namespace FunctionTable

/-- The function to run for a name, if the name has one. -/
def function? (functions : FunctionTable) (name : Text) : Option Native :=
  (functions.get? name).join

/-- The identity under a name; a name without a function has none. -/
def identity? (functions : FunctionTable) (name : Text) : Option (Option Nat) :=
  (functions.get? name).map fun function => function.map Native.identity

/-- Whether two tables have the same names with the same functions, in whatever order. -/
def same (first second : FunctionTable) : Bool :=
  first.size == second.size &&
    first.keys.all fun name => first.identity? name == second.identity? name

end FunctionTable

/-- A module under construction. -/
structure Module where
  name : Option Text := none
  functions : FunctionTable := .empty
  script : Text := []
  echo : Bool := true
  stream : Option Stream := none

instance : Inhabited Module := ⟨{}⟩

/-- An exported module: the name, functions and script that its source had. -/
structure Snapshot where
  name : Option Text := none
  functions : FunctionTable := .empty
  script : Text := []

instance : Inhabited Snapshot := ⟨{}⟩

/-- The exported modules by export name. -/
abbrev Exports := Table SnapshotRef

/-- What a snapshot shows of itself: its functions by name, in code point order. -/
structure SnapshotView where
  name : Option Text
  functions : List Text
  script : Text
  deriving DecidableEq

namespace Module

/-- Put a function under a name, in place of any earlier one. -/
def define (module : Module) (name : Text) (function : Option Native) : Module :=
  { module with functions := module.functions.put name function }

/-- The immutable copy of a module. -/
def snapshot (module : Module) : Snapshot := ⟨module.name, module.functions, module.script⟩

/-- Equality of modules: everything but the stream. -/
def same (first second : Module) : Bool :=
  first.name = second.name && first.functions.same second.functions &&
    first.script = second.script && first.echo = second.echo

end Module

namespace Snapshot

/-- Equality of snapshots. -/
def same (first second : Snapshot) : Bool :=
  first.functions.same second.functions && first.script = second.script &&
    first.name = second.name

/-- Whether a name is in the table, with or without a function. -/
def hasFunction (snapshot : Snapshot) (name : Text) : Bool := snapshot.functions.contains name

/-- The snapshot as it shows itself. -/
def view (snapshot : Snapshot) : SnapshotView :=
  ⟨snapshot.name, snapshot.functions.sortedKeys, snapshot.script⟩

end Snapshot

end Switchboard
