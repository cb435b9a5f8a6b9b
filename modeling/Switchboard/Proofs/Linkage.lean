import Mathlib.Data.List.Find
import Switchboard.Proofs.Pairing

/-!
# Worlds that correspond in part

Host scripts that share a world may know nothing of each other. What one of them knows are its own
labels, the things that these lead to, and whatever can be reached from there. `Linked` says that
this part of two worlds is the same but for addresses, and `Spared` that what lies beside it in a
world is as it was. Both are kept when corresponding things are made, changed or labelled in the
two worlds; `Twins` has them together.
-/

namespace Switchboard

/-! ## Worlds by kind -/

namespace World

/-- Where the things of a kind are stored. -/
def store (world : World) : (kind : RefKind) → Store kind (Content kind)
  | .module => world.modules
  | .snapshot => world.snapshots
  | .exports => world.exports
  | .host => world.hosts

/-- The world with other things of a kind. -/
def withStore (world : World) : (kind : RefKind) → Store kind (Content kind) → World
  | .module, modules => { world with modules }
  | .snapshot, snapshots => { world with snapshots }
  | .exports, exports => { world with exports }
  | .host, hosts => { world with hosts }

/-- The labels of things of a kind. -/
def labelled (world : World) : (kind : RefKind) → Table (Ref kind)
  | .module => world.labels.modules
  | .snapshot => world.labels.snapshots
  | .exports => world.labels.exports
  | .host => world.labels.hosts

/-- The world with a thing more. -/
def allocate (world : World) (kind : RefKind) (content : Content kind) : World :=
  world.withStore kind ((world.store kind).allocate content)

/-- The world with other content at an address. -/
def write (world : World) (kind : RefKind) (ref : Ref kind) (content : Content kind) : World :=
  world.withStore kind ((world.store kind).write ref content)

/-- The world with a label more. -/
def label (world : World) (name : Text) : (kind : RefKind) → Ref kind → World
  | .module, ref =>
      { world with
        labels := { world.labels with modules := world.labels.modules.put name ref } }
  | .snapshot, ref =>
      { world with
        labels := { world.labels with snapshots := world.labels.snapshots.put name ref } }
  | .exports, ref =>
      { world with
        labels := { world.labels with exports := world.labels.exports.put name ref } }
  | .host, ref =>
      { world with labels := { world.labels with hosts := world.labels.hosts.put name ref } }

section

variable (world : World) (kind other : RefKind)

@[simp] theorem store_withStore_same (things : Store kind (Content kind)) :
    (world.withStore kind things).store kind = things := by
  cases kind <;> rfl

theorem store_withStore_other (things : Store kind (Content kind)) (different : other ≠ kind) :
    (world.withStore kind things).store other = world.store other := by
  cases kind <;> cases other <;> try rfl
  all_goals exact absurd rfl different

@[simp] theorem labelled_withStore (things : Store kind (Content kind)) :
    (world.withStore kind things).labelled = world.labelled := by
  cases kind <;> rfl

@[simp] theorem natives_withStore (things : Store kind (Content kind)) :
    (world.withStore kind things).natives = world.natives := by
  cases kind <;> rfl

@[simp] theorem store_label (name : Text) (ref : Ref kind) :
    (world.label name kind ref).store = world.store := by
  cases kind <;> rfl

@[simp] theorem natives_label (name : Text) (ref : Ref kind) :
    (world.label name kind ref).natives = world.natives := by
  cases kind <;> rfl

/-- A label more is among the labels of its own kind. -/
theorem labelled_label_same (name : Text) (ref : Ref kind) :
    (world.label name kind ref).labelled kind = (world.labelled kind).put name ref := by
  cases kind <;> rfl

theorem labelled_label_other (name : Text) (ref : Ref kind) (different : other ≠ kind) :
    (world.label name kind ref).labelled other = world.labelled other := by
  cases kind <;> cases other <;> try rfl
  all_goals exact absurd rfl different

end

/-! ## What stays in the stores -/

variable (world : World) {kind other : RefKind}

/-- Things in use stay when one more is made. -/
theorem read_allocate_old (content : Content kind) {ref : Ref other}
    (used : ref.address < (world.store other).size) :
    ((world.allocate kind content).store other).read ref = (world.store other).read ref := by
  by_cases same : other = kind
  · subst same
    rw [allocate, store_withStore_same, Store.read_allocate_old _ _ used]
  · rw [allocate, store_withStore_other _ _ _ _ same]

theorem read_allocate_next (content : Content kind) :
    ((world.allocate kind content).store kind).read (world.store kind).next = content := by
  rw [allocate, store_withStore_same, Store.read_allocate_next]

theorem size_allocate (content : Content kind) :
    ((world.allocate kind content).store kind).size = (world.store kind).size + 1 := by
  rw [allocate, store_withStore_same]
  rfl

theorem size_le_allocate (content : Content kind) :
    (world.store other).size ≤ ((world.allocate kind content).store other).size := by
  by_cases same : other = kind
  · subst same
    rw [size_allocate]
    exact Nat.le_succ _
  · rw [allocate, store_withStore_other _ _ _ _ same]

theorem read_write_same (ref : Ref kind) (content : Content kind) :
    ((world.write kind ref content).store kind).read ref = content := by
  rw [write, store_withStore_same, Store.read_write_same]

/-- What is written elsewhere leaves a thing alone. -/
theorem read_write_other {ref : Ref kind} (content : Content kind) {target : Ref other}
    (different : ∀ same : other = kind, same ▸ target ≠ ref) :
    ((world.write kind ref content).store other).read target = (world.store other).read target := by
  by_cases same : other = kind
  · subst same
    rw [write, store_withStore_same, Store.read_write_other _ _ (different rfl)]
  · rw [write, store_withStore_other _ _ _ _ same]

theorem size_write (ref : Ref kind) (content : Content kind) :
    ((world.write kind ref content).store other).size = (world.store other).size := by
  by_cases same : other = kind
  · subst same
    rw [write, store_withStore_same]
    rfl
  · rw [write, store_withStore_other _ _ _ _ same]

end World

/-! ## Linked worlds -/

/-- The part of two worlds that belongs to one script is the same but for addresses: its labels are
the same in the same order and lead to things that correspond, and these match. -/
structure Linked (own : Text → Bool) (pairing : Pairing) (here there : World) : Prop where
  used : ∀ {kind first second}, pairing.refs kind first second →
    first.address < (here.store kind).size ∧ second.address < (there.store kind).size
  usedNatives : ∀ {first second}, pairing.natives first second →
    first < here.natives ∧ second < there.natives
  unique : ∀ kind, OneToOne (pairing.refs kind)
  uniqueNatives : OneToOne pairing.natives
  contents : ∀ {kind first second}, pairing.refs kind first second →
    Content.Matches own pairing kind ((here.store kind).read first) ((there.store kind).read second)
  labels : ∀ kind, Pairs.Matches (pairing.refs kind) ((here.labelled kind).entries.among own)
    ((there.labelled kind).entries.among own)

namespace Linked

variable {own : Text → Bool} {pairing : Pairing} {here there : World}
  (linked : Linked own pairing here there)

include linked

/-- What an own label leads to corresponds. -/
theorem labelled {label : Text} (mine : own label = true) (kind : RefKind) :
    Option.Rel (pairing.refs kind) ((here.labelled kind).get? label)
      ((there.labelled kind).get? label) := by
  have found := (linked.labels kind).get? label
  rwa [Pairs.get?_among _ mine, Pairs.get?_among _ mine] at found

/-- An own label leads to a thing that has a counterpart. -/
theorem led {kind : RefKind} {entry : Text × Ref kind}
    (member : entry ∈ (here.labelled kind).entries) (mine : own entry.1 = true) :
    pairing.Here kind entry.2 :=
  (linked.labels kind).exists_of_mem (List.mem_filter.mpr ⟨member, mine⟩)

/-- Corresponding export tables are listed alike. -/
theorem listing {first second : ExportsRef} (paired : pairing.refs .exports first second) :
    ((here.exports.read first).sortedKeys.filterMap fun name =>
      ((here.exports.read first).get? name).map fun snapshot =>
        (name, (here.snapshots.read snapshot).view)) =
    (there.exports.read second).sortedKeys.filterMap fun name =>
      ((there.exports.read second).get? name).map fun snapshot =>
        (name, (there.snapshots.read snapshot).view) := by
  have tables : Table.Matches (pairing.refs .snapshot) (here.exports.read first)
      (there.exports.read second) := linked.contents paired
  rw [tables.sortedKeys]
  refine List.filterMap_congr fun name _ => optionRel_eq_iff.mp ?_
  refine optionRel_map (tables.get? name) fun {snapshot counterpart} snapshots => ?_
  have matched : Snapshot.Matches own pairing (here.snapshots.read snapshot)
      (there.snapshots.read counterpart) := linked.contents snapshots
  rw [matched.view]

/-- Matching things are made in both worlds. -/
theorem allocate (kind : RefKind) {content other : Content kind}
    (matched : Content.Matches own pairing kind content other) :
    Linked own (pairing.addRef (here.store kind).next (there.store kind).next)
      (here.allocate kind content) (there.allocate kind other) := by
  have grown := pairing.extends_addRef (here.store kind).next (there.store kind).next
  have fresh : ∀ {first second}, pairing.refs kind first second →
      first ≠ (here.store kind).next ∧ second ≠ (there.store kind).next := by
    intro first second paired
    obtain ⟨usedHere, usedThere⟩ := linked.used paired
    constructor
    · rintro rfl
      exact Nat.lt_irrefl _ usedHere
    · rintro rfl
      exact Nat.lt_irrefl _ usedThere
  constructor
  case used =>
    intro target first second paired
    cases paired with
    | old paired =>
      obtain ⟨usedHere, usedThere⟩ := linked.used paired
      exact ⟨Nat.lt_of_lt_of_le usedHere (here.size_le_allocate content),
        Nat.lt_of_lt_of_le usedThere (there.size_le_allocate other)⟩
    | new =>
      rw [here.size_allocate, there.size_allocate]
      exact ⟨Nat.lt_succ_self _, Nat.lt_succ_self _⟩
  case usedNatives =>
    intro first second paired
    rw [World.allocate, World.allocate, World.natives_withStore, World.natives_withStore]
    exact linked.usedNatives paired
  case unique =>
    intro target
    by_cases same : target = kind
    · subst same
      simp only [OneToOne, Pairing.refs_addRef_iff]
      exact (linked.unique target).insert (fun _ paired => (fresh paired).1 rfl)
        fun _ paired => (fresh paired).2 rfl
    · simp only [OneToOne, Pairing.refs_addRef_other_iff _ _ _ same]
      exact linked.unique target
  case uniqueNatives => exact linked.uniqueNatives
  case contents =>
    intro target first second paired
    cases paired with
    | old paired =>
      obtain ⟨usedHere, usedThere⟩ := linked.used paired
      rw [here.read_allocate_old content usedHere, there.read_allocate_old other usedThere]
      exact (linked.contents paired).mono grown
    | new =>
      rw [here.read_allocate_next, there.read_allocate_next]
      exact matched.mono grown
  case labels =>
    intro target
    rw [World.allocate, World.allocate, World.labelled_withStore, World.labelled_withStore]
    exact (linked.labels target).mono grown.refs

/-- Corresponding things change alike. -/
theorem write (kind : RefKind) {first second : Ref kind} (paired : pairing.refs kind first second)
    {content other : Content kind} (matched : Content.Matches own pairing kind content other) :
    Linked own pairing (here.write kind first content) (there.write kind second other) := by
  constructor
  case used =>
    intro target one another pairedToo
    rw [here.size_write, there.size_write]
    exact linked.used pairedToo
  case usedNatives =>
    intro one another pairedToo
    rw [World.write, World.write, World.natives_withStore, World.natives_withStore]
    exact linked.usedNatives pairedToo
  case unique => exact linked.unique
  case uniqueNatives => exact linked.uniqueNatives
  case contents =>
    intro target one another pairedToo
    by_cases same : target = kind
    · subst same
      have together := linked.unique target pairedToo paired
      by_cases changed : one = first
      · rw [changed, together.mp changed, here.read_write_same, there.read_write_same]
        exact matched
      · have unchanged : another ≠ second := fun equal => changed (together.mpr equal)
        rw [here.read_write_other content fun _ => changed,
          there.read_write_other other fun _ => unchanged]
        exact linked.contents pairedToo
    · rw [here.read_write_other content fun equal => absurd equal same,
        there.read_write_other other fun equal => absurd equal same]
      exact linked.contents pairedToo
  case labels =>
    intro target
    rw [World.write, World.write, World.labelled_withStore, World.labelled_withStore]
    exact linked.labels target

/-- Corresponding things get one label. -/
theorem label (kind : RefKind) {first second : Ref kind} (paired : pairing.refs kind first second)
    {name : Text} (mine : own name = true) :
    Linked own pairing (here.label name kind first) (there.label name kind second) := by
  constructor
  case used =>
    rw [World.store_label, World.store_label]
    exact linked.used
  case usedNatives =>
    rw [World.natives_label, World.natives_label]
    exact linked.usedNatives
  case unique => exact linked.unique
  case uniqueNatives => exact linked.uniqueNatives
  case contents =>
    rw [World.store_label, World.store_label]
    exact linked.contents
  case labels =>
    intro target
    by_cases same : target = kind
    · subst same
      rw [here.labelled_label_same, there.labelled_label_same, Table.put, Table.put,
        Pairs.among_put _ mine, Pairs.among_put _ mine]
      exact (linked.labels target).put name paired
    · rw [here.labelled_label_other _ _ _ _ same, there.labelled_label_other _ _ _ _ same]
      exact linked.labels target

/-- Both worlds have an identity more for functions. -/
theorem addNative :
    Linked own (pairing.addNative here.natives there.natives)
      { here with natives := here.natives + 1 } { there with natives := there.natives + 1 } := by
  have grown := pairing.extends_addNative here.natives there.natives
  refine { linked with usedNatives := ?_, uniqueNatives := ?_, contents := ?_ }
  · rintro first second (paired | ⟨rfl, rfl⟩)
    · obtain ⟨usedHere, usedThere⟩ := linked.usedNatives paired
      exact ⟨Nat.lt_succ_of_lt usedHere, Nat.lt_succ_of_lt usedThere⟩
    · exact ⟨Nat.lt_succ_self _, Nat.lt_succ_self _⟩
  · refine linked.uniqueNatives.insert ?_ ?_
    · exact fun other paired => Nat.lt_irrefl _ (linked.usedNatives paired).1
    · exact fun other paired => Nat.lt_irrefl _ (linked.usedNatives paired).2
  · exact fun paired => (linked.contents paired).mono grown

end Linked

/-! ## What lies beside -/

/-- What lies beside the part of a script in a world: things of others, among them every module
that is labelled with a label of others. -/
structure Beside (own : Text → Bool) where
  world : World
  refs : (kind : RefKind) → Ref kind → Prop
  led : ∀ {entry}, entry ∈ (world.labelled .module).entries → own entry.1 = false →
    refs .module entry.2

/-- What lies beside is as it was, and nothing but snapshots of it is used. -/
structure Spared {own : Text → Bool} (beside : Beside own)
    (mine : (kind : RefKind) → Ref kind → Prop) (world : World) : Prop where
  used : ∀ {kind ref}, beside.refs kind ref → ref.address < (world.store kind).size
  apart : ∀ {kind ref}, kind ≠ .snapshot → beside.refs kind ref → ¬ mine kind ref
  contents : ∀ {kind ref}, beside.refs kind ref →
    (world.store kind).read ref = (beside.world.store kind).read ref
  labels : ∀ kind, (world.labelled kind).entries.among (fun label => !own label) =
    (beside.world.labelled kind).entries.among fun label => !own label
  natives : beside.world.natives ≤ world.natives

namespace Spared

variable {own : Text → Bool} {beside : Beside own}
  {mine larger : (kind : RefKind) → Ref kind → Prop} {world : World}
  (spared : Spared beside mine world)

include spared

/-- A label of others leads to a module beside. -/
theorem led {entry : Text × ModuleRef} (member : entry ∈ (world.labelled .module).entries)
    (others : own entry.1 = false) : beside.refs .module entry.2 := by
  have kept : entry ∈ (world.labelled .module).entries.among fun label => !own label :=
    List.mem_filter.mpr ⟨member, by simp [others]⟩
  rw [spared.labels] at kept
  exact beside.led (List.mem_filter.mp kept).1 others

/-- The first label of an own module is the first of the own labels that leads to it. -/
theorem find?_among {ref : ModuleRef} (held : mine .module ref) :
    ((world.labelled .module).entries.among own).find? (fun entry => entry.2 = ref) =
      (world.labelled .module).entries.find? fun entry => entry.2 = ref := by
  rw [Pairs.among, List.find?_filter]
  refine List.find?_congr fun entry member => ?_
  cases others : own entry.1 with
  | true => simp
  | false =>
    have mutable : RefKind.module ≠ .snapshot := by simp
    have elsewhere : entry.2 ≠ ref := by
      rintro rfl
      exact spared.apart mutable (spared.led member others) held
    simp [elsewhere]

/-- A thing more, which was free before. -/
theorem allocate {kind : RefKind} (content : Content kind)
    (fresh : ∀ {other ref}, larger other ref →
      mine other ref ∨ (world.store other).size ≤ ref.address) :
    Spared beside larger (world.allocate kind content) := by
  constructor
  case used =>
    exact fun others => Nat.lt_of_lt_of_le (spared.used others) (world.size_le_allocate content)
  case apart =>
    intro target ref mutable others held
    rcases fresh held with old | new
    · exact spared.apart mutable others old
    · exact Nat.not_lt.mpr new (spared.used others)
  case contents =>
    intro target ref others
    rw [world.read_allocate_old content (spared.used others)]
    exact spared.contents others
  case labels =>
    rw [World.allocate, World.labelled_withStore]
    exact spared.labels
  case natives =>
    rw [World.allocate, World.natives_withStore]
    exact spared.natives

/-- An own thing changes that is no snapshot. -/
theorem write {kind : RefKind} (mutable : kind ≠ .snapshot) {ref : Ref kind} (held : mine kind ref)
    (content : Content kind) : Spared beside mine (world.write kind ref content) := by
  constructor
  case used =>
    intro target other others
    rw [world.size_write]
    exact spared.used others
  case apart => exact spared.apart
  case contents =>
    intro target other others
    rw [world.read_write_other content]
    · exact spared.contents others
    · rintro rfl rfl
      exact spared.apart mutable others held
  case labels =>
    rw [World.write, World.labelled_withStore]
    exact spared.labels
  case natives =>
    rw [World.write, World.natives_withStore]
    exact spared.natives

/-- An own label more. -/
theorem label {name : Text} (own : own name = true) (kind : RefKind) (ref : Ref kind) :
    Spared beside mine (world.label name kind ref) := by
  constructor
  case used =>
    rw [World.store_label]
    exact spared.used
  case apart => exact spared.apart
  case contents =>
    rw [World.store_label]
    exact spared.contents
  case labels =>
    intro target
    by_cases same : target = kind
    · subst same
      rw [world.labelled_label_same, Table.put, Pairs.among_put_other _ (by simp [own])]
      exact spared.labels target
    · rw [world.labelled_label_other _ _ _ _ same]
      exact spared.labels target
  case natives =>
    rw [World.natives_label]
    exact spared.natives

end Spared

/-- Where a script is linked, it stays so while it is spared by others. -/
theorem Linked.elsewhere {own others : Text → Bool} {pairing : Pairing} {here there after : World}
    (linked : Linked own pairing here there)
    (apart : ∀ label, own label = true → others label = false) {beside : Beside others}
    (before : beside.world = here)
    (held : ∀ {kind ref}, pairing.Here kind ref → beside.refs kind ref)
    {mine : (kind : RefKind) → Ref kind → Prop} (spared : Spared beside mine after) :
    Linked own pairing after there := by
  subst before
  refine { linked with used := ?_, usedNatives := ?_, contents := ?_, labels := ?_ }
  · exact fun paired => ⟨spared.used (held ⟨_, paired⟩), (linked.used paired).2⟩
  · intro first second paired
    obtain ⟨usedHere, usedThere⟩ := linked.usedNatives paired
    exact ⟨Nat.lt_of_lt_of_le usedHere spared.natives, usedThere⟩
  · intro kind first second paired
    rw [spared.contents (held ⟨_, paired⟩)]
    exact linked.contents paired
  · intro kind
    have fewer : ∀ label, own label = true → (!others label) = true := fun label mine => by
      rw [apart label mine]
      rfl
    rw [← Pairs.among_among (after.labelled kind).entries fewer, spared.labels,
      Pairs.among_among _ fewer]
    exact linked.labels kind

/-! ## Twin worlds -/

/-- What lies beside in each of two worlds. -/
structure Margins (own : Text → Bool) where
  here : Beside own
  there : Beside own

/-- Two linked worlds in which what lies beside is spared. -/
structure Twins {own : Text → Bool} (margins : Margins own) (pairing : Pairing)
    (here there : World) : Prop extends Linked own pairing here there where
  spared : Spared margins.here pairing.Here here
  sparedToo : Spared margins.there pairing.There there

namespace Twins

variable {own : Text → Bool} {margins : Margins own} {pairing : Pairing} {here there : World}
  (twins : Twins margins pairing here there)

include twins

/-- Matching things are made in both worlds. -/
theorem allocate (kind : RefKind) {content other : Content kind}
    (matched : Content.Matches own pairing kind content other) :
    Twins margins (pairing.addRef (here.store kind).next (there.store kind).next)
      (here.allocate kind content) (there.allocate kind other) where
  toLinked := twins.toLinked.allocate kind matched
  spared := twins.spared.allocate content fun ⟨_, paired⟩ => by
    cases paired with
    | old paired => exact .inl ⟨_, paired⟩
    | new => exact .inr (Nat.le_refl _)
  sparedToo := twins.sparedToo.allocate other fun ⟨_, paired⟩ => by
    cases paired with
    | old paired => exact .inl ⟨_, paired⟩
    | new => exact .inr (Nat.le_refl _)

/-- Corresponding things that are no snapshots change alike. -/
theorem write (kind : RefKind) (mutable : kind ≠ .snapshot) {first second : Ref kind}
    (paired : pairing.refs kind first second) {content other : Content kind}
    (matched : Content.Matches own pairing kind content other) :
    Twins margins pairing (here.write kind first content)
      (there.write kind second other) where
  toLinked := twins.toLinked.write kind paired matched
  spared := twins.spared.write mutable ⟨_, paired⟩ content
  sparedToo := twins.sparedToo.write mutable ⟨_, paired⟩ other

/-- Corresponding things get one label. -/
theorem label (kind : RefKind) {first second : Ref kind} (paired : pairing.refs kind first second)
    {name : Text} (mine : own name = true) :
    Twins margins pairing (here.label name kind first) (there.label name kind second) where
  toLinked := twins.toLinked.label kind paired mine
  spared := twins.spared.label mine kind first
  sparedToo := twins.sparedToo.label mine kind second

/-- Both worlds have an identity more for functions. -/
theorem addNative :
    Twins margins (pairing.addNative here.natives there.natives)
      { here with natives := here.natives + 1 } { there with natives := there.natives + 1 } where
  toLinked := twins.toLinked.addNative
  spared := { twins.spared with natives := Nat.le_succ_of_le twins.spared.natives }
  sparedToo := { twins.sparedToo with natives := Nat.le_succ_of_le twins.sparedToo.natives }

/-- Corresponding modules have one label. -/
theorem labelOf {first second : ModuleRef} (paired : pairing.refs .module first second) :
    Op.labelOf here.labels.modules first = Op.labelOf there.labels.modules second := by
  have found := (twins.labels .module).find? (twins.unique .module) paired
  rw [twins.spared.find?_among ⟨_, paired⟩, twins.sparedToo.find?_among ⟨_, paired⟩] at found
  unfold Op.labelOf
  change Option.Rel _ (here.labels.modules.entries.find? _) (there.labels.modules.entries.find? _)
    at found
  generalize here.labels.modules.entries.find? (fun entry => decide (entry.2 = first)) = one
    at found ⊢
  generalize there.labels.modules.entries.find? (fun entry => decide (entry.2 = second)) = other
    at found ⊢
  cases found with
  | none => rfl
  | some same => exact congrArg _ same

/-- Corresponding hosts work on modules that scripts know in the same way. -/
theorem currentModule {first second : HostRef} (paired : pairing.refs .host first second) :
    Op.currentModule (here.hosts.read first) here.labels =
      Op.currentModule (there.hosts.read second) there.labels := by
  have matched : Host.Matches pairing (here.hosts.read first) (there.hosts.read second) :=
    twins.contents paired
  have current := matched.current
  unfold Op.currentModule
  generalize (here.hosts.read first).current = one at current ⊢
  generalize (there.hosts.read second).current = other at current ⊢
  cases current with
  | none => rfl
  | some modules => exact twins.labelOf modules

/-- The own hosts have the same current modules and the same exports. -/
theorem hosts : Pairs.among (Session.hosts here) own = Pairs.among (Session.hosts there) own := by
  unfold Session.hosts Pairs.among
  rw [List.filter_map, List.filter_map, ← List.forall₂_eq_eq_eq, List.forall₂_map_left_iff,
    List.forall₂_map_right_iff]
  refine List.Forall₂.imp ?_ (twins.labels .host)
  rintro ⟨label, first⟩ ⟨_, second⟩ ⟨rfl, paired⟩
  have matched : Host.Matches pairing (here.hosts.read first) (there.hosts.read second) :=
    twins.contents paired
  have current := twins.currentModule paired
  have listed := twins.listing matched.exports
  dsimp only at current ⊢
  rw [current, listed]

/-- What the outside has seen does not matter. -/
theorem withTrace (past pastToo : List Event) :
    Twins margins pairing (here.withTrace past) (there.withTrace pastToo) where
  toLinked := { twins.toLinked with }
  spared := { twins.spared with }
  sparedToo := { twins.sparedToo with }

end Twins

end Switchboard
