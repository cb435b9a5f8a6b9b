import Switchboard.Proofs.Indifference

/-!
# The order of exports

Two sequences of exports that agree on what is exported last under each name lead to alike
worlds, in whatever order the names are exported and however often (`Op.exportAll_alike`).
The snapshots that they take of modules lie at different addresses; that those addresses can
be matched rests on every snapshot that a world refers to being in use, which holds in every
session (`Session.playFrom_sound`).
-/

namespace Switchboard

/-! ## Worlds without dangling references -/

/-- Every snapshot that is exported or labelled is in use, and nothing is stored beyond. -/
structure World.Sound (world : World) : Prop where
  exported : ∀ {ref name snapshot}, (world.exports.read ref).get? name = some snapshot →
    snapshot.address < world.snapshots.size
  labelled : ∀ {label snapshot}, world.labels.snapshots.get? label = some snapshot →
    snapshot.address < world.snapshots.size
  vacant : ∀ {ref : SnapshotRef}, world.snapshots.size ≤ ref.address →
    world.snapshots.read ref = default

/-- The world after an operation is sound and has the snapshots of the one before. -/
structure World.Grows (before after : World) : Prop where
  sound : after.Sound
  size : before.snapshots.size ≤ after.snapshots.size

namespace World

variable {world before between after : World}

theorem Sound.grows (sound : world.Sound) : world.Grows world := ⟨sound, Nat.le_refl _⟩

theorem Grows.trans (first : before.Grows between) (second : between.Grows after) :
    before.Grows after := ⟨second.sound, Nat.le_trans first.size second.size⟩

/-- A snapshot more. -/
theorem Sound.addSnapshot (sound : world.Sound) (snapshot : Snapshot) :
    world.Grows { world with snapshots := world.snapshots.allocate snapshot } where
  sound :=
    { exported := fun found => Nat.lt_succ_of_lt (sound.exported found)
      labelled := fun found => Nat.lt_succ_of_lt (sound.labelled found)
      vacant := by
        intro ref beyond
        have different : ref ≠ world.snapshots.next := by
          rintro rfl
          exact Nat.not_succ_le_self _ beyond
        exact (Store.read_allocate_other _ _ different).trans
          (sound.vacant (Nat.le_of_succ_le beyond)) }
  size := Nat.le_succ _

/-- An export of a snapshot in use. -/
theorem Sound.publish (sound : world.Sound) {snapshot : SnapshotRef}
    (used : snapshot.address < world.snapshots.size) (ref : ExportsRef) (name : Text) :
    Sound { world with
      exports := world.exports.write ref ((world.exports.read ref).put name snapshot) } := by
  refine { sound with exported := ?_ }
  intro target other found
  by_cases same : target = ref
  · intro entry
    rw [same, Store.read_write_same, Table.get?_put] at entry
    split at entry
    · cases entry
      exact used
    · exact sound.exported entry
  · intro entry
    rw [Store.read_write_other _ _ same] at entry
    exact sound.exported entry

/-- A label for a snapshot in use. -/
theorem Sound.labelSnapshot (sound : world.Sound) {snapshot : SnapshotRef}
    (used : snapshot.address < world.snapshots.size) (label : Text) :
    Sound { world with
      labels := { world.labels with snapshots := world.labels.snapshots.put label snapshot } } := by
  refine { sound with labelled := ?_ }
  intro other found entry
  rw [Table.get?_put] at entry
  split at entry
  · cases entry
    exact used
  · exact sound.labelled entry

/-- An export table more. -/
theorem Sound.addExports (sound : world.Sound) :
    Sound { world with exports := world.exports.allocate .empty } := by
  refine { sound with exported := ?_ }
  intro target name snapshot found
  by_cases new : target = world.exports.next
  · rw [new, Store.read_allocate_next] at found
    cases found
  · rw [Store.read_allocate_other _ _ new] at found
    exact sound.exported found

end World

namespace Op

/-- Soundness goes on from what the first operation left. -/
theorem grows_bind {α β : Type} {operation : Op α} {next : α → Op β} {world : World}
    (grown : world.Grows (operation.perform world).2)
    (continues : ∀ value between, world.Grows between →
      between.Grows ((next value).perform between).2) :
    world.Grows ((operation >>= next).perform world).2 := by
  rw [perform_bind]
  rcases performed : operation.perform world with ⟨failure | value, between⟩
  · rwa [performed] at grown
  · rw [performed] at grown
    exact grown.trans (continues value between grown)

/-- Soundness is kept by every operation. -/
theorem sound_discipline :
    Discipline (fun _ operation => ∀ world : World, world.Sound →
        world.Grows (operation.perform world).2)
      fun _ use => ∀ (snapshot : SnapshotRef) (world : World), world.Sound →
        snapshot.address < world.snapshots.size →
          world.Grows ((use snapshot).perform world).2 where
  pure _ _ sound := sound.grows
  throw _ _ sound := sound.grows
  bind starts continues world sound :=
    grows_bind (starts world sound) fun value between grown => continues value between grown.sound
  tryCatch {_ operation _} starts handles world sound := by
    have grown := starts world sound
    rw [perform_tryCatch]
    rcases performed : operation.perform world with ⟨failure | value, between⟩
    · rw [performed] at grown
      exact grown.trans (handles failure between grown.sound)
    · rwa [performed] at grown
  look continues _ world sound := continues world world sound
  emit _ _ sound := ⟨{ sound with }, Nat.le_refl _⟩
  newModule _ _ sound := ⟨{ sound with }, Nat.le_refl _⟩
  changeModule _ _ _ _ sound := ⟨{ sound with }, Nat.le_refl _⟩
  newSnapshot snapshot uses world sound :=
    (sound.addSnapshot snapshot).trans
      (uses _ _ (sound.addSnapshot snapshot).sound (Nat.lt_succ_self _))
  takeSnapshot source uses world sound :=
    (sound.addSnapshot _).trans (uses _ _ (sound.addSnapshot _).sound (Nat.lt_succ_self _))
  findSnapshot label uses world sound := by
    rw [perform_findSnapshot]
    cases found : world.labels.snapshots.get? label with
    | none => exact sound.grows
    | some snapshot => exact uses snapshot world sound (sound.labelled found)
  findExport ref name absent uses world sound := by
    rw [perform_findExport]
    cases found : (world.exports.read ref).get? name with
    | none => exact absent world sound
    | some snapshot => exact uses snapshot world sound (sound.exported found)
  regardless kept _ world sound _ := kept world sound
  handOn uses continues snapshot world sound used :=
    grows_bind (uses snapshot world sound used) fun value between grown =>
      continues value snapshot between grown.sound (Nat.lt_of_lt_of_le used grown.size)
  readSnapshot _ _ sound _ := sound.grows
  compareSnapshot label continues snapshot world sound used := by
    rw [perform_findSnapshot]
    cases world.labels.snapshots.get? label with
    | none => exact sound.grows
    | some other => exact continues _ world sound
  publish ref name snapshot world sound used :=
    ⟨{ sound.publish used ref name with }, Nat.le_refl _⟩
  labelSnapshot label snapshot world sound used :=
    ⟨sound.labelSnapshot used label, Nat.le_refl _⟩
  newExports _ sound := ⟨sound.addExports, Nat.le_refl _⟩
  placeHost _ _ sound := ⟨{ sound with }, Nat.le_refl _⟩
  setReporting _ _ _ sound := ⟨{ sound with }, Nat.le_refl _⟩
  adopt _ _ _ sound := ⟨{ sound with }, Nat.le_refl _⟩
  newNative _ _ sound := ⟨{ sound with }, Nat.le_refl _⟩
  relabel {relabelled} apart world sound := by
    refine ⟨{ sound with labelled := ?_ }, Nat.le_refl _⟩
    intro label snapshot found
    have kept : (relabelled world.labels).snapshots = world.labels.snapshots :=
      Labels.snapshots_eq_of_apart apart world.labels
    exact sound.labelled (kept ▸ found)
  setImport _ _ _ sound := ⟨{ sound with }, Nat.le_refl _⟩

end Op

/-- Every session leaves a sound world. -/
theorem Session.playFrom_sound (around : Surroundings) (steps : List Step) {world : World}
    (sound : world.Sound) : (Session.playFrom around steps world).2.Sound := by
  have discipline := Op.sound_discipline
  induction steps generalizing world with
  | nil => exact sound
  | cons step rest inductionHypothesis =>
    have bodies := discipline.runBody around Op.maxDepth
    have grown := discipline.performStep bodies around step (world.withTrace []) { sound with }
    exact inductionHypothesis grown.sound

theorem World.empty_sound : World.Sound {} where
  exported := nofun
  labelled := nofun
  vacant _ := rfl

/-! ## Sequences of exports -/

/-- What is exported: a module, of which a snapshot is taken, or a snapshot. -/
inductive ExportSource where
  | module (ref : ModuleRef)
  | snapshot (ref : SnapshotRef)

/-- What is exported last under a name. -/
def lastSource? (sequence : List (Text × ExportSource)) (name : Text) : Option ExportSource :=
  (sequence.reverse.find? fun entry => entry.1 = name).map Prod.snd

theorem lastSource?_append (earlier : List (Text × ExportSource)) (name : Text)
    (source : ExportSource) (other : Text) :
    lastSource? (earlier ++ [(name, source)]) other =
      if name = other then some source else lastSource? earlier other := by
  simp only [lastSource?, List.reverse_append, List.reverse_singleton, List.singleton_append,
    List.find?_cons]
  by_cases same : name = other
  · simp [same]
  · simp [same]

namespace Op

/-- Export a module or a snapshot under a name. -/
def exportAs (ref : ExportsRef) (name : Text) : ExportSource → Op Unit
  | .module source => do publish ref name (← takeSnapshot source)
  | .snapshot snapshot => publish ref name snapshot

/-- Export one after another. -/
def exportAll (ref : ExportsRef) : List (Text × ExportSource) → Op Unit
  | [] => return ()
  | (name, source) :: rest => do
      exportAs ref name source
      exportAll ref rest

end Op

/-- What stands under a name once a source was exported there: what stood there before, the
snapshot itself, or a snapshot of the module that was not in use before. -/
inductive Fulfils (start world : World) (before : Option SnapshotRef) :
    Option ExportSource → Option SnapshotRef → Prop where
  | kept : Fulfils start world before none before
  | given {snapshot : SnapshotRef} (used : snapshot.address < start.snapshots.size) :
      Fulfils start world before (some (.snapshot snapshot)) (some snapshot)
  | taken {source : ModuleRef} {snapshot : SnapshotRef}
      (new : start.snapshots.size ≤ snapshot.address)
      (used : snapshot.address < world.snapshots.size)
      (copied : world.snapshots.read snapshot = (start.modules.read source).snapshot) :
      Fulfils start world before (some (.module source)) (some snapshot)

/-- What stands under a name stays when no snapshot in use changes. -/
theorem Fulfils.later {start world later : World} {before found : Option SnapshotRef}
    {source : Option ExportSource} (fulfils : Fulfils start world before source found)
    (size : world.snapshots.size ≤ later.snapshots.size)
    (kept : ∀ {snapshot : SnapshotRef}, snapshot.address < world.snapshots.size →
      later.snapshots.read snapshot = world.snapshots.read snapshot) :
    Fulfils start later before source found := by
  cases fulfils with
  | kept => exact .kept
  | given used => exact .given used
  | taken new used copied =>
    exact .taken new (Nat.lt_of_lt_of_le used size) ((kept used).trans copied)

/-- How a sequence of exports changes a world: nothing but the entries of one table, which
hold what was exported last, and new snapshots, one for each name under which a module was
exported last. -/
structure Exported (ref : ExportsRef) (start : World)
    (sequence : List (Text × ExportSource)) (world : World) : Prop where
  modules : world.modules = start.modules
  hosts : world.hosts = start.hosts
  natives : world.natives = start.natives
  labels : world.labels = start.labels
  imports : world.imports = start.imports
  exportsSize : world.exports.size = start.exports.size
  elsewhere : ∀ {other}, other ≠ ref → world.exports.read other = start.exports.read other
  sound : world.Sound
  size : start.snapshots.size ≤ world.snapshots.size
  old : ∀ {snapshot : SnapshotRef}, snapshot.address < start.snapshots.size →
    world.snapshots.read snapshot = start.snapshots.read snapshot
  entries : ∀ name, Fulfils start world ((start.exports.read ref).get? name)
    (lastSource? sequence name) ((world.exports.read ref).get? name)
  distinct : ∀ {name other source another snapshot},
    lastSource? sequence name = some (.module source) →
    lastSource? sequence other = some (.module another) →
    (world.exports.read ref).get? name = some snapshot →
    (world.exports.read ref).get? other = some snapshot → name = other

namespace Exported

variable {ref : ExportsRef} {start world : World} {sequence : List (Text × ExportSource)}

/-- Nothing was exported yet. -/
theorem begin (sound : start.Sound) : Exported ref start [] start where
  modules := rfl
  hosts := rfl
  natives := rfl
  labels := rfl
  imports := rfl
  exportsSize := rfl
  elsewhere _ := rfl
  sound := sound
  size := Nat.le_refl _
  old _ := rfl
  entries _ := .kept
  distinct := nofun

/-- A snapshot more changes no entry. -/
theorem addSnapshot (exported : Exported ref start sequence world) (snapshot : Snapshot) :
    Exported ref start sequence
      { world with snapshots := world.snapshots.allocate snapshot } := by
  have grown := exported.sound.addSnapshot snapshot
  have kept : ∀ {found : SnapshotRef}, found.address < world.snapshots.size →
      (world.snapshots.allocate snapshot).read found = world.snapshots.read found :=
    fun used => Store.read_allocate_old _ _ used
  refine { exported with sound := grown.sound, size := ?_, old := ?_, entries := ?_ }
  · exact Nat.le_trans exported.size grown.size
  · intro found used
    exact (kept (Nat.lt_of_lt_of_le used exported.size)).trans (exported.old used)
  · intro name
    exact (exported.entries name).later grown.size kept

/-- A snapshot that a source leads to is published under a name. -/
theorem publish (exported : Exported ref start sequence world) (name : Text)
    {source : ExportSource} {snapshot : SnapshotRef}
    (used : snapshot.address < world.snapshots.size)
    (fulfils : ∀ before, Fulfils start world before (some source) (some snapshot))
    (fresh : ∀ module, source = .module module → ∀ other,
      (world.exports.read ref).get? other ≠ some snapshot) :
    Exported ref start (sequence ++ [(name, source)])
      (world.apply (.published ref name snapshot)) := by
  have entry : ∀ other, ((world.apply (.published ref name snapshot)).exports.read ref).get? other =
      if name = other then some snapshot else (world.exports.read ref).get? other := by
    intro other
    rw [World.apply, Store.read_write_same, Table.get?_put]
  refine { exported with
    elsewhere := ?_, sound := ?_, entries := ?_, distinct := ?_ }
  · intro other different
    exact (Store.read_write_other _ _ different).trans (exported.elsewhere different)
  · exact { exported.sound.publish used ref name with }
  · intro other
    rw [lastSource?_append, entry]
    by_cases same : name = other
    · rw [if_pos same, if_pos same]
      exact (fulfils _).later (Nat.le_refl _) fun _ => rfl
    · rw [if_neg same, if_neg same]
      exact (exported.entries other).later (Nat.le_refl _) fun _ => rfl
  · intro one another first second found
    rw [lastSource?_append, lastSource?_append, entry, entry]
    by_cases here : name = one <;> by_cases there : name = another
    · intro _ _ _ _
      exact here.symm.trans there
    · rw [if_pos here, if_neg there, if_pos here, if_neg there]
      rintro ⟨⟩ - ⟨⟩ elsewhere
      exact absurd elsewhere (fresh first rfl another)
    · rw [if_neg here, if_pos there, if_neg here, if_pos there]
      rintro - ⟨⟩ elsewhere ⟨⟩
      exact absurd elsewhere (fresh second rfl one)
    · rw [if_neg here, if_neg there, if_neg here, if_neg there]
      exact exported.distinct

/-- One export more. -/
theorem exportAs (exported : Exported ref start sequence world) (name : Text)
    {source : ExportSource}
    (used : ∀ snapshot, source = .snapshot snapshot →
      snapshot.address < start.snapshots.size) :
    ∃ after, (Op.exportAs ref name source).perform world = (.ok (), after) ∧
      Exported ref start (sequence ++ [(name, source)]) after := by
  cases source with
  | module module =>
    have added := exported.addSnapshot (world.modules.read module).snapshot
    refine ⟨_, rfl, added.publish name (Nat.lt_succ_self _) (fun before => ?_) ?_⟩
    · refine .taken exported.size (Nat.lt_succ_self _) ?_
      rw [← exported.modules]
      exact Store.read_allocate_next _ _
    · -- an entry in use is not the snapshot that was just taken
      intro _ _ other found
      exact Nat.lt_irrefl _ (exported.sound.exported found)
  | snapshot snapshot =>
    have inUse := used snapshot rfl
    refine ⟨_, rfl, exported.publish name (Nat.lt_of_lt_of_le inUse exported.size) ?_ nofun⟩
    exact fun before => .given inUse

/-- Further exports. -/
theorem exportAll (exported : Exported ref start sequence world)
    (rest : List (Text × ExportSource))
    (used : ∀ name snapshot, (name, .snapshot snapshot) ∈ rest →
      snapshot.address < start.snapshots.size) :
    ∃ after, (Op.exportAll ref rest).perform world = (.ok (), after) ∧
      Exported ref start (sequence ++ rest) after := by
  induction rest generalizing sequence world with
  | nil => exact ⟨world, rfl, by rwa [List.append_nil]⟩
  | cons entry rest inductionHypothesis =>
    obtain ⟨name, source⟩ := entry
    obtain ⟨between, performed, exportedToo⟩ := exported.exportAs name fun snapshot same =>
      used name snapshot (same ▸ List.mem_cons_self)
    obtain ⟨after, performedAll, exportedAll⟩ := inductionHypothesis exportedToo
      fun name snapshot member => used name snapshot (List.mem_cons_of_mem _ member)
    refine ⟨after, ?_, ?_⟩
    · rw [Op.exportAll, Op.perform_bind, performed]
      exact performedAll
    · rwa [List.append_assoc, List.singleton_append] at exportedAll

/-- What stands where a module was exported last is in use and was not before. -/
theorem taken (exported : Exported ref start sequence world) {name : Text} {source : ModuleRef}
    {snapshot : SnapshotRef} (last : lastSource? sequence name = some (.module source))
    (found : (world.exports.read ref).get? name = some snapshot) :
    start.snapshots.size ≤ snapshot.address ∧ snapshot.address < world.snapshots.size ∧
      world.snapshots.read snapshot = (start.modules.read source).snapshot := by
  have fulfils := exported.entries name
  rw [last, found] at fulfils
  cases fulfils with
  | taken new used copied => exact ⟨new, used, copied⟩

end Exported

/-! ## Matching what two sequences leave -/

/-- Which snapshots correspond after two sequences of exports: those from before, those that
were taken for one name, and those that are still to come. -/
inductive Counterparts (ref : ExportsRef) (start : World)
    (sequence : List (Text × ExportSource)) (one other : World) :
    SnapshotRef → SnapshotRef → Prop where
  | old {snapshot : SnapshotRef} (used : snapshot.address < start.snapshots.size) :
      Counterparts ref start sequence one other snapshot snapshot
  | taken {name : Text} {source : ModuleRef} {here there : SnapshotRef}
      (last : lastSource? sequence name = some (.module source))
      (found : (one.exports.read ref).get? name = some here)
      (foundToo : (other.exports.read ref).get? name = some there) :
      Counterparts ref start sequence one other here there
  | coming (count : Nat) :
      Counterparts ref start sequence one other ⟨one.snapshots.size + count⟩
        ⟨other.snapshots.size + count⟩

namespace Counterparts

variable {ref : ExportsRef} {start one other : World} {sequence : List (Text × ExportSource)}

protected theorem symm {here there : SnapshotRef}
    (counterparts : Counterparts ref start sequence one other here there) :
    Counterparts ref start sequence other one there here := by
  cases counterparts with
  | old used => exact .old used
  | taken last found foundToo => exact .taken last foundToo found
  | coming count => exact .coming count

/-- No snapshot has two counterparts. -/
theorem functional (exported : Exported ref start sequence one) {here there another : SnapshotRef}
    (first : Counterparts ref start sequence one other here there)
    (second : Counterparts ref start sequence one other here another) : there = another := by
  have size := exported.size
  -- the three kinds of snapshot lie in three ranges of addresses
  cases first with
  | old used =>
    cases second with
    | old => rfl
    | taken last found =>
      have range := exported.taken last found
      omega
    | coming =>
      simp only at used
      omega
  | taken last found foundToo =>
    have range := exported.taken last found
    cases second with
    | old => omega
    | taken lastToo foundHere foundThere =>
      cases exported.distinct last lastToo found foundHere
      exact Option.some.inj (foundToo.symm.trans foundThere)
    | coming =>
      simp only at range
      omega
  | coming count =>
    generalize place : Ref.mk (one.snapshots.size + count) = here at second
    have address : one.snapshots.size + count = here.address := congrArg Ref.address place
    cases second with
    | old => omega
    | taken last found =>
      have range := exported.taken last found
      omega
    | coming further =>
      have same : count = further := Nat.add_left_cancel address
      rw [same]

end Counterparts

namespace Exported

variable {ref : ExportsRef} {start one other : World} {first second : List (Text × ExportSource)}

/-- The matching of what two sequences leave that agree on what is exported last. -/
def relocation (exported : Exported ref start first one)
    (exportedToo : Exported ref start first other) : Relocation where
  Relates := Counterparts ref start first one other
  unique := by
    intro here there another further related relatedToo
    constructor
    · rintro rfl
      exact related.functional exported relatedToo
    · rintro rfl
      exact related.symm.functional exportedToo relatedToo.symm

/-- Sequences of exports that agree on what is exported last lead to alike worlds. -/
theorem alike (sound : start.Sound) (exported : Exported ref start first one)
    (exportedToo : Exported ref start first other) :
    World.Alike (exported.relocation exportedToo) one other := by
  have stays : ∀ found : Option SnapshotRef,
      (∀ snapshot, found = some snapshot → snapshot.address < start.snapshots.size) →
      Option.Rel (exported.relocation exportedToo).Relates found found := by
    intro found used
    cases found with
    | none => exact .none
    | some snapshot => exact .some (.old (used snapshot rfl))
  constructor
  case modules => rw [exported.modules, exportedToo.modules]
  case snapshots =>
    intro here there related
    cases related with
    | old used => rw [exported.old used, exportedToo.old used]
    | taken last found foundToo =>
      rw [(exported.taken last found).2.2, (exportedToo.taken last foundToo).2.2]
    | coming count =>
      rw [exported.sound.vacant (Nat.le_add_right _ _),
        exportedToo.sound.vacant (Nat.le_add_right _ _)]
  case fresh => exact .coming
  case exports =>
    intro target name
    by_cases same : target = ref
    · subst same
      have here := exported.entries name
      have there := exportedToo.entries name
      generalize found : (one.exports.read target).get? name = entry at here ⊢
      generalize foundToo : (other.exports.read target).get? name = entryToo at there ⊢
      generalize last : lastSource? first name = source at here there
      cases here with
      | kept =>
        cases there with
        | kept => exact stays _ fun _ => sound.exported
      | given used =>
        cases there with
        | given => exact .some (.old used)
      | taken =>
        cases there with
        | taken => exact .some (.taken last found foundToo)
    · rw [exported.elsewhere same, exportedToo.elsewhere same]
      exact stays _ fun _ => sound.exported
  case exportsSize => rw [exported.exportsSize, exportedToo.exportsSize]
  case hosts => rw [exported.hosts, exportedToo.hosts]
  case natives => rw [exported.natives, exportedToo.natives]
  case moduleLabels => rw [exported.labels, exportedToo.labels]
  case snapshotLabels =>
    intro label
    rw [exported.labels, exportedToo.labels]
    exact stays _ fun _ => sound.labelled
  case exportsLabels => rw [exported.labels, exportedToo.labels]
  case hostLabels => rw [exported.labels, exportedToo.labels]
  case imports => rw [exported.imports, exportedToo.imports]

/-- What was exported last is all that matters of a sequence. -/
theorem of_last (exported : Exported ref start second other)
    (same : ∀ name, lastSource? first name = lastSource? second name) :
    Exported ref start first other := by
  refine { exported with entries := ?_, distinct := ?_ }
  · intro name
    rw [same]
    exact exported.entries name
  · intro name another source further snapshot last lastToo
    rw [same] at last lastToo
    exact exported.distinct last lastToo

end Exported

/-- Exporting the same last under each name leads to alike worlds. -/
theorem Op.exportAll_alike {start : World} (sound : start.Sound) (ref : ExportsRef)
    {first second : List (Text × ExportSource)}
    (used : ∀ name snapshot, (name, .snapshot snapshot) ∈ first ++ second →
      snapshot.address < start.snapshots.size)
    (same : ∀ name, lastSource? first name = lastSource? second name) :
    ∃ relocation one other, (exportAll ref first).perform start = (.ok (), one) ∧
      (exportAll ref second).perform start = (.ok (), other) ∧
      World.Alike relocation one other := by
  obtain ⟨one, performed, exported⟩ := (Exported.begin sound).exportAll first
    fun name snapshot member => used name snapshot (List.mem_append_left _ member)
  obtain ⟨other, performedToo, exportedToo⟩ := (Exported.begin sound).exportAll second
    fun name snapshot member => used name snapshot (List.mem_append_right _ member)
  exact ⟨_, one, other, performed, performedToo, exported.alike sound (exportedToo.of_last same)⟩

end Switchboard
