import Switchboard.Proofs.Discipline
import Switchboard.Proofs.Operation

/-!
# Histories

A `Change` is the smallest thing that can happen to a world, and `Op.Unfolds` says which
changes an operation makes, in order, when it is carried out from a world. Every operation of
a host unfolds into a history, whether it returns or fails and however deeply it nests, so
that a statement about every moment of a session is a statement about lists of changes. A
property of operations that holds of every change and that sequencing and catching keep is a
discipline (`Op.Foundation.discipline`), and so is one that holds of adoption and of the changes
that are steady (`Op.Groundwork.discipline`).
-/

namespace Switchboard

/-! ## Changes -/

/-- One change of a world. -/
inductive Change where
  | seen (event : Event)
  | unseen
  | moduleMade (module : Module)
  | moduleChanged (ref : ModuleRef) (change : Module → Module)
  | snapshotMade (snapshot : Snapshot)
  | snapshotTaken (source : ModuleRef)
  | exportsMade
  | published (ref : ExportsRef) (name : Text) (snapshot : SnapshotRef)
  | hostMade (host : Host)
  | hostChanged (ref : HostRef) (change : Host → Host)
  | nativeMade
  | relabelled (change : Labels → Labels)
  | importSet (name : Text) (state : ImportState)

/-- A change that bears on no module's stream and on nothing of a host but what it reports. Making
a module or a host is steady: nothing that was there before is touched. -/
def Change.Steady : Change → Prop
  | .moduleChanged _ change => ∀ module, (change module).stream = module.stream
  | .hostChanged _ change => ∀ host, (change host).exports = host.exports ∧
      (change host).stream = host.stream ∧ (change host).current = host.current
  | _ => True

namespace World

/-- The world after a change. An export is seen, and a snapshot is taken of a module as it is
at that moment. -/
def apply (world : World) : Change → World
  | .seen event => world.record [event]
  | .unseen => world.withTrace []
  | .moduleMade module => { world with modules := world.modules.allocate module }
  | .moduleChanged ref change =>
      { world with modules := world.modules.write ref (change (world.modules.read ref)) }
  | .snapshotMade snapshot => { world with snapshots := world.snapshots.allocate snapshot }
  | .snapshotTaken source =>
      { world with
        snapshots := world.snapshots.allocate (world.modules.read source).snapshot }
  | .exportsMade => { world with exports := world.exports.allocate .empty }
  | .published ref name snapshot =>
      { world with
        exports := world.exports.write ref ((world.exports.read ref).put name snapshot)
        trace := world.trace ++
          [.logged (.published name ((world.exports.read ref).contains name))] }
  | .hostMade host => { world with hosts := world.hosts.allocate host }
  | .hostChanged ref change =>
      { world with hosts := world.hosts.write ref (change (world.hosts.read ref)) }
  | .nativeMade => { world with natives := world.natives + 1 }
  | .relabelled change => { world with labels := change world.labels }
  | .importSet name state => { world with imports := world.imports.put name state }

/-- What is published can be found. -/
theorem get?_published (world : World) (ref : ExportsRef) (name : Text) (snapshot : SnapshotRef) :
    ((world.apply (.published ref name snapshot)).exports.read ref).get? name = some snapshot := by
  rw [apply, Store.read_write_same, Table.get?_put, if_pos rfl]

/-- The world after a history. -/
def applyAll (world : World) (history : List Change) : World := history.foldl apply world

@[simp] theorem applyAll_nil (world : World) : world.applyAll [] = world := rfl

@[simp] theorem applyAll_cons (world : World) (change : Change) (history : List Change) :
    world.applyAll (change :: history) = (world.apply change).applyAll history := rfl

@[simp] theorem applyAll_append (world : World) (early late : List Change) :
    world.applyAll (early ++ late) = (world.applyAll early).applyAll late :=
  List.foldl_append

/-- A world is like itself with another past. -/
theorem alike_withTrace (world : World) (past : List Event) :
    World.Alike .stay (world.withTrace past) world where
  modules := rfl
  snapshots := by rintro here there rfl; rfl
  fresh _ := rfl
  exports _ _ := Relocation.stay_rel _
  exportsSize := rfl
  hosts := rfl
  natives := rfl
  moduleLabels := rfl
  snapshotLabels _ := Relocation.stay_rel _
  exportsLabels := rfl
  hostLabels := rfl
  imports := rfl

end World

namespace Op

theorem perform_takeSnapshot (source : ModuleRef) (world : World) :
    (takeSnapshot source).perform world =
      (.ok world.snapshots.next, world.apply (.snapshotTaken source)) := rfl

theorem perform_publish (ref : ExportsRef) (name : Text) (snapshot : SnapshotRef)
    (world : World) :
    (publish ref name snapshot).perform world =
      (.ok (), world.apply (.published ref name snapshot)) := rfl

/-- Make a change. -/
def make (change : Change) : Op Unit := modify fun world => world.apply change

/-! ## Foundations -/

/-- A property of operations that every change has and that sequencing and catching keep.
Reading may depend on anything but the trace, and putting events aside is left to sessions. -/
structure Foundation (Keeps : (α : Type) → Op α → Prop) : Prop where
  pure : ∀ {α : Type} (value : α), Keeps α (pure value)
  throw : ∀ {α : Type} (failure : Failure), Keeps α (throw failure)
  bind : ∀ {α β : Type} {operation : Op α} {next : α → Op β}, Keeps α operation →
    (∀ value, Keeps β (next value)) → Keeps β (operation >>= next)
  tryCatch : ∀ {α : Type} {operation : Op α} {handler : Failure → Op α}, Keeps α operation →
    (∀ failure, Keeps α (handler failure)) → Keeps α (tryCatch operation handler)
  look : ∀ {α : Type} {next : World → Op α}, (∀ world, Keeps α (next world)) →
    (∀ world past, next (world.withTrace past) = next world) → Keeps α (get >>= next)
  make : ∀ change, change ≠ .unseen → Keeps Unit (make change)

/-- A property of operations that adoption and every steady change have and that sequencing and
catching keep. Every operation is put together from these. -/
structure Groundwork (Keeps : (α : Type) → Op α → Prop) : Prop where
  pure : ∀ {α : Type} (value : α), Keeps α (pure value)
  throw : ∀ {α : Type} (failure : Failure), Keeps α (throw failure)
  bind : ∀ {α β : Type} {operation : Op α} {next : α → Op β}, Keeps α operation →
    (∀ value, Keeps β (next value)) → Keeps β (operation >>= next)
  tryCatch : ∀ {α : Type} {operation : Op α} {handler : Failure → Op α}, Keeps α operation →
    (∀ failure, Keeps α (handler failure)) → Keeps α (tryCatch operation handler)
  look : ∀ {α : Type} {next : World → Op α}, (∀ world, Keeps α (next world)) →
    (∀ world past, next (world.withTrace past) = next world) → Keeps α (get >>= next)
  make : ∀ change : Change, change ≠ .unseen → change.Steady → Keeps Unit (make change)
  adopt : ∀ host module, Keeps Unit (adopt host module)

namespace Groundwork

variable {Keeps : (α : Type) → Op α → Prop} (groundwork : Groundwork Keeps)

include groundwork

/-- Making something new and returning its address. -/
theorem returning {α : Type} (change : Change) {view : World → α} (forward : change ≠ .unseen)
    (steady : change.Steady) (agrees : ∀ world past, view (world.withTrace past) = view world) :
    Keeps α (do
      let world ← get
      Op.make change
      return view world) := by
  refine groundwork.look (fun world => ?_) fun world past => by rw [agrees world past]
  exact groundwork.bind (groundwork.make change forward steady) fun _ => groundwork.pure _

/-- What is kept wherever a snapshot is stored is kept of an operation on a snapshot that is
found by its label. -/
theorem findSnapshot {α : Type} {use : SnapshotRef → Op α} (label : Text)
    (uses : ∀ snapshot, Keeps α (use snapshot)) : Keeps α (snapshotAt label >>= use) := by
  refine groundwork.bind (groundwork.look (fun world => ?_) fun _ _ => rfl) uses
  unfold resolve
  split
  · exact groundwork.pure _
  · exact groundwork.throw _

/-- Every primitive operation but adoption is a steady change, but for what it returns. -/
theorem discipline : Discipline Keeps fun α use => ∀ snapshot, Keeps α (use snapshot) where
  pure := groundwork.pure
  throw := groundwork.throw
  bind := groundwork.bind
  tryCatch := groundwork.tryCatch
  look continues agrees := groundwork.look continues fun world past =>
    agrees .stay _ _ (world.alike_withTrace past)
  emit event := groundwork.make (.seen event) nofun trivial
  newModule module := groundwork.returning (.moduleMade module) nofun trivial fun _ _ => rfl
  changeModule ref change keeps := groundwork.make (.moduleChanged ref change) nofun keeps
  newSnapshot snapshot uses := groundwork.bind
    (groundwork.returning (.snapshotMade snapshot) nofun trivial fun _ _ => rfl) uses
  takeSnapshot source uses := groundwork.bind
    (groundwork.returning (.snapshotTaken source) nofun trivial fun _ _ => rfl) uses
  findSnapshot label uses := groundwork.findSnapshot label uses
  findExport ref name absent uses := by
    refine groundwork.look (fun world => ?_) fun _ _ => rfl
    cases (world.exports.read ref).get? name with
    | none => exact absent
    | some snapshot => exact uses snapshot
  regardless kept _ := kept
  handOn used continues snapshot := groundwork.bind (used snapshot) fun value =>
    continues value snapshot
  readSnapshot ref := groundwork.look (fun _ => groundwork.pure _) fun _ _ => rfl
  compareSnapshot label continues snapshot := groundwork.findSnapshot label fun _ => continues _
  publish ref name snapshot := groundwork.make (.published ref name snapshot) nofun trivial
  labelSnapshot label snapshot := groundwork.make (.relabelled fun labels =>
    { labels with snapshots := labels.snapshots.put label snapshot }) nofun trivial
  newExports := groundwork.returning .exportsMade nofun trivial fun _ _ => rfl
  placeHost host := groundwork.returning (.hostMade host) nofun trivial fun _ _ => rfl
  setReporting ref reporting := groundwork.make (.hostChanged ref fun content =>
    { content with reporting }) nofun fun _ => ⟨rfl, rfl, rfl⟩
  adopt := groundwork.adopt
  newNative action := groundwork.returning .nativeMade nofun trivial fun _ _ => rfl
  relabel {change} _ := groundwork.make (.relabelled change) nofun trivial
  setImport name state := groundwork.make (.importSet name state) nofun trivial

end Groundwork

/-- Adoption is a change of a module and a change of a host. -/
theorem Foundation.groundwork {Keeps : (α : Type) → Op α → Prop} (foundation : Foundation Keeps) :
    Groundwork Keeps where
  pure := foundation.pure
  throw := foundation.throw
  bind := foundation.bind
  tryCatch := foundation.tryCatch
  look := foundation.look
  make change forward _ := foundation.make change forward
  adopt host module := by
    refine foundation.look (fun world => ?_) fun _ _ => rfl
    exact foundation.bind (foundation.make (.moduleChanged module fun content =>
        { content with stream := content.stream <|> (world.hosts.read host).stream }) nofun)
      fun _ => foundation.make (.hostChanged host fun content =>
        { content with current := some module }) nofun

theorem Foundation.discipline {Keeps : (α : Type) → Op α → Prop} (foundation : Foundation Keeps) :
    Discipline Keeps fun α use => ∀ snapshot, Keeps α (use snapshot) :=
  foundation.groundwork.discipline

/-! ## Unfolding operations -/

/-- The changes that an operation makes when it is carried out from a world, in order. What
an operation did before it failed stays in its history. -/
inductive Unfolds : {α : Type} → Op α → World → List Change → Prop where
  | pure {α : Type} {value : α} {world : World} : Unfolds (Pure.pure value) world []
  | throw {α : Type} {failure : Failure} {world : World} :
      Unfolds (MonadExcept.throw failure : Op α) world []
  | make {change : Change} {world : World} : Unfolds (Op.make change) world [change]
  | look {α : Type} {next : World → Op α} {world : World} {history : List Change}
      (looked : Unfolds (next world) world history) : Unfolds (get >>= next) world history
  | bind {α β : Type} {operation : Op α} {next : α → Op β} {world between : World} {value : α}
      {early late : List Change} (first : Unfolds operation world early)
      (returned : operation.perform world = (.ok value, between))
      (second : Unfolds (next value) between late) :
      Unfolds (operation >>= next) world (early ++ late)
  | failed {α β : Type} {operation : Op α} {next : α → Op β} {world after : World}
      {failure : Failure} {history : List Change} (first : Unfolds operation world history)
      (raised : operation.perform world = (.error failure, after)) :
      Unfolds (operation >>= next) world history
  | uncaught {α : Type} {operation : Op α} {handler : Failure → Op α} {world after : World}
      {value : α} {history : List Change} (body : Unfolds operation world history)
      (returned : operation.perform world = (.ok value, after)) :
      Unfolds (tryCatch operation handler) world history
  | caught {α : Type} {operation : Op α} {handler : Failure → Op α} {world between : World}
      {failure : Failure} {early late : List Change} (body : Unfolds operation world early)
      (raised : operation.perform world = (.error failure, between))
      (handled : Unfolds (handler failure) between late) :
      Unfolds (tryCatch operation handler) world (early ++ late)

/-- An operation leaves the world that its history leads to. -/
theorem Unfolds.perform_eq {α : Type} {operation : Op α} {world : World}
    {history : List Change} (unfolds : operation.Unfolds world history) :
    (operation.perform world).2 = world.applyAll history := by
  induction unfolds with
  | pure => rfl
  | throw => rfl
  | make => rfl
  | look _ inductionHypothesis =>
    rw [perform_bind, perform_get]
    exact inductionHypothesis
  | bind _ returned _ firstHypothesis secondHypothesis =>
    rw [returned] at firstHypothesis
    rw [perform_bind, returned, World.applyAll_append, ← firstHypothesis]
    exact secondHypothesis
  | failed _ raised inductionHypothesis =>
    rw [raised] at inductionHypothesis
    rw [perform_bind, raised, ← inductionHypothesis]
  | uncaught _ returned inductionHypothesis =>
    rw [returned] at inductionHypothesis
    rw [perform_tryCatch, returned, ← inductionHypothesis]
  | caught _ raised _ bodyHypothesis handlerHypothesis =>
    rw [raised] at bodyHypothesis
    rw [perform_tryCatch, raised, World.applyAll_append, ← bodyHypothesis]
    exact handlerHypothesis

/-- Having a history from every world is founded on changes. -/
theorem unfolds_foundation :
    Foundation fun _ operation => ∀ world, ∃ history, operation.Unfolds world history where
  pure _ _ := ⟨[], .pure⟩
  throw _ _ := ⟨[], .throw⟩
  bind {_ _ operation next} first second world := by
    obtain ⟨early, unfolds⟩ := first world
    rcases performed : operation.perform world with ⟨failure | value, between⟩
    · exact ⟨early, .failed unfolds performed⟩
    · obtain ⟨late, continues⟩ := second value between
      exact ⟨early ++ late, .bind unfolds performed continues⟩
  tryCatch {_ operation _} body handles world := by
    obtain ⟨early, unfolds⟩ := body world
    rcases performed : operation.perform world with ⟨failure | value, between⟩
    · obtain ⟨late, handled⟩ := handles failure between
      exact ⟨early ++ late, .caught unfolds performed handled⟩
    · exact ⟨early, .uncaught unfolds performed⟩
  look continues _ world := by
    obtain ⟨history, unfolds⟩ := continues world world
    exact ⟨history, .look unfolds⟩
  make change _ _ := ⟨[change], .make⟩

/-- Every step of a host script unfolds, however deeply its bodies nest. -/
theorem performStep_unfolds (around : Surroundings) (depth : Nat) (step : Step) (world : World) :
    ∃ history, (performStep around (runBody around depth) step).Unfolds world history := by
  have discipline := unfolds_foundation.discipline
  exact discipline.performStep (discipline.runBody around depth) around step world

/-! ## Exporting -/

/-- Exporting a module takes a snapshot of it. -/
theorem perform_publishAt {label : Text} {source : ModuleRef} {world : World}
    (found : world.labels.modules.get? label = some source) (exports : ExportsRef)
    (name : Text) :
    (publishAt exports name (.module label)).perform world =
      (.ok (.published (world.modules.read source).snapshot.view false),
        world.applyAll [.snapshotTaken source, .published exports name world.snapshots.next]) := by
  have resolved : (moduleAt label).perform world = (.ok source, world) := by
    rw [moduleAt, perform_bind, perform_get]
    simp only [resolve, found, perform_pure]
  have seen : ((world.apply (.snapshotTaken source)).apply
      (.published exports name world.snapshots.next)).snapshots.read world.snapshots.next =
      (world.modules.read source).snapshot := Store.read_allocate_next _ _
  simp only [publishAt, perform_bind, resolved, perform_takeSnapshot, perform_publish,
    perform_readSnapshot, perform_pure, seen]
  rfl

/-- Exporting a snapshot takes none. -/
theorem perform_publishAt_snapshot {label : Text} {snapshot : SnapshotRef} {world : World}
    (found : world.labels.snapshots.get? label = some snapshot) (exports : ExportsRef)
    (name : Text) :
    (publishAt exports name (.snapshot label)).perform world =
      (.ok (.published (world.snapshots.read snapshot).view true),
        world.applyAll [.published exports name snapshot]) := by
  have resolved : (snapshotAt label).perform world = (.ok snapshot, world) := by
    rw [snapshotAt, perform_bind, perform_get]
    simp only [resolve, found, perform_pure]
  simp only [publishAt, perform_bind, resolved, perform_publish, perform_readSnapshot,
    perform_pure]
  rfl

/-- A host that exports takes a snapshot of the module that is current after the callback. When
the callback fails or no module is current, nothing is exported. -/
theorem perform_exportCurrent (host : HostRef) (callback : Op Unit) (name : Text)
    (world : World) :
    (exportCurrent host callback name).perform world =
      match callback.perform world with
      | (.error failure, between) => (.error failure, between)
      | (.ok (), between) =>
          match (between.hosts.read host).current with
          | none => (.ok none, between.applyAll [.seen (.logged (.nothingToExport name))])
          | some source =>
              (.ok (some between.snapshots.next), between.applyAll [.snapshotTaken source,
                .published (between.hosts.read host).exports name between.snapshots.next]) := by
  rw [exportCurrent, perform_bind]
  rcases callback.perform world with ⟨failure | ⟨⟩, between⟩
  · rfl
  · have read : (readHost host).perform between = (.ok (between.hosts.read host), between) := rfl
    simp only [perform_bind, read]
    cases (between.hosts.read host).current with
    | none => rfl
    | some source => rfl

end Op

/-! ## Sessions -/

/-- The changes that the steps of a session make, in order. Between two steps the events are
put aside. -/
inductive Session.Unfolds (around : Surroundings) : List Step → World → List Change → Prop where
  | nil {world : World} : Unfolds around [] world []
  | cons {step : Step} {rest : List Step} {world : World} {early late : List Change}
      (first : (Op.performStep around (Op.runBody around Op.maxDepth) step).Unfolds
        (world.withTrace []) early)
      (second : Unfolds around rest (Session.playStep around step world).2 late) :
      Unfolds around (step :: rest) world (.unseen :: early ++ late)

theorem Session.exists_unfolds (around : Surroundings) (steps : List Step) (world : World) :
    ∃ history, Session.Unfolds around steps world history := by
  induction steps generalizing world with
  | nil => exact ⟨[], .nil⟩
  | cons step rest inductionHypothesis =>
    obtain ⟨early, first⟩ :=
      Op.performStep_unfolds around Op.maxDepth step (world.withTrace [])
    obtain ⟨late, second⟩ := inductionHypothesis (Session.playStep around step world).2
    exact ⟨.unseen :: early ++ late, .cons first second⟩

/-- A session leaves the world that its history leads to. -/
theorem Session.Unfolds.playFrom_eq {around : Surroundings} {steps : List Step} {world : World}
    {history : List Change} (unfolds : Session.Unfolds around steps world history) :
    (Session.playFrom around steps world).2 = world.applyAll history := by
  induction unfolds with
  | nil => rfl
  | @cons step rest world early late first _ inductionHypothesis =>
    have played : (Session.playStep around step world).2 =
        (world.withTrace []).applyAll early := first.perform_eq
    calc (Session.playFrom around (step :: rest) world).2
        = (Session.playFrom around rest (Session.playStep around step world).2).2 := rfl
      _ = ((world.withTrace []).applyAll early).applyAll late := by
          rw [inductionHypothesis, played]
      _ = world.applyAll (.unseen :: early ++ late) := by
          rw [List.cons_append, World.applyAll_cons, World.applyAll_append]
          rfl

end Switchboard
