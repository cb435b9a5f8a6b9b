import Switchboard.Proofs.History

/-!
# Snapshots are copies

A snapshot is filled when it is taken and never again: no change of a world touches a snapshot
in use. So a snapshot has what its source had at that moment for the rest of every session,
whatever becomes of the source (`snapshot_keeps_source`).
-/

namespace Switchboard

/-- A snapshot in use that has the name, the functions and the script of a module. -/
structure World.Copied (world : World) (ref : SnapshotRef) (source : Module) : Prop where
  used : ref.address < world.snapshots.size
  name : (world.snapshots.read ref).name = source.name
  functions : (world.snapshots.read ref).functions = source.functions
  script : (world.snapshots.read ref).script = source.script

/-- A snapshot that is a copy of a module, and is shown and entered as that module. -/
structure World.StandsFor (world : World) (ref : SnapshotRef) (source : Module) : Prop
    extends world.Copied ref source where
  hasFunction : ∀ function, (world.snapshots.read ref).hasFunction function =
    source.functions.contains function
  view : (world.snapshots.read ref).view =
    ⟨source.name, source.functions.sortedKeys, source.script⟩
  invoke : ∀ enter function, (Op.invokeSnapshot enter ref function).perform world =
    (Op.invoke enter source.functions source.name function).perform world

namespace World

/-- A change leaves the snapshots as they are, or adds one. -/
theorem snapshots_apply (world : World) (change : Change) :
    (world.apply change).snapshots = world.snapshots ∨
      ∃ snapshot, (world.apply change).snapshots = world.snapshots.allocate snapshot := by
  cases change with
  | snapshotMade snapshot => exact .inr ⟨snapshot, rfl⟩
  | snapshotTaken source => exact .inr ⟨(world.modules.read source).snapshot, rfl⟩
  | seen | unseen | moduleMade | moduleChanged | exportsMade | published | hostMade
  | hostChanged | nativeMade | relabelled | importSet => exact .inl rfl

namespace Copied

variable {world : World} {ref : SnapshotRef} {source : Module}

/-- A copy is determined by what is stored of it. -/
theorem of_read (used : ref.address < world.snapshots.size)
    (copied : world.snapshots.read ref = source.snapshot) : world.Copied ref source where
  used := used
  name := by rw [copied, Module.snapshot]
  functions := by rw [copied, Module.snapshot]
  script := by rw [copied, Module.snapshot]

/-- A copy stays a copy through a change. -/
theorem apply (copied : world.Copied ref source) (change : Change) :
    (world.apply change).Copied ref source := by
  rcases world.snapshots_apply change with same | ⟨snapshot, added⟩
  · exact ⟨same ▸ copied.used, same ▸ copied.name, same ▸ copied.functions, same ▸ copied.script⟩
  · have kept : (world.apply change).snapshots.read ref = world.snapshots.read ref := by
      rw [added, Store.read_allocate_old world.snapshots snapshot copied.used]
    refine ⟨?_, kept ▸ copied.name, kept ▸ copied.functions, kept ▸ copied.script⟩
    rw [added]
    exact Nat.lt_succ_of_lt copied.used

/-- A copy stays a copy through every history. -/
theorem applyAll (copied : world.Copied ref source) (history : List Change) :
    (world.applyAll history).Copied ref source := by
  induction history generalizing world with
  | nil => exact copied
  | cons change rest inductionHypothesis => exact inductionHypothesis (copied.apply change)

/-- A snapshot that is taken is a copy of the module as it is then. -/
theorem taken (world : World) (source : ModuleRef) :
    (world.apply (.snapshotTaken source)).Copied world.snapshots.next
      (world.modules.read source) :=
  .of_read (Nat.lt_succ_self _) (Store.read_allocate_next _ _)

/-- A copy is shown and entered as its source. -/
theorem standsFor (copied : world.Copied ref source) : world.StandsFor ref source where
  toCopied := copied
  hasFunction function := by rw [Snapshot.hasFunction, copied.functions]
  view := by rw [Snapshot.view, copied.name, copied.functions, copied.script]
  invoke enter function := by
    rw [Op.invokeSnapshot, Op.perform_bind, Op.perform_readSnapshot]
    simp only [copied.functions, copied.name]

end Copied

end World

/-! ## Sessions -/

/-- Whatever way a snapshot is taken, it is a copy of the module as it is then; and at every
later moment of every session, within functions and callbacks as between steps, a copy stands
for what it was a copy of. -/
theorem snapshot_keeps_source (around : Surroundings) (steps : List Step) (world : World) :
    (∀ moment source, ∃ snapshot after,
      (Op.takeSnapshot source).perform moment = (.ok snapshot, after) ∧
      after.Copied snapshot (moment.modules.read source)) ∧
    (∀ moment exports name label source, moment.labels.modules.get? label = some source →
      ∃ snapshot result after,
        (Op.publishAt exports name (.module label)).perform moment = (.ok result, after) ∧
        (after.exports.read exports).get? name = some snapshot ∧
        after.Copied snapshot (moment.modules.read source)) ∧
    (∀ moment between host callback name source,
      callback.perform moment = (.ok (), between) →
      (between.hosts.read host).current = some source →
      ∃ snapshot after,
        (Op.exportCurrent host callback name).perform moment = (.ok (some snapshot), after) ∧
        (after.exports.read (between.hosts.read host).exports).get? name = some snapshot ∧
        after.Copied snapshot (between.modules.read source)) ∧
    (∃ history, Session.Unfolds around steps world history) ∧
    ∀ history, Session.Unfolds around steps world history →
      (Session.playFrom around steps world).2 = world.applyAll history ∧
      ∀ early middle late, history = early ++ middle ++ late →
        (∀ source rest, middle = .snapshotTaken source :: rest →
          (world.applyAll (early ++ middle)).StandsFor (world.applyAll early).snapshots.next
            ((world.applyAll early).modules.read source)) ∧
        ∀ snapshot source, (world.applyAll early).Copied snapshot source →
          (world.applyAll (early ++ middle)).StandsFor snapshot source := by
  have kept : ∀ early middle snapshot source, (world.applyAll early).Copied snapshot source →
      (world.applyAll (early ++ middle)).StandsFor snapshot source := by
    intro early middle snapshot source copied
    rw [World.applyAll_append]
    exact (copied.applyAll middle).standsFor
  refine ⟨?_, ?_, ?_, Session.exists_unfolds around steps world, ?_⟩
  · intro moment source
    exact ⟨_, _, Op.perform_takeSnapshot source moment, .taken moment source⟩
  · intro moment exports name label source found
    exact ⟨_, _, _, Op.perform_publishAt found exports name, World.get?_published _ _ _ _,
      (World.Copied.taken moment source).applyAll [_]⟩
  · intro moment between host callback name source called current
    have exported := Op.perform_exportCurrent host callback name moment
    simp only [called, current] at exported
    exact ⟨_, _, exported, World.get?_published _ _ _ _,
      (World.Copied.taken between source).applyAll [_]⟩
  · intro history unfolds
    refine ⟨unfolds.playFrom_eq, ?_⟩
    intro early middle late _
    refine ⟨?_, kept early middle⟩
    rintro source rest rfl
    have taken := World.Copied.taken (world.applyAll early) source
    rw [List.append_cons]
    refine kept (early ++ [.snapshotTaken source]) rest _ _ ?_
    rw [World.applyAll_append]
    exact taken

/-- An exported function that, when it is called, takes itself out of its module, sets another
script, exports the module again under the same name and fails: the first snapshot still stands
for the module that was exported first. -/
theorem snapshot_keeps_source_redefined :
    let around : Surroundings := ⟨⟨fun _ => .error .notFound⟩, ⟨[]⟩⟩
    let again : Body :=
      [(none, .define (text "m") (text "f") none), (none, .setScript (text "m") (text "new")),
        (none, .exportCurrent (text "h") (some []) (text "M") none),
        (none, .raise .value (text "stop"))]
    let building : List Step :=
      [.newModule (text "m") (some (text "m")) (text "old") true none,
        .define (text "m") (text "f") (some again), .newHost (text "h") none {} none,
        .adopt (text "h") (text "m")]
    let later : List Step :=
      [.importExport (text "h") (text "M") (some (text "s")),
        .assignFunction (text "s") (text "f"), .call (text "h") (text "M") (text "f")]
    let built := (Session.playFrom around building {}).2
    let exported := (Op.exportCurrent ⟨0⟩ (pure ()) (text "M")).perform built
    let final := (Session.playFrom around later exported.2).2
    (built.hosts.read ⟨0⟩).current = some ⟨0⟩ ∧ exported.1 = .ok (some ⟨0⟩) ∧
      (built.modules.read ⟨0⟩).script = text "old" ∧
      (final.modules.read ⟨0⟩).script = text "new" ∧
      (final.exports.read ⟨0⟩).get? (text "M") = some ⟨1⟩ ∧
      final.StandsFor ⟨0⟩ (built.modules.read ⟨0⟩) := by
  intro around again building later built exported final
  obtain ⟨-, -, exporting, ⟨history, unfolds⟩, keeping⟩ :=
    snapshot_keeps_source around later exported.2
  obtain ⟨snapshot, after, returned, -, copied⟩ :=
    exporting built built ⟨0⟩ (pure ()) (text "M") ⟨0⟩ rfl rfl
  have same : (.ok (some ⟨0⟩), exported.2) = (Except.ok (some snapshot), after) := returned
  obtain ⟨played, kept⟩ := keeping history unfolds
  refine ⟨rfl, rfl, rfl, by decide +kernel, by decide +kernel, ?_⟩
  cases same
  have stands := (kept [] history [] (List.append_nil _).symm).2 ⟨0⟩ _ copied
  rwa [List.nil_append, ← played] at stands

end Switchboard
