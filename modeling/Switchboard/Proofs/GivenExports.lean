import Switchboard.Proofs.ExportOrder
import Switchboard.Proofs.Persistence
import Switchboard.Proofs.Walk

/-!
# Hosts on a given export table

A host that is made on an export table with entries uses that table ever after: what it imports,
what it exports and what its programs call is in the table, whoever exported it. A host that is
made on a table without entries uses a table of its own, and nothing that is exported to the one
shows in the other (`host_uses_given_table_iff`).
-/

namespace Switchboard

/-! ## Exports through tables and hosts -/

/-- An export: straight to the table, or by a host once its callback has returned. -/
inductive ExportRoute where
  | direct (name : Text) (source : ExportSource)
  | byHost (host : HostRef) (callback : Body) (name : Text)

/-- Export on some route. A host comes to the table only if it uses it. -/
def Op.exportOn (around : Surroundings) (table : ExportsRef) : ExportRoute → Op Unit
  | .direct name source => exportAs table name source
  | .byHost host callback name =>
      discard (exportCurrent host (runBody around maxDepth callback) name)

/-- The world after exports one after another, some of which may fail. -/
def World.afterExports (around : Surroundings) (table : ExportsRef) (world : World)
    (routes : List ExportRoute) : World :=
  routes.foldl (fun before route => ((Op.exportOn around table route).perform before).2) world

/-- A host in use that uses a table. -/
structure World.Uses (world : World) (host : HostRef) (table : ExportsRef) : Prop where
  used : host.address < world.hosts.size
  exports : (world.hosts.read host).exports = table

/-- A host and a table are two handles on one store: what is imported through the host is what
the table has, what the host exports is then in the table, and a program of the host enters the
functions that the table leads to at that moment. -/
structure World.Serves (around : Surroundings) (world : World) (host : HostRef)
    (table : ExportsRef) : Prop where
  imports : ∀ name, (Op.importExport host name).perform world =
    (.ok ((world.exports.read table).get? name), world)
  exports : ∀ callback name snapshot after,
    (Op.exportCurrent host (Op.runBody around Op.maxDepth callback) name).perform world =
      (.ok (some snapshot), after) → (after.exports.read table).get? name = some snapshot
  runs : ∃ engine : Engine, engine.exports = table ∧
    ∀ enter program, (Op.runProgram enter host program).perform world =
        (engine.run enter program).perform world ∧
      ∀ visit ∈ engine.visits enter program world, ∀ native,
        engine.verdictOn visit = .entered native ↔
          visit.item.demand.callee? (visit.world.entries table) = some native

namespace World

variable {around : Surroundings} {world : World} {host : HostRef} {table : ExportsRef}

/-- A host uses its table in every later world. -/
theorem Uses.later (uses : world.Uses host table) {after : World}
    (persists : world.Persists after) : after.Uses host table where
  used := Nat.lt_of_lt_of_le uses.used persists.hosts
  exports := (persists.exports uses.used).trans uses.exports

/-- A host serves the table that it uses. -/
theorem Uses.serves (uses : world.Uses host table) (around : Surroundings) :
    world.Serves around host table where
  imports name := by
    rw [← uses.exports]
    rfl
  exports callback name snapshot after exported := by
    have called := Op.persistent_discipline.runBody around Op.maxDepth callback world
    rw [Op.perform_exportCurrent] at exported
    rcases performed : (Op.runBody around Op.maxDepth callback).perform world with
      ⟨failure | ⟨⟩, between⟩ <;> rw [performed] at exported called
    · cases exported
    · dsimp only at exported
      split at exported
      · cases exported
      · cases exported
        rw [← (uses.later called).exports]
        exact get?_published _ _ _ _
  runs :=
    ⟨⟨table, (world.hosts.read host).reporting, (world.hosts.read host).stream⟩, rfl,
      fun enter program => ⟨by rw [← uses.exports]; rfl,
        fun visit _ native => Engine.verdict_eq_entered_iff _ _ _ _ native⟩⟩

/-- Exporting on any route leaves settled things as they are. -/
theorem persistent_exportOn (around : Surroundings) (table : ExportsRef) (route : ExportRoute) :
    (Op.exportOn around table route).Persistent := by
  have discipline := Op.persistent_discipline
  cases route with
  | direct name source =>
    cases source with
    | module ref => exact discipline.takeSnapshot ref (discipline.publish table name)
    | snapshot ref => exact discipline.publish table name ref
  | byHost host callback name =>
    have called := discipline.runBody around Op.maxDepth callback
    exact discipline.exportCurrent host called name (discipline.pure ())
      (discipline.regardless (discipline.pure ()))

theorem persists_afterExports (around : Surroundings) (table : ExportsRef) (world : World)
    (routes : List ExportRoute) : world.Persists (world.afterExports around table routes) := by
  induction routes generalizing world with
  | nil => exact .refl world
  | cons route rest inductionHypothesis =>
    exact (persistent_exportOn around table route world).trans (inductionHypothesis _)

/-- Of two hosts that use one table, the one imports what the other exported. -/
theorem Uses.shares {twin : HostRef} (uses : world.Uses host table)
    (usesToo : world.Uses twin table) {callback : Body} {name : Text} {snapshot : SnapshotRef}
    {after : World}
    (exported : (Op.exportCurrent host (Op.runBody around Op.maxDepth callback) name).perform
      world = (.ok (some snapshot), after)) :
    (Op.importExport twin name).perform after = (.ok (some snapshot), after) := by
  have persists : world.Persists after := by
    have left := persistent_exportOn around table (.byHost host callback name) world
    have returned : (Op.exportOn around table (.byHost host callback name)).perform world =
        (.ok (), after) := by
      change (Op.exportCurrent host (Op.runBody around Op.maxDepth callback) name >>=
        fun _ => pure ()).perform world = _
      rw [Op.perform_bind, exported]
      rfl
    rwa [returned] at left
  rw [((usesToo.later persists).serves around).imports,
    (uses.serves around).exports callback name snapshot after exported]

end World

/-! ## Making hosts -/

/-- A host that is made on a table with entries uses it. -/
theorem Op.perform_newHost_given {world : World} {table : ExportsRef}
    (entries : (world.exports.read table).size ≠ 0) (reporting : Reporting)
    (stream : Option Stream) :
    (newHost (some table) reporting stream).perform world =
      (.ok world.hosts.next,
        { world with hosts := world.hosts.allocate ⟨table, reporting, stream, none⟩ }) := by
  rw [newHost, perform_bind, perform_readExports]
  simp only [if_neg entries]
  rfl

/-- A host that is made on a table without entries uses a new one. -/
theorem Op.perform_newHost_fresh {world : World} {table : ExportsRef}
    (empty : (world.exports.read table).size = 0) (reporting : Reporting)
    (stream : Option Stream) :
    (newHost (some table) reporting stream).perform world =
      (.ok world.hosts.next,
        { world with
          exports := world.exports.allocate .empty
          hosts := world.hosts.allocate ⟨world.exports.next, reporting, stream, none⟩ }) := by
  rw [newHost, perform_bind, perform_readExports]
  simp only [if_pos empty]
  rfl

/-- A host that is made is in use and has what it was made with. -/
theorem World.uses_addHost (world : World) (host : Host) :
    World.Uses { world with hosts := world.hosts.allocate host } world.hosts.next
      host.exports where
  used := Nat.lt_succ_self _
  exports := congrArg Host.exports (Store.read_allocate_next _ _)

/-- What is exported straight to a table does not show through a host that uses another. -/
theorem World.Uses.not_serves (around : Surroundings) {world : World} {host : HostRef}
    {table other : ExportsRef} (uses : world.Uses host other) (apart : other ≠ table) (name : Text)
    (missing : (world.exports.read other).get? name = none) (snapshot : SnapshotRef) :
    ¬ (world.afterExports around table [.direct name (.snapshot snapshot)]).Serves around host
      table := by
  intro serves
  have persists := world.persists_afterExports around table [.direct name (.snapshot snapshot)]
  have here := serves.imports name
  have there := ((uses.later persists).serves around).imports name
  have exported : ((world.afterExports around table
      [.direct name (.snapshot snapshot)]).exports.read table).get? name = some snapshot :=
    World.get?_published world table name snapshot
  have untouched : (world.afterExports around table
      [.direct name (.snapshot snapshot)]).exports.read other = world.exports.read other :=
    Store.read_write_other _ _ apart
  rw [exported] at here
  rw [untouched, missing, here] at there
  cases there

/-- A host made on a given table serves that table after all exports, whatever their routes,
exactly when the table has entries at that moment. It then shares it with every other host on
the table: each imports what the other exported. -/
theorem host_uses_given_table_iff (around : Surroundings) (world : World) (table : ExportsRef)
    (known : table.address < world.exports.size) (reporting : Reporting)
    (stream : Option Stream) :
    ∃ host made,
      (Op.newHost (some table) reporting stream).perform world = (.ok host, made) ∧
      ((∀ routes, (made.afterExports around table routes).Serves around host table) ↔
        (world.exports.read table).size ≠ 0) ∧
      ((world.exports.read table).size ≠ 0 → ∀ twin, world.Uses twin table →
        ∀ routes callback name snapshot after,
          ((Op.exportCurrent host (Op.runBody around Op.maxDepth callback) name).perform
              (made.afterExports around table routes) = (.ok (some snapshot), after) →
            (Op.importExport twin name).perform after = (.ok (some snapshot), after)) ∧
          ((Op.exportCurrent twin (Op.runBody around Op.maxDepth callback) name).perform
              (made.afterExports around table routes) = (.ok (some snapshot), after) →
            (Op.importExport host name).perform after = (.ok (some snapshot), after))) := by
  by_cases entries : (world.exports.read table).size = 0
  · refine ⟨_, _, Op.perform_newHost_fresh entries reporting stream, ?_, absurd entries⟩
    refine iff_of_false ?_ (not_not_intro entries)
    intro serves
    -- the new table is another one, and it has nothing under any name
    have apart : world.exports.next ≠ table := by
      rintro rfl
      exact Nat.lt_irrefl _ known
    have uses := World.uses_addHost { world with exports := world.exports.allocate .empty }
      ⟨world.exports.next, reporting, stream, none⟩
    refine uses.not_serves around apart [] ?_ ⟨0⟩ (serves _)
    exact congrArg (Table.get? · []) (Store.read_allocate_next _ _)
  · have uses := world.uses_addHost ⟨table, reporting, stream, none⟩
    have persists := world.persists_addHost ⟨table, reporting, stream, none⟩
    refine ⟨_, _, Op.perform_newHost_given entries reporting stream, ?_, ?_⟩
    · refine iff_of_true (fun routes => ?_) entries
      exact (uses.later (World.persists_afterExports around table _ routes)).serves around
    · intro _ twin usesToo routes callback name snapshot after
      have later := World.persists_afterExports around table
        { world with hosts := world.hosts.allocate ⟨table, reporting, stream, none⟩ } routes
      have here := uses.later later
      have there := usesToo.later (persists.trans later)
      exact ⟨here.shares there, there.shares here⟩

/-- Two hosts on a table with one entry: what the second exports, from within a callback that
exports to the table itself, the first imports. -/
theorem host_uses_given_table_iff_entries :
    let around : Surroundings := ⟨⟨fun _ => .error .notFound⟩, ⟨[]⟩⟩
    let start : World := (Session.play around
      [.newExports (text "r"), .newModule (text "m") none [] true none,
        .publish (.exports (text "r")) (text "A") (.module (text "m")),
        .newHost (text "g") (some (text "r")) {} none, .adopt (text "g") (text "m")]).2
    let callback : Body := [(none, .publish (.exports (text "r")) (text "B") (.module (text "m")))]
    (⟨0⟩ : ExportsRef).address < start.exports.size ∧
      ∃ host made after,
        (Op.newHost (some ⟨0⟩) {} none).perform start = (.ok host, made) ∧
        (∀ routes, (made.afterExports around ⟨0⟩ routes).Serves around host ⟨0⟩) ∧
        (Op.exportCurrent ⟨0⟩ (Op.runBody around Op.maxDepth callback) (text "C")).perform made =
          (.ok (some ⟨2⟩), after) ∧
        (Op.importExport host (text "C")).perform after = (.ok (some ⟨2⟩), after) := by
  intro around start callback
  have known : (⟨0⟩ : ExportsRef).address < start.exports.size := by decide +kernel
  have entries : (start.exports.read ⟨0⟩).size ≠ 0 := by decide +kernel
  have uses : start.Uses ⟨0⟩ ⟨0⟩ := ⟨by decide +kernel, by decide +kernel⟩
  obtain ⟨host, made, performed, serves, shared⟩ :=
    host_uses_given_table_iff around start ⟨0⟩ known {} none
  have exported : ∃ after, (Op.exportCurrent ⟨0⟩ (Op.runBody around Op.maxDepth callback)
      (text "C")).perform made = (.ok (some ⟨2⟩), after) := by
    cases performed
    exact ⟨_, rfl⟩
  obtain ⟨after, exported⟩ := exported
  refine ⟨known, host, made, after, performed, serves.mpr entries, exported, ?_⟩
  exact (shared entries ⟨0⟩ uses [] callback (text "C") ⟨2⟩ after).2 exported

/-- A host made on a table without entries imports nothing that is exported to that table
afterwards, although the table has it. -/
theorem host_on_empty_table_sees_no_export :
    let around : Surroundings := ⟨⟨fun _ => .error .notFound⟩, ⟨[]⟩⟩
    let records := (Session.play around
      [.newExports (text "r"), .newHost (text "h") (some (text "r")) {} none,
        .newSnapshot (text "s") none [],
        .publish (.exports (text "r")) (text "M") (.snapshot (text "s")),
        .containsName (.exports (text "r")) (text "M"),
        .importExport (text "h") (text "M") none]).1
    (records.drop 4).map (fun record => record.outcome) = [.ok (.flag true), .ok .nothing] := rfl

end Switchboard
