import Switchboard.Proofs.CopyOnExport
import Switchboard.Proofs.Persistence

/-!
# What follows a callback

Exporting and attaching source both enter a callback that may do anything, select another module
included. `Op.perform_exportCurrent` and `Op.perform_attachSource` say what comes before the
callback and what comes after it. Both act on the module that is current when the callback has
returned, change nothing else, and add nothing of their own to a callback that fails
(`current_module_after_callback`).
-/

namespace Switchboard

/-! ## Trimming -/

namespace Text

/-- A text is what is left of another one without the blanks at its ends: all that stands around
it is blank, and it neither begins nor ends with a blank. -/
structure TrimsTo (source trimmed : Text) : Prop where
  around : ∃ lead trail, source = lead ++ trimmed ++ trail ∧
    (∀ point ∈ lead, isBlank point = true) ∧ ∀ point ∈ trail, isBlank point = true
  opens : ∀ point, trimmed.head? = some point → isBlank point = false
  closes : ∀ point, trimmed.getLast? = some point → isBlank point = false

/-- Blanks come before what is left of a text without the blanks at its beginning. -/
theorem exists_trimStart (source : Text) :
    ∃ lead, source = lead ++ trimStart source ∧ ∀ point ∈ lead, isBlank point = true := by
  refine ⟨source.takeWhile isBlank, List.takeWhile_append_dropWhile.symm, ?_⟩
  exact List.all_eq_true.mp List.all_takeWhile

theorem isBlank_head_trimStart {source : Text} {point : CodePoint}
    (opens : (trimStart source).head? = some point) : isBlank point = false := by
  have unblank := List.head?_dropWhile_not isBlank source
  rw [show (source.dropWhile isBlank).head? = some point from opens] at unblank
  exact unblank

theorem trimsTo_trim (source : Text) : source.TrimsTo source.trim := by
  obtain ⟨lead, leading, blankLead⟩ := exists_trimStart source
  obtain ⟨trail, trailing, blankTrail⟩ := exists_trimStart (trimStart source).reverse
  -- The blanks at the end are those at the beginning of the text read backwards.
  have inner : trimStart source = source.trim ++ trail.reverse := by
    rw [trim, ← List.reverse_append, ← trailing, List.reverse_reverse]
  refine ⟨⟨lead, trail.reverse, ?_, blankLead, ?_⟩, ?_, ?_⟩
  · rw [List.append_assoc, ← inner]
    exact leading
  · intro point inside
    exact blankTrail point (List.mem_reverse.mp inside)
  · intro point opens
    apply isBlank_head_trimStart
    rw [inner, List.head?_append, opens, Option.some_or]
  · intro point closes
    apply isBlank_head_trimStart
    rwa [trim, List.getLast?_reverse] at closes

end Text

/-! ## What is left behind -/

namespace World

/-- Between two worlds a new snapshot with the content of a module was stored under a name of an
export table and logged. Every other entry and snapshot is as it was, and so is all else. -/
structure ExportedAs (between after : World) (exports : ExportsRef) (name : Text)
    (snapshot : SnapshotRef) (source : Module) : Prop where
  fresh : between.snapshots.size ≤ snapshot.address
  copied : after.Copied snapshot source
  stored : (after.exports.read exports).get? name = some snapshot
  entries : ∀ table other, table ≠ exports ∨ other ≠ name →
    (after.exports.read table).get? other = (between.exports.read table).get? other
  snapshots : ∀ other, other ≠ snapshot →
    after.snapshots.read other = between.snapshots.read other
  rest : after = { between with
    snapshots := ⟨after.snapshots.cells, between.snapshots.size + 1⟩
    exports := ⟨after.exports.cells, between.exports.size⟩
    trace := between.trace ++
      [.logged (.published name ((between.exports.read exports).contains name))] }

/-- Between two worlds a module was given a script, and nothing else changed. -/
structure Rescripted (between after : World) (module : ModuleRef) (script : Text) : Prop where
  given : after.modules.read module = { between.modules.read module with script }
  others : ∀ other, other ≠ module → after.modules.read other = between.modules.read other
  rest : after = { between with modules := ⟨after.modules.cells, between.modules.size⟩ }

theorem exportedAs (between : World) (exports : ExportsRef) (name : Text) (source : ModuleRef) :
    between.ExportedAs (between.applyAll
        [.snapshotTaken source, .published exports name between.snapshots.next]) exports name
      between.snapshots.next (between.modules.read source) where
  fresh := Nat.le_refl _
  copied := (Copied.taken between source).applyAll [_]
  stored := get?_published _ _ _ _
  entries table other elsewhere := by
    change ((between.exports.write exports _).read table).get? other = _
    by_cases same : table = exports
    · subst same
      have different : ¬ name = other := by
        rintro rfl
        simp at elsewhere
      rw [Store.read_write_same, Table.get?_put, if_neg different]
      rfl
    · rw [Store.read_write_other _ _ same]
  snapshots other different := Store.read_allocate_other _ _ different
  rest := rfl

theorem rescripted (between : World) (module : ModuleRef) (script : Text) :
    between.Rescripted
      (between.apply (.moduleChanged module fun content => { content with script }))
      module script where
  given := Store.read_write_same _ _ _
  others _ different := Store.read_write_other _ _ different
  rest := rfl

end World

namespace Op

/-- Source is attached to the module that is current after the callback. A host without a module
does not enter the callback, and when the callback fails nothing is attached. -/
theorem perform_attachSource (host : HostRef) (callback : Op Text) (world : World) :
    (attachSource host callback).perform world =
      if (world.hosts.read host).current = none then
        (.ok (), world.record [.logged .sourceWithoutModule])
      else
        match callback.perform world with
        | (.error failure, between) => (.error failure, between)
        | (.ok source, between) =>
            match (between.hosts.read host).current with
            | none => (.ok (), between)
            | some module => (.ok (), between.apply (.moduleChanged module fun content =>
                { content with script := source.trim })) := by
  have read : ∀ moment, (readHost host).perform moment = (.ok (moment.hosts.read host), moment) :=
    fun _ => rfl
  rw [attachSource, perform_bind, read]
  dsimp only
  cases (world.hosts.read host).current with
  | none => rfl
  | some module =>
    dsimp only
    rw [if_neg nofun, perform_bind]
    rcases callback.perform world with ⟨failure | source, between⟩
    · rfl
    · dsimp only
      rw [perform_bind, read]
      dsimp only
      cases (between.hosts.read host).current with
      | none | some => rfl

end Op

/-! ## Exporting and attaching -/

/-- Exporting and attaching source act on the module that is current after their callback, from
every world and for every callback.

* An export whose callback fails fails with it and leaves the world of the callback. When no
  module is current after the callback the export returns nothing and leaves only a log record.
  Otherwise it returns a snapshot of the module that is current then, as it is then, and stores
  exactly this snapshot under the name.
* Attaching source without a current module does not enter the callback and leaves only a log
  record. Otherwise a callback that fails is all that happens, and one that returns a text
  has it trimmed and set as the script of the module that is current then.
* The callbacks of host scripts never leave a host without a module that had one before. -/
theorem current_module_after_callback (host : HostRef) (world : World) :
    (∀ (callback : Op Unit) (name : Text),
      let exported := (Op.exportCurrent host callback name).perform world
      (∀ failure between, callback.perform world = (.error failure, between) →
        exported = (.error failure, between)) ∧
      ∀ between, callback.perform world = (.ok (), between) →
        ((between.hosts.read host).current = none →
          exported = (.ok none, between.record [.logged (.nothingToExport name)])) ∧
        ∀ source, (between.hosts.read host).current = some source →
          ∃ snapshot after, exported = (.ok (some snapshot), after) ∧
            between.ExportedAs after (between.hosts.read host).exports name snapshot
              (between.modules.read source)) ∧
    (∀ callback : Op Text,
      let attached := (Op.attachSource host callback).perform world
      ((world.hosts.read host).current = none →
        attached = (.ok (), world.record [.logged .sourceWithoutModule])) ∧
      ((world.hosts.read host).current ≠ none →
        (∀ failure between, callback.perform world = (.error failure, between) →
          attached = (.error failure, between)) ∧
        ∀ source between module, callback.perform world = (.ok source, between) →
          (between.hosts.read host).current = some module →
          ∃ after, attached = (.ok (), after) ∧ source.TrimsTo source.trim ∧
            between.Rescripted after module source.trim)) ∧
    ∀ around depth body, host.address < world.hosts.size →
      (world.hosts.read host).current ≠ none →
        ∃ module, (((Op.runBody around depth body).perform world).2.hosts.read host).current =
          some module := by
  refine ⟨?_, ?_, ?_⟩
  · intro callback name exported
    have performed : exported = _ := Op.perform_exportCurrent host callback name world
    constructor
    · intro failure between raised
      rw [performed, raised]
    · intro between returned
      rw [performed, returned]
      constructor
      · intro idle
        simp only [idle]
        rfl
      · intro source current
        simp only [current]
        exact ⟨_, _, rfl, between.exportedAs _ name source⟩
  · intro callback attached
    have performed : attached = _ := Op.perform_attachSource host callback world
    constructor
    · intro idle
      rw [performed, if_pos idle]
    · intro working
      rw [if_neg working] at performed
      constructor
      · intro failure between raised
        rw [performed, raised]
      · intro source between module returned current
        rw [performed, returned]
        simp only [current]
        exact ⟨_, rfl, source.trimsTo_trim, between.rescripted module source.trim⟩
  · intro around depth body used working
    exact Op.current_after_runBody around depth body used working

/-- A host works on the first of two modules. The callback gives the first module a script and
selects the second one: the second one is exported, and the second one is given the source. -/
theorem current_module_after_callback_selecting :
    let world : World :=
      { modules := (Store.empty.allocate { name := some (text "m") }).allocate
          { name := some (text "n"), script := text "old" }
        exports := Store.empty.allocate .empty
        hosts := Store.empty.allocate { current := some ⟨0⟩ } }
    let selecting : Op Unit := do
      Op.updateModule ⟨0⟩ fun content => { content with script := text "one" }
      Op.adopt ⟨0⟩ ⟨1⟩
    let exported := (Op.exportCurrent ⟨0⟩ selecting (text "N")).perform world
    let attached :=
      (Op.attachSource ⟨0⟩ (do selecting; return text " two\n\n")).perform world
    let failed := (Op.attachSource ⟨0⟩ (do selecting; throw .notCallable)).perform world
    ∃ snapshot, exported.1 = .ok (some snapshot) ∧
      (exported.2.exports.read ⟨0⟩).get? (text "N") = some snapshot ∧
      (exported.2.snapshots.read snapshot).name = some (text "n") ∧
      (exported.2.snapshots.read snapshot).script = text "old" ∧
      attached.1 = .ok () ∧ (attached.2.modules.read ⟨1⟩).script = text "two" ∧
      (attached.2.modules.read ⟨0⟩).script = text "one" ∧
      failed.1 = .error .notCallable ∧ (failed.2.modules.read ⟨1⟩).script = text "old" := by
  intro world selecting exported attached failed
  obtain ⟨exporting, attaching, -⟩ := current_module_after_callback ⟨0⟩ world
  let between := (selecting.perform world).2
  have selected : (between.hosts.read ⟨0⟩).current = some ⟨1⟩ := rfl
  obtain ⟨snapshot, after, returned, was⟩ :=
    ((exporting selecting (text "N")).2 between rfl).2 ⟨1⟩ selected
  obtain ⟨passesOn, attaches⟩ :=
    (attaching (do selecting; return text " two\n\n")).2 nofun
  obtain ⟨later, done, -, rescripted⟩ := attaches (text " two\n\n") between ⟨1⟩ rfl selected
  have raised := ((attaching (do selecting; throw .notCallable)).2 nofun).1 .notCallable between rfl
  have trimmed : (text " two\n\n").trim = text "two" := by decide
  rw [trimmed] at rescripted
  rw [show exported = _ from returned, show attached = _ from done, show failed = _ from raised]
  refine ⟨snapshot, rfl, was.stored, was.copied.name, was.copied.script, rfl, ?_, ?_, rfl, rfl⟩
  · rw [rescripted.given]
  · rw [rescripted.others ⟨0⟩ nofun]
    rfl

end Switchboard
