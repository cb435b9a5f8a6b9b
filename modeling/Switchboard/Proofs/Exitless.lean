import Switchboard.Proofs.Operation
import Switchboard.Session

/-!
# Operations that raise no exit

An exit is raised in two places only; this module is about everything else. `Op.Exitless`
operations raise no exit of their own accord, and `Op.Looks` operations leave the world as it is
besides. What an exit that passes through a sequence of them comes from is then a matter of
looking behind them (`Op.Exitless.behind`, `Op.Looks.behind`).
-/

namespace Switchboard.Op

variable {α β : Type} {operation : Op α} {next : α → Op β} {world : World} {failure : Failure}
  {code : Value} {carried : Option RunResult}

/-! ## Failures of operations -/

/-- The failure that an operation ends with, carried out from a world. -/
def failure? (operation : Op α) (world : World) : Option Failure :=
  match (operation.perform world).1 with
  | .ok _ => none
  | .error failure => some failure

theorem failure?_eq_some_iff :
    operation.failure? world = some failure ↔
      ∃ after, operation.perform world = (.error failure, after) := by
  unfold failure?
  rcases operation.perform world with ⟨raised | value, after⟩ <;> simp

/-- An operation that returns does not fail. -/
theorem not_fails_of_returned {after : World} {value : α}
    (returned : operation.perform world = (.ok value, after)) :
    operation.failure? world ≠ some failure := by
  rw [failure?, returned]
  nofun

/-- A sequence fails when its first part fails, or when that returns and what comes next fails. -/
theorem failure?_bind_eq_some_iff :
    (operation >>= next).failure? world = some failure ↔
      operation.failure? world = some failure ∨
        ∃ value between, operation.perform world = (.ok value, between) ∧
          (next value).failure? between = some failure := by
  unfold failure?
  rw [perform_bind]
  rcases operation.perform world with ⟨raised | value, after⟩
  · simp
  · constructor
    · intro late
      exact .inr ⟨value, after, rfl, late⟩
    · rintro (⟨⟨⟩⟩ | ⟨_, _, ⟨⟩, late⟩)
      exact late

/-- What a handler lets through, it was given or raised itself. -/
theorem failure?_tryCatch_eq_some_iff {handler : Failure → Op α} :
    (tryCatch operation handler).failure? world = some failure ↔
      ∃ caught between, operation.perform world = (.error caught, between) ∧
        (handler caught).failure? between = some failure := by
  unfold failure?
  rw [perform_tryCatch]
  rcases operation.perform world with ⟨raised | value, after⟩
  · constructor
    · intro handled
      exact ⟨raised, after, rfl, handled⟩
    · rintro ⟨_, _, ⟨⟩, handled⟩
      exact handled
  · simp

/-! ## Operations without exits -/

/-- An operation that fails with no exit. -/
def Exitless (operation : Op α) : Prop :=
  ∀ world code carried, operation.failure? world ≠ some (.exit code carried)

/-- An operation that looks something up: it fails with no exit and leaves the world as it is. -/
structure Looks (operation : Op α) : Prop where
  exitless : operation.Exitless
  leaves : ∀ world, (operation.perform world).2 = world

namespace Exitless

/-- An operation that always returns. -/
theorem returns (always : ∀ world, operation.failure? world = none) : operation.Exitless := by
  intro world code carried exits
  rw [always world] at exits
  cases exits

protected theorem pure (value : α) : (pure value : Op α).Exitless :=
  returns fun _ => rfl

protected theorem throw (other : ∀ code carried, failure ≠ .exit code carried) :
    (throw failure : Op α).Exitless := by
  intro world code carried exits
  exact other code carried (Option.some.inj exits)

protected theorem bind (first : operation.Exitless) (second : ∀ value, (next value).Exitless) :
    (operation >>= next).Exitless := by
  intro world code carried exits
  rcases failure?_bind_eq_some_iff.mp exits with early | ⟨value, between, -, late⟩
  · exact first world code carried early
  · exact second value between code carried late

/-- An exit behind an operation without one comes from what goes on. -/
theorem behind (first : operation.Exitless)
    (exits : (operation >>= next).failure? world = some (.exit code carried)) :
    ∃ value between, operation.perform world = (.ok value, between) ∧
      (next value).failure? between = some (.exit code carried) := by
  rcases failure?_bind_eq_some_iff.mp exits with early | late
  · exact absurd early (first world code carried)
  · exact late

/-- An exit in front of operations without one comes from what was first. -/
theorem before (second : ∀ value, (next value).Exitless)
    (exits : (operation >>= next).failure? world = some (.exit code carried)) :
    operation.failure? world = some (.exit code carried) := by
  rcases failure?_bind_eq_some_iff.mp exits with early | ⟨value, between, -, late⟩
  · exact early
  · exact absurd late (second value between code carried)

end Exitless

/-- An operation whose outcome is put into a result raises the exits that it raises by itself. -/
theorem exits_returning {view : α → β}
    (exits : (do return view (← operation)).failure? world = some (.exit code carried)) :
    operation.failure? world = some (.exit code carried) :=
  Exitless.before (fun _ => .pure _) exits

namespace Looks

/-- Looking at the world. -/
theorem look (view : World → α) : (do return view (← get) : Op α).Looks where
  exitless := .returns fun _ => rfl
  leaves _ := rfl

protected theorem pure (value : α) : (pure value : Op α).Looks := ⟨.pure value, fun _ => rfl⟩

protected theorem bind (first : operation.Looks) (second : ∀ value, (next value).Looks) :
    (operation >>= next).Looks where
  exitless := first.exitless.bind fun value => (second value).exitless
  leaves world := by
    have same := first.leaves world
    rw [perform_bind]
    rcases performed : operation.perform world with ⟨raised | value, after⟩ <;>
      rw [performed] at same
    · exact same
    · exact ((second value).leaves after).trans same

/-- An exit behind something looked up comes from what goes on with it, from the same world. -/
theorem behind (first : operation.Looks)
    (exits : (operation >>= next).failure? world = some (.exit code carried)) :
    ∃ value, operation.perform world = (.ok value, world) ∧
      (next value).failure? world = some (.exit code carried) := by
  obtain ⟨value, between, found, exits⟩ := first.exitless.behind exits
  have same : between = world := by
    have left := first.leaves world
    rwa [found] at left
  exact ⟨value, same ▸ found, same ▸ exits⟩

end Looks

/-! ## Labels and programs -/

theorem looks_resolve (labels : Table α) (label : Text) : (resolve labels label).Looks := by
  unfold resolve
  split
  · exact .pure _
  · exact ⟨.throw nofun, fun _ => rfl⟩

/-- A label that was given leads to what it was given to. -/
theorem perform_resolve {labels : Table α} {label : Text} {found : α}
    (given : labels.get? label = some found) (world : World) :
    (resolve labels label).perform world = (.ok found, world) := by
  rw [resolve, given, perform_pure]

theorem looks_moduleAt (label : Text) : (moduleAt label).Looks :=
  .bind ⟨.returns fun _ => rfl, fun _ => rfl⟩ fun _ => looks_resolve _ _

theorem looks_snapshotAt (label : Text) : (snapshotAt label).Looks :=
  .bind ⟨.returns fun _ => rfl, fun _ => rfl⟩ fun _ => looks_resolve _ _

theorem looks_hostAt (label : Text) : (hostAt label).Looks :=
  .bind ⟨.returns fun _ => rfl, fun _ => rfl⟩ fun _ => looks_resolve _ _

theorem looks_exportsAt (label : ExportsLabel) : (exportsAt label).Looks := by
  cases label with
  | exports label => exact .bind ⟨.returns fun _ => rfl, fun _ => rfl⟩ fun _ => looks_resolve _ _
  | ofHost label => exact .bind (looks_hostAt label) fun _ => .look _

/-- A program that does not load does not end the process by that. -/
theorem load_endsProcess {files : FileSystem} {path : Text} {failure : Failure}
    (failed : Program.load files path = .error failure) : failure.endsProcess = false := by
  unfold Program.load at failed
  dsimp only at failed
  split at failed
  · next fault _ => cases fault <;> cases failed <;> rfl
  · unfold Program.ofOctets at failed
    split at failed
    · cases failed
      rfl
    · unfold Program.ofDocument at failed
      split at failed
      · next fault _ => cases fault <;> cases failed <;> rfl
      · unfold Program.ofValue at failed
        split at failed <;> cases failed
        rfl

theorem looks_programOf (files : FileSystem) (source : ProgramSource) (modelled : Bool) :
    (programOf files source modelled).Looks := by
  cases source with
  | values items => exact .pure _
  | file path =>
    unfold programOf
    dsimp only
    split
    · exact .pure _
    · next failure failed =>
      have raised : (throw failure : Op (List Value)).Looks := by
        refine ⟨.throw fun code carried same => ?_, fun _ => rfl⟩
        rw [same] at failed
        exact nomatch load_endsProcess failed
      exact .bind raised fun _ => .pure _

/-! ## Modules, exports and hosts -/

namespace Exitless

theorem attach (ref : ModuleRef) (source : Text) (stream : Option Stream) :
    (attach ref source stream).Exitless := by
  refine .bind (.returns fun _ => rfl) fun module => ?_
  split
  · exact .pure _
  · split
    · exact .returns fun _ => rfl
    · exact .pure _

theorem attachScript (ref : ModuleRef) : (attachScript ref).Exitless :=
  .bind (.returns fun _ => rfl) fun _ => attach _ _ _

theorem define (ref : ModuleRef) (name : Text) (action : Option NativeAction) :
    (define ref name action).Exitless := by
  cases action with
  | none => exact .returns fun _ => rfl
  | some action => exact .returns fun _ => rfl

theorem viewLabelled (label : Option Text) (ref : SnapshotRef) :
    (viewLabelled label ref).Exitless := by
  cases label with
  | none => exact .returns fun _ => rfl
  | some label => exact .returns fun _ => rfl

theorem viewFound (label : Option Text) (found : Option SnapshotRef) :
    (viewFound label found).Exitless := by
  cases found with
  | none => exact .pure _
  | some ref => exact viewLabelled label ref

theorem newHost (exports : Option ExportsRef) (reporting : Reporting) (stream : Option Stream) :
    (newHost exports reporting stream).Exitless := by
  cases exports with
  | none => exact .returns fun _ => rfl
  | some ref =>
    refine .bind (.returns fun _ => rfl) fun _ => .bind (.pure _) fun given => ?_
    cases given with
    | none => exact .returns fun _ => rfl
    | some used => exact .returns fun _ => rfl

theorem publishAt (exports : ExportsRef) (name : Text) (source : ExportLabel) :
    (publishAt exports name source).Exitless := by
  cases source with
  | module label => exact (looks_moduleAt label).exitless.bind fun _ => .returns fun _ => rfl
  | snapshot label => exact (looks_snapshotAt label).exitless.bind fun _ => .returns fun _ => rfl

end Exitless

/-- Attaching source raises the exits of its callback only, and enters that only for a module. -/
theorem exits_attachSource {host : HostRef} {callback : Op Text}
    (exits : (attachSource host callback).failure? world = some (.exit code carried)) :
    (∃ module, (world.hosts.read host).current = some module) ∧
      callback.failure? world = some (.exit code carried) := by
  obtain ⟨state, found, exits⟩ := (Looks.look fun world => world.hosts.read host).behind exits
  cases found
  split at exits
  · cases exits
  · next module current =>
    refine ⟨⟨module, current⟩, Exitless.before (fun source => ?_) exits⟩
    refine .bind (.returns fun _ => rfl) fun later => ?_
    split
    · exact .pure _
    · exact .returns fun _ => rfl

/-- Exporting raises the exits of its callback only. -/
theorem exits_exportCurrent {host : HostRef} {callback : Op Unit} {name : Text}
    (exits : (exportCurrent host callback name).failure? world = some (.exit code carried)) :
    callback.failure? world = some (.exit code carried) := by
  refine Exitless.before (fun _ => .bind (.returns fun _ => rfl) fun state => ?_) exits
  split
  · exact .returns fun _ => rfl
  · exact .returns fun _ => rfl

theorem exitless_registerGreeter (host : HostRef) : (registerGreeter host).Exitless := by
  refine .bind (.returns fun _ => rfl) fun greeter => .bind ?_ fun _ => .bind ?_ fun _ => ?_
  · refine .bind (.returns fun _ => rfl) fun _ => ?_
    exact .bind (.define _ _ _) fun _ => .define _ _ _
  · intro world code carried exits
    exact Exitless.pure _ world code carried (exits_attachSource exits).2
  · refine .bind ?_ fun _ => .pure _
    intro world code carried exits
    exact Exitless.pure _ world code carried (exits_exportCurrent exits)

/-! ## Entering functions, and leaving -/

section

variable {enter : Enter}

/-- Entering a function of a table raises the exits of the function only. -/
theorem exits_invoke {functions : FunctionTable} {owner : Option Text} {name : Text}
    (exits : (invoke enter functions owner name).failure? world = some (.exit code carried)) :
    ∃ native, functions.function? name = some native ∧
      (enter native).failure? world = some (.exit code carried) := by
  unfold invoke at exits
  split at exits
  · cases exits
  · next native defined => exact ⟨native, defined, exits_returning exits⟩

/-- Calling a function of an export raises the exits of the function only. -/
theorem exits_callDirect {host : HostRef} {module name : Text}
    (exits : (callDirect enter host module name).failure? world = some (.exit code carried)) :
    ∃ ref native, (world.exports.read (world.hosts.read host).exports).get? module = some ref ∧
      (world.snapshots.read ref).functions.get? name = some (some native) ∧
      (enter native).failure? world = some (.exit code carried) := by
  have imports : (importExport host module).Looks := ⟨.returns fun _ => rfl, fun _ => rfl⟩
  obtain ⟨found, imported, exits⟩ := imports.behind exits
  cases found with
  | none => cases exits
  | some ref =>
    have exported : (world.exports.read (world.hosts.read host).exports).get? module = some ref :=
      Except.ok.inj (congrArg Prod.fst imported)
    obtain ⟨snapshot, ⟨⟩, exits⟩ :=
      (Looks.look fun world => world.snapshots.read ref).behind exits
    split at exits
    · cases exits
    · cases exits
    · next native defined =>
      exact ⟨ref, native, exported, defined, exits_returning exits⟩

/-- A host leaves with the code that it is given, and with no result. -/
theorem exits_exit {host : HostRef} {raised : Value}
    (exits : (exit host raised).failure? world = some (.exit code carried)) :
    raised = code ∧ carried = none := by
  obtain ⟨state, -, exits⟩ := (Looks.look fun world => world.hosts.read host).behind exits
  have thrown : (throw (.exit raised none) : Op Unit).failure? world =
      some (.exit code carried) := by
    split at exits
    · obtain ⟨_, _, -, exits⟩ := Exitless.behind (.returns fun _ => rfl) exits
      exact exits
    · exact exits
  cases thrown
  exact ⟨rfl, rfl⟩

end

/-! ## Plugins -/

section

variable {catalogue : Catalogue} {run : Body → Op Unit} {name : Text}

theorem looks_isImported (name : Text) : (isImported name).Looks := .look _

theorem looks_registration (catalogue : Catalogue) (name : Text) :
    (registration catalogue name).Looks := by
  refine .bind ⟨.returns fun _ => rfl, fun _ => rfl⟩ fun world => ?_
  split <;> exact .pure _

theorem exitless_bindBelow (parent name : Text) : (bindBelow parent name).Exitless := by
  unfold bindBelow
  split
  · refine .bind (.returns fun _ => rfl) fun world => ?_
    split
    · exact .returns fun _ => rfl
    · exact .pure _
  · exact .pure _

/-- Importing a plugin raises the exits of its body only, and enters that only below a package. -/
theorem exits_importPlugin {parent : Option Text}
    (exits : (importPlugin catalogue run name parent).failure? world =
      some (.exit code carried)) :
    (∀ above, parent = some above →
        ((catalogue.find? above).map Plugin.package).getD false = true) ∧
      ∃ plugin, catalogue.find? name = some plugin ∧
        (run plugin.onImport).failure?
          { world with imports := world.imports.put name .loading } =
            some (.exit code carried) := by
  have entered : ∀ (plugin : Plugin) {ending : Op Unit}, ending.Exitless →
      (do
        setImport name .loading
        tryCatch (run plugin.onImport) fun failure => do
          setImport name .failed
          throw failure
        setImport name .loaded
        ending : Op Unit).failure? world = some (.exit code carried) →
      (run plugin.onImport).failure?
        { world with imports := world.imports.put name .loading } = some (.exit code carried) := by
    intro plugin ending quiet exits
    have loading : (setImport name .loading).Exitless := .returns fun _ => rfl
    obtain ⟨-, between, ⟨⟩, exits⟩ := loading.behind exits
    have raised := Exitless.before (fun _ => .bind (.returns fun _ => rfl) fun _ => quiet) exits
    obtain ⟨caught, left, performed, same⟩ := failure?_tryCatch_eq_some_iff.mp raised
    cases same
    exact failure?_eq_some_iff.mpr ⟨left, performed⟩
  unfold importPlugin at exits
  cases parent with
  | none =>
    cases known : catalogue.find? name with
    | none =>
      rw [known] at exits
      cases exits
    | some plugin =>
      rw [known] at exits
      exact ⟨nofun, plugin, rfl, entered plugin (.pure _) exits⟩
  | some parent =>
    dsimp only at exits
    split at exits
    · next package =>
      have below : ∀ above, some parent = some above →
          ((catalogue.find? above).map Plugin.package).getD false = true := by
        rintro _ ⟨⟩
        exact package
      cases known : catalogue.find? name with
      | none =>
        rw [known] at exits
        cases exits
      | some plugin =>
        rw [known] at exits
        exact ⟨below, plugin, rfl, entered plugin (exitless_bindBelow parent name) exits⟩
    · cases exits

/-- A dotted name that does not begin with a dot is imported with its ancestry. -/
theorem importName_cons {catalogue : Catalogue} {first : CodePoint} {rest : Text}
    (absolute : first ≠ Reference.dot) :
    importName catalogue run (first :: rest) =
      importAncestry catalogue run (ancestry (first :: rest)) :=
  if_neg absolute

/-- Importing a dotted name raises the exits of importing its ancestry only. -/
theorem exits_importName
    (exits : (importName catalogue run name).failure? world = some (.exit code carried)) :
    ∃ first rest, name = first :: rest ∧ first ≠ Reference.dot ∧
      (importAncestry catalogue run (ancestry name)).failure? world =
        some (.exit code carried) := by
  cases name with
  | nil => cases exits
  | cons first rest =>
    unfold importName at exits
    dsimp only at exits
    split at exits
    · cases exits
    · next absolute => exact ⟨first, rest, rfl, absolute, exits⟩

/-- Loading a plugin raises the exits of its import, or of its registration once it is imported. -/
theorem exits_loadPlugin {host : HostRef}
    (exits : (loadPlugin catalogue run host name).failure? world = some (.exit code carried)) :
    (importName catalogue run name).failure? world = some (.exit code carried) ∨
      ∃ between body, (importName catalogue run name).perform world = (.ok (), between) ∧
        (registration catalogue name).perform between = (.ok (.script body), between) ∧
        (run body).failure?
          { between with
            labels :=
              { between.labels with hosts := between.labels.hosts.put registeringHost host } } =
            some (.exit code carried) := by
  unfold loadPlugin at exits
  rcases failure?_bind_eq_some_iff.mp exits with early | ⟨_, between, imported, exits⟩
  · obtain ⟨caught, left, performed, handled⟩ := failure?_tryCatch_eq_some_iff.mp early
    split at handled
    · cases handled
    · cases handled
      exact .inl (failure?_eq_some_iff.mpr ⟨left, performed⟩)
  · rw [perform_tryCatch] at imported
    obtain ⟨offered, found, exits⟩ := (looks_registration catalogue name).behind exits
    have exits := Exitless.before (fun _ => .returns fun _ => rfl) exits
    cases offered with
    | absent => cases exits
    | notCallable => cases exits
    | greeter => exact absurd exits (exitless_registerGreeter host between code carried)
    | script body =>
      refine .inr ⟨between, body, ?_, found, exits⟩
      rcases performed : (importName catalogue run name).perform world with ⟨raised | _, left⟩
      · rw [performed] at imported
        dsimp only at imported
        split at imported <;> cases imported
      · rw [performed] at imported
        exact imported

end

/-! ## Steps -/

/-- Whether a step neither enters code of the host nor leaves with an exit itself. -/
def isPlain : Step → Bool
  | .attempt _ => false
  | .invoke _ _ => false
  | .invokeSnapshot _ _ => false
  | .build _ _ _ => false
  | .attachSource _ _ _ => false
  | .exportCurrent _ _ _ _ => false
  | .call _ _ _ => false
  | .exit _ _ => false
  | .run _ _ _ => false
  | .execute _ _ _ _ _ => false
  | .loadPlugin _ _ => false
  | _ => true

/-- No plain step raises an exit. -/
theorem exitless_performStep (around : Surroundings) (run : Body → Op Unit) {step : Step}
    (plain : isPlain step = true) : (performStep around run step).Exitless := by
  cases step with
  | attempt | invoke | invokeSnapshot | build | attachSource | exportCurrent | call | exit | run
  | execute | loadPlugin => cases plain
  | note | print | newModule | newExports => exact .returns fun _ => rfl
  | raise => exact .throw nofun
  | define module | decorate module =>
    refine .bind ?_ fun _ => .pure _
    exact (looks_moduleAt module).exitless.bind fun _ => Exitless.define _ _ _
  | setScript module | setEcho module =>
    exact (looks_moduleAt module).exitless.bind fun _ => .returns fun _ => rfl
  | attach module =>
    refine (looks_moduleAt module).exitless.bind fun _ => ?_
    exact .bind (Exitless.attach _ _ _) fun _ => .pure _
  | attachScript module =>
    refine (looks_moduleAt module).exitless.bind fun _ => ?_
    exact .bind (Exitless.attachScript _) fun _ => .pure _
  | compareModules first second =>
    refine (looks_moduleAt first).exitless.bind fun _ => .bind (.returns fun _ => rfl) fun _ => ?_
    exact (looks_moduleAt second).exitless.bind fun _ => .returns fun _ => rfl
  | takeSnapshot module =>
    refine (looks_moduleAt module).exitless.bind fun _ => ?_
    exact .bind (.returns fun _ => rfl) fun _ => Exitless.viewLabelled _ _
  | newSnapshot => exact .bind (.returns fun _ => rfl) fun _ => Exitless.viewLabelled _ _
  | hasFunction snapshot | viewSnapshot snapshot =>
    exact (looks_snapshotAt snapshot).exitless.bind fun _ => .returns fun _ => rfl
  | compareSnapshots first second =>
    refine (looks_snapshotAt first).exitless.bind fun _ => .bind (.returns fun _ => rfl) fun _ => ?_
    exact (looks_snapshotAt second).exitless.bind fun _ => .returns fun _ => rfl
  | sameSnapshot first second =>
    refine (looks_snapshotAt first).exitless.bind fun _ => ?_
    exact (looks_snapshotAt second).exitless.bind fun _ => .pure _
  | assignField snapshot | assignFunction snapshot =>
    refine .bind ((looks_snapshotAt snapshot).exitless.bind fun _ => .pure _) fun _ => .throw nofun
  | labelExports host | setReporting host | current host =>
    exact (looks_hostAt host).exitless.bind fun _ => .returns fun _ => rfl
  | sameExports host exports =>
    refine (looks_hostAt host).exitless.bind fun _ => .bind (.returns fun _ => rfl) fun _ => ?_
    exact (looks_exportsAt _).exitless.bind fun _ => .pure _
  | publish exports =>
    exact (looks_exportsAt exports).exitless.bind fun _ => Exitless.publishAt _ _ _
  | lookup exports =>
    refine (looks_exportsAt exports).exitless.bind fun _ => ?_
    exact .bind (.returns fun _ => rfl) fun _ => Exitless.viewFound _ _
  | listNames exports | countNames exports | containsName exports | listExports exports =>
    exact (looks_exportsAt exports).exitless.bind fun _ => .returns fun _ => rfl
  | newHost label exports reporting stream =>
    have made : ∀ given, (do
        let ref ← newHost given reporting stream
        relabel fun labels => { labels with hosts := labels.hosts.put label ref }
        return .nothing : Op StepResult).Exitless := fun given =>
      .bind (Exitless.newHost given reporting stream) fun _ => .returns fun _ => rfl
    cases exports with
    | none => exact made none
    | some given =>
      refine .bind ?_ made
      rw [map_eq_pure_bind]
      exact (looks_exportsAt _).exitless.bind fun _ => .pure _
  | adopt host module =>
    refine (looks_hostAt host).exitless.bind fun _ => ?_
    exact (looks_moduleAt module).exitless.bind fun _ => .returns fun _ => rfl
  | importExport host =>
    refine (looks_hostAt host).exitless.bind fun _ => ?_
    exact .bind (.returns fun _ => rfl) fun _ => Exitless.viewFound _ _

end Switchboard.Op
