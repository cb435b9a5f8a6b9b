import Switchboard.Proofs.Exitless

/-!
# How loading a plugin fails

Loading a plugin has two phases, the import and the registration, and what happens in them is
arbitrary: bodies raise whatever they like, and load further plugins. `Op.perform_loadPlugin` says
what becomes of the outcome of either phase, and `Op.importName_eq_error_iff` where the first one
stops. A failure to import is turned into a plugin error in the first phase and passes through in the
second; besides, loading raises an error by itself only when there is nothing to call
(`loading_fails_as_declared`).
-/

namespace Switchboard

/-! ## Where an import stops -/

/-- The world in which an import has come so far. -/
def World.withImport (world : World) (name : Text) (state : ImportState) : World :=
  { world with imports := world.imports.put name state }

/-- Whether other plugins may stand below a name. -/
def Catalogue.isPackage (catalogue : Catalogue) (name : Text) : Bool :=
  ((catalogue.find? name).map Plugin.package).getD false

/-- Importing a plugin stops, the names above it being imported: the one above is no package, the
plugin is missing, or its body fails. -/
inductive PluginStops (catalogue : Catalogue) (run : Body → Op Unit) (name : Text)
    (parent : Option Text) (world : World) : Failure → World → Prop where
  | notPackage {above} (below : parent = some above)
      (single : catalogue.isPackage above = false) :
      PluginStops catalogue run name parent world (.importFailed (.notPackage name above)) world
  | missing (below : ∀ above, parent = some above → catalogue.isPackage above = true)
      (unknown : catalogue.find? name = none) :
      PluginStops catalogue run name parent world (.importFailed (.missing name)) world
  | body {plugin failure left}
      (below : ∀ above, parent = some above → catalogue.isPackage above = true)
      (known : catalogue.find? name = some plugin)
      (raised : (run plugin.onImport).perform (world.withImport name .loading) =
        (.error failure, left)) :
      PluginStops catalogue run name parent world failure (left.withImport name .failed)

/-- Importing a name after the names above it stops: above the name, or at the name itself. Names
that are imported already are passed over. -/
inductive ImportStops (catalogue : Catalogue) (run : Body → Op Unit) :
    (names : List Text) → World → Failure → World → Prop where
  | above {name parents world failure after}
      (fresh : (Op.isImported name).perform world = (.ok false, world))
      (stops : ImportStops catalogue run parents world failure after) :
      ImportStops catalogue run (name :: parents) world failure after
  | here {name parents world between failure after}
      (fresh : (Op.isImported name).perform world = (.ok false, world))
      (reached : (Op.importAncestry catalogue run parents).perform world = (.ok (), between))
      (still : (Op.isImported name).perform between = (.ok false, between))
      (stops : PluginStops catalogue run name parents.head? between failure after) :
      ImportStops catalogue run (name :: parents) world failure after

namespace Op

variable {catalogue : Catalogue} {run : Body → Op Unit} {name : Text} {parent : Option Text}
  {world after : World} {failure : Failure}

/-- Recording below a plugin that another one was imported always returns. -/
theorem perform_bindBelow (parent name : Text) (world : World) :
    ∃ after, (bindBelow parent name).perform world = (.ok (), after) := by
  unfold bindBelow
  split
  · rw [perform_bind, perform_get]
    dsimp only
    split
    · exact ⟨_, rfl⟩
    · exact ⟨_, rfl⟩
  · exact ⟨_, rfl⟩

/-- The import of a plugin that is found fails exactly when its body fails. The failure is the one
of the body, and the import is marked as failed. -/
theorem importBody_eq_error_iff (plugin : Plugin) {ending : Op Unit}
    (returns : ∀ moment, ∃ later, ending.perform moment = (.ok (), later)) :
    (do
      setImport name .loading
      tryCatch (run plugin.onImport) fun failure => do
        setImport name .failed
        throw failure
      setImport name .loaded
      ending : Op Unit).perform world = (.error failure, after) ↔
    ∃ left, (run plugin.onImport).perform (world.withImport name .loading) =
      (.error failure, left) ∧ after = left.withImport name .failed := by
  have marked : ∀ state (moment : World), (setImport name state).perform moment =
      (.ok (), moment.withImport name state) := fun _ _ => rfl
  simp only [perform_bind, perform_tryCatch, marked]
  rcases (run plugin.onImport).perform (world.withImport name .loading) with ⟨raised | ⟨⟩, left⟩
  · simp only [perform_throw, Prod.mk.injEq, Except.error.injEq]
    constructor
    · rintro ⟨rfl, rfl⟩
      exact ⟨left, ⟨rfl, rfl⟩, rfl⟩
    · rintro ⟨_, ⟨rfl, rfl⟩, rfl⟩
      exact ⟨rfl, rfl⟩
  · obtain ⟨later, ended⟩ := returns (left.withImport name .loaded)
    simp only [ended]
    exact iff_of_false nofun nofun

theorem importPlugin_notPackage {above : Text} (single : catalogue.isPackage above = false) :
    (importPlugin catalogue run name (some above)).perform world =
      (.error (.importFailed (.notPackage name above)), world) := by
  have packaged : ((catalogue.find? above).map Plugin.package).getD false = false := single
  unfold importPlugin
  simp only [packaged]
  rfl

/-- What becomes of an import with nothing in its way is up to the plugin. -/
theorem importPlugin_eq (run : Body → Op Unit) (name : Text) (world : World)
    (below : ∀ above, parent = some above → catalogue.isPackage above = true) :
    ∃ ending : Op Unit, (∀ moment, ∃ later, ending.perform moment = (.ok (), later)) ∧
      (catalogue.find? name = none → (importPlugin catalogue run name parent).perform world =
        (.error (.importFailed (.missing name)), world)) ∧
      ∀ plugin, catalogue.find? name = some plugin →
        (importPlugin catalogue run name parent).perform world = (do
          setImport name .loading
          tryCatch (run plugin.onImport) fun failure => do
            setImport name .failed
            throw failure
          setImport name .loaded
          ending : Op Unit).perform world := by
  unfold importPlugin
  cases parent with
  | none =>
    refine ⟨pure (), fun moment => ⟨moment, rfl⟩, fun unknown => ?_, fun plugin known => ?_⟩
    · simp only [unknown]
      rfl
    · simp only [known]
  | some above =>
    have packaged : ((catalogue.find? above).map Plugin.package).getD false = true :=
      below above rfl
    refine ⟨bindBelow above name, perform_bindBelow above name, fun unknown => ?_,
      fun plugin known => ?_⟩
    · simp only [packaged, unknown]
      rfl
    · simp only [packaged, known]
      rfl

theorem importPlugin_eq_error_iff :
    (importPlugin catalogue run name parent).perform world = (.error failure, after) ↔
      PluginStops catalogue run name parent world failure after := by
  by_cases below : ∀ above, parent = some above → catalogue.isPackage above = true
  · obtain ⟨ending, returns, missing, found⟩ := importPlugin_eq run name world below
    cases known : catalogue.find? name with
    | none =>
      rw [missing known]
      constructor
      · intro raised
        cases raised
        exact .missing below known
      · intro stops
        cases stops with
        | notPackage here single => cases single.symm.trans (below _ here)
        | missing => rfl
        | body _ knownToo => cases known.symm.trans knownToo
    | some plugin =>
      rw [found plugin known, importBody_eq_error_iff plugin returns]
      constructor
      · rintro ⟨left, raised, rfl⟩
        exact .body below known raised
      · intro stops
        cases stops with
        | notPackage here single => cases single.symm.trans (below _ here)
        | missing _ unknown => cases known.symm.trans unknown
        | body _ knownToo raised =>
          cases known.symm.trans knownToo
          exact ⟨_, raised, rfl⟩
  · obtain ⟨above, rfl, single⟩ :
        ∃ above, parent = some above ∧ catalogue.isPackage above = false := by simpa using below
    rw [importPlugin_notPackage single]
    constructor
    · intro raised
      cases raised
      exact .notPackage rfl single
    · intro stops
      cases stops with
      | notPackage here =>
        cases here
        rfl
      | missing below | body below => cases single.symm.trans (below above rfl)

/-- Importing a name after the names above it fails exactly where it stops. -/
theorem importAncestry_eq_error_iff {names : List Text} :
    (importAncestry catalogue run names).perform world = (.error failure, after) ↔
      ImportStops catalogue run names world failure after := by
  induction names generalizing world with
  | nil => exact iff_of_false nofun nofun
  | cons name parents inductionHypothesis =>
    have asked : ∀ moment, ∃ known, (isImported name).perform moment = (.ok known, moment) :=
      fun _ => ⟨_, rfl⟩
    obtain ⟨known, fresh⟩ := asked world
    rw [importAncestry, perform_bind, fresh]
    cases known with
    | true =>
      refine iff_of_false nofun fun stops => ?_
      cases stops with
      | above freshToo | here freshToo => exact nomatch fresh.symm.trans freshToo
    | false =>
      dsimp only
      rw [if_neg Bool.false_ne_true, perform_bind]
      rcases reached : (importAncestry catalogue run parents).perform world with
        ⟨raised | ⟨⟩, between⟩
      · constructor
        · intro same
          cases same
          exact .above fresh (inductionHypothesis.mp reached)
        · intro stops
          cases stops with
          | above _ stops =>
            exact reached.symm.trans (inductionHypothesis.mpr stops)
          | here _ reachedToo => exact nomatch reached.symm.trans reachedToo
      · obtain ⟨known, still⟩ := asked between
        dsimp only
        rw [perform_bind, still]
        -- nothing has stopped above the name
        have atName : ImportStops catalogue run (name :: parents) world failure after ↔
            known = false ∧ PluginStops catalogue run name parents.head? between failure after := by
          constructor
          · intro stops
            cases stops with
            | above _ stops => exact nomatch reached.symm.trans (inductionHypothesis.mpr stops)
            | here _ reachedToo stillToo stops =>
              cases reached.symm.trans reachedToo
              cases still.symm.trans stillToo
              exact ⟨rfl, stops⟩
          · rintro ⟨rfl, stops⟩
            exact .here fresh reached still stops
        rw [atName]
        cases known with
        | true => exact iff_of_false nofun nofun
        | false => simpa using importPlugin_eq_error_iff

/-- A name can not be imported when it is empty, when it begins with a dot, or when the import
of its ancestry stops. -/
theorem importName_eq_error_iff :
    (importName catalogue run name).perform world = (.error failure, after) ↔
      (name = [] ∧ failure = .emptyModuleName ∧ after = world) ∨
      (name.head? = some Reference.dot ∧ failure = .relativeImport name ∧ after = world) ∨
      (name ≠ [] ∧ name.head? ≠ some Reference.dot ∧
        ImportStops catalogue run (ancestry name) world failure after) := by
  cases name with
  | nil => simp [importName, eq_comm]
  | cons first rest =>
    by_cases relative : first = Reference.dot
    · simp [importName, relative, eq_comm]
    · rw [importName_cons relative, importAncestry_eq_error_iff]
      simp [relative]

end Op

/-! ## What is registered -/

/-- What an imported plugin offers in a world. -/
def Catalogue.offered (catalogue : Catalogue) (name : Text) (world : World) : Registration :=
  match world.imports.get? name with
  | some .loading => .absent
  | some .shadowed => .notCallable
  | _ => ((catalogue.find? name).map Plugin.registration).getD .absent

/-- Calling what a plugin offers, if it can be called. The scripts of a plugin find the host that
they are called with under a label of its own. -/
def Registration.call? (run : Body → Op Unit) (host : HostRef) : Registration → Option (Op Unit)
  | .absent => none
  | .notCallable => none
  | .greeter => some (Op.registerGreeter host)
  | .script body => some do
      Op.relabel fun labels => { labels with hosts := labels.hosts.put registeringHost host }
      run body

namespace Op

variable {catalogue : Catalogue} {run : Body → Op Unit} {host : HostRef} {name : Text}
  {world : World}

theorem perform_registration (catalogue : Catalogue) (name : Text) (world : World) :
    (registration catalogue name).perform world = (.ok (catalogue.offered name world), world) := by
  rw [registration, perform_bind, perform_get]
  unfold Catalogue.offered
  dsimp only
  rcases world.imports.get? name with _ | ⟨⟨⟩⟩ <;> rfl

/-- What is offered is called, and it is an error to offer nothing that can be called. -/
theorem register_eq (run : Body → Op Unit) (host : HostRef) (name : Text)
    (offered : Registration) :
    register run host name offered =
      match offered.call? run host with
      | none => throw (.plugin ⟨name, text "has no register(context) function"⟩)
      | some call => call := by
  cases offered <;> rfl

/-- What becomes of the import and of the registration of a plugin. -/
theorem perform_loadPlugin (catalogue : Catalogue) (run : Body → Op Unit) (host : HostRef)
    (name : Text) (world : World) :
    (loadPlugin catalogue run host name).perform world =
      match (importName catalogue run name).perform world with
      | (.error failure, between) =>
          (.error (if failure.isImportFailure then
            .plugin ⟨name, text "cannot import (" ++ failure.message ++ text ")"⟩ else failure),
            between)
      | (.ok (), between) =>
          match (catalogue.offered name between).call? run host with
          | none => (.error (.plugin ⟨name, text "has no register(context) function"⟩), between)
          | some call => (do call; log (.pluginLoaded name)).perform between := by
  rw [loadPlugin, perform_bind, perform_tryCatch]
  rcases (importName catalogue run name).perform world with ⟨failure | ⟨⟩, between⟩
  · dsimp only
    by_cases importing : failure.isImportFailure = true
    · rw [if_pos importing, if_pos importing]
      rfl
    · rw [if_neg importing, if_neg importing]
      rfl
  · dsimp only
    rw [perform_bind, perform_registration]
    dsimp only
    rw [register_eq]
    cases (catalogue.offered name between).call? run host <;> rfl

/-- A failure that loading a plugin raises by itself: it leaves the loading, and neither the import
nor the registration ended with it. -/
structure RaisedByLoading (catalogue : Catalogue) (run : Body → Op Unit) (host : HostRef)
    (name : Text) (world : World) (failure : Failure) : Prop where
  leaves : (loadPlugin catalogue run host name).failure? world = some failure
  notImport : (importName catalogue run name).failure? world ≠ some failure
  notRegistration : ∀ between call,
    (importName catalogue run name).perform world = (.ok (), between) →
    (catalogue.offered name between).call? run host = some call →
    call.failure? between ≠ some failure

/-- The failure that an import failure is turned into. -/
theorem raisedByLoading_of_import {failure : Failure} {between : World}
    (failed : (importName catalogue run name).perform world = (.error failure, between))
    (importing : failure.isImportFailure = true) :
    RaisedByLoading catalogue run host name world
      (.plugin ⟨name, text "cannot import (" ++ failure.message ++ text ")"⟩) where
  leaves := by
    rw [failure?, perform_loadPlugin, failed]
    simp only [importing, if_true]
  notImport := by
    rw [failure?, failed]
    intro same
    rw [Option.some.inj same] at importing
    cases importing
  notRegistration _ _ imported := nomatch failed.symm.trans imported

/-- The failure of a plugin with nothing to call. -/
theorem raisedByLoading_of_offered {between : World}
    (imported : (importName catalogue run name).perform world = (.ok (), between))
    (uncallable : (catalogue.offered name between).call? run host = none) :
    RaisedByLoading catalogue run host name world
      (.plugin ⟨name, text "has no register(context) function"⟩) where
  leaves := by
    rw [failure?, perform_loadPlugin, imported]
    simp only [uncallable]
  notImport := not_fails_of_returned imported
  notRegistration moment call importedToo callable := by
    cases imported.symm.trans importedToo
    cases uncallable.symm.trans callable

/-- A failure that loading raises by itself is the one of either kind, and nothing has happened
behind the import. -/
theorem RaisedByLoading.cases {failure : Failure}
    (raised : RaisedByLoading catalogue run host name world failure) :
    (∃ cause between, (importName catalogue run name).perform world = (.error cause, between) ∧
      cause.isImportFailure = true ∧
      (loadPlugin catalogue run host name).perform world = (.error failure, between) ∧
      failure = .plugin ⟨name, text "cannot import (" ++ cause.message ++ text ")"⟩) ∨
    ∃ between, (importName catalogue run name).perform world = (.ok (), between) ∧
      (catalogue.offered name between).call? run host = none ∧
      (loadPlugin catalogue run host name).perform world = (.error failure, between) ∧
      failure = .plugin ⟨name, text "has no register(context) function"⟩ := by
  obtain ⟨after, loading⟩ := failure?_eq_some_iff.mp raised.leaves
  have performed := perform_loadPlugin catalogue run host name world
  rw [loading] at performed ⊢
  rcases imported : (importName catalogue run name).perform world with ⟨cause | ⟨⟩, between⟩
  · rw [imported] at performed
    by_cases importing : cause.isImportFailure = true
    · simp only [importing, if_true] at performed
      cases performed
      exact .inl ⟨cause, _, rfl, importing, rfl, rfl⟩
    · simp only [importing, Bool.false_eq_true, if_false] at performed
      cases performed
      exact absurd (failure?_eq_some_iff.mpr ⟨_, imported⟩) raised.notImport
  · rw [imported] at performed
    cases called : (catalogue.offered name between).call? run host with
    | none =>
      simp only [called] at performed
      cases performed
      exact .inr ⟨_, rfl, called, rfl, rfl⟩
    | some call =>
      simp only [called, perform_bind] at performed
      refine absurd ?_ (raised.notRegistration between call imported called)
      rcases registered : call.perform between with ⟨thrown | ⟨⟩, left⟩
      · rw [registered] at performed
        cases performed
        exact failure?_eq_some_iff.mpr ⟨_, registered⟩
      · rw [registered] at performed
        cases performed

end Op

/-! ## Loading -/

/-- Loading a plugin fails as declared and leaves nothing half done, for all plugins, names and
hosts, and whatever bodies mean.

* Loading raises an error by itself exactly when the import fails with an import error or the plugin
  offers nothing that can be called. The error names the plugin, and the world is as the import left
  it: nothing was called.
* The import fails when the name is empty or begins with a dot, and else where the import of the
  name or of a name above it stops: at a missing plugin, below one that is no package, or in the
  body of one.
* Any other failure of the import is the failure of loading, in the world that the import left.
* What can be called is called with the host, once. If it fails, loading fails with the same
  failure in the world that the call left; if it returns, the record of the loading is the last
  event. -/
theorem loading_fails_as_declared (catalogue : Catalogue) (run : Body → Op Unit) (host : HostRef)
    (name : Text) (world : World) :
    let importing := (Op.importName catalogue run name).perform world
    let loading := (Op.loadPlugin catalogue run host name).perform world
    ((∃ failure, Op.RaisedByLoading catalogue run host name world failure) ↔
      (∃ cause between, importing = (.error cause, between) ∧ cause.isImportFailure = true) ∨
      ∃ between, importing = (.ok (), between) ∧
        (catalogue.offered name between).call? run host = none) ∧
    (∀ failure, Op.RaisedByLoading catalogue run host name world failure →
      (∃ detail, failure = .plugin ⟨name, detail⟩) ∧ loading = (.error failure, importing.2)) ∧
    (∀ cause between, importing = (.error cause, between) ↔
      (name = [] ∧ cause = .emptyModuleName ∧ between = world) ∨
      (name.head? = some Reference.dot ∧ cause = .relativeImport name ∧ between = world) ∨
      (name ≠ [] ∧ name.head? ≠ some Reference.dot ∧
        ImportStops catalogue run (ancestry name) world cause between)) ∧
    (∀ cause between, importing = (.error cause, between) → cause.isImportFailure = false →
      loading = (.error cause, between)) ∧
    ∀ between call, importing = (.ok (), between) →
      (catalogue.offered name between).call? run host = some call →
      (∀ body, catalogue.offered name between = .script body →
        ∃ start, (Op.hostAt registeringHost).perform start = (.ok host, start) ∧
          start = { between with labels := start.labels } ∧
          call.perform between = (run body).perform start) ∧
      (∀ failure after, call.perform between = (.error failure, after) →
        loading = (.error failure, after)) ∧
      ∀ after, call.perform between = (.ok (), after) →
        loading = (.ok (), after.record [.logged (.pluginLoaded name)]) ∧
        loading.2.trace.getLast? = some (.logged (.pluginLoaded name)) ∧
        (Notice.pluginLoaded name).level = .debug ∧
        (Notice.pluginLoaded name).message = text "[juli] Loaded plugin " ++ name.quoted := by
  intro importing loading
  have performed : loading = _ := Op.perform_loadPlugin catalogue run host name world
  refine ⟨?_, ?_, fun _ _ => Op.importName_eq_error_iff, ?_, ?_⟩
  · constructor
    · rintro ⟨failure, raised⟩
      rcases raised.cases with ⟨cause, between, failed, importError, -⟩ | ⟨between, done, none, -⟩
      · exact .inl ⟨cause, between, failed, importError⟩
      · exact .inr ⟨between, done, none⟩
    · rintro (⟨cause, between, failed, importError⟩ | ⟨between, done, none⟩)
      · exact ⟨_, Op.raisedByLoading_of_import failed importError⟩
      · exact ⟨_, Op.raisedByLoading_of_offered done none⟩
  · intro failure raised
    rcases raised.cases with ⟨cause, between, failed, -, loaded, named⟩ |
      ⟨between, done, -, loaded, named⟩
    · exact ⟨⟨_, named⟩, by rw [show importing = _ from failed]; exact loaded⟩
    · exact ⟨⟨_, named⟩, by rw [show importing = _ from done]; exact loaded⟩
  · intro cause between failed other
    rw [performed, show (Op.importName catalogue run name).perform world = _ from failed]
    simp only [other, Bool.false_eq_true, if_false]
  · intro between call done callable
    rw [show (Op.importName catalogue run name).perform world = _ from done] at performed
    simp only [callable, Op.perform_bind] at performed
    refine ⟨?_, ?_, ?_⟩
    · intro body offered
      rw [offered] at callable
      cases callable
      refine ⟨{ between with labels :=
        { between.labels with hosts := between.labels.hosts.put registeringHost host } }, ?_, rfl,
        rfl⟩
      refine Op.perform_resolve ?_ _
      exact (Table.get?_put _ _ _ _).trans (if_pos rfl)
    · intro failure after raised
      rw [performed, raised]
    · intro after returned
      rw [returned] at performed
      refine ⟨performed, ?_, rfl, rfl⟩
      rw [performed]
      exact List.getLast?_concat

/-- Five plugins. The import error of the first becomes an error of loading, and so does that of a
name below the third, which is no package; the third itself offers nothing. The second loads a
missing plugin while it is imported, and the error of that is not its own. The fourth raises an
error of the import kind when it is registered, which passes through and leaves what was done
before, and the fifth loads. -/
theorem loading_fails_as_declared_nested :
    let torn : Plugin :=
      { onImport := [(none, .raise .importing (text "gone"))], registration := .script [] }
    let nests : Plugin :=
      { onImport := [(none, .loadPlugin (text "h") (text "none"))], registration := .script [] }
    let late : Plugin :=
      { registration := .script [(none, .note (text "in")), (none, .raise .importing (text "late"))] }
    let good : Plugin :=
      { registration := .script [(none, .current registeringHost), (none, .note (text "in"))] }
    let catalogue : Catalogue :=
      ⟨[(text "torn", torn), (text "nests", nests), (text "bare", {}), (text "late", late),
        (text "good", good)]⟩
    let run := Op.runBody ⟨⟨fun _ => .error .notFound⟩, catalogue⟩ 2
    let world : World :=
      { exports := Store.empty.allocate .empty
        hosts := Store.empty.allocate {}
        labels := { hosts := Table.empty.put (text "h") ⟨0⟩ } }
    let loading (name : Text) := (Op.loadPlugin catalogue run ⟨0⟩ name).perform world
    let Own (name : Text) (failure : Failure) :=
      Op.RaisedByLoading catalogue run ⟨0⟩ name world failure
    (∃ detail, Own (text "torn") (.plugin ⟨text "torn", detail⟩)) ∧
      (∃ detail, Own (text "bare.x") (.plugin ⟨text "bare.x", detail⟩)) ∧
      (∃ detail, Own (text "bare") (.plugin ⟨text "bare", detail⟩)) ∧
      (¬ ∃ failure, Own (text "nests") failure) ∧
      (∃ failure, (loading (text "nests")).1 = .error failure ∧
        failure.message = text "Plugin 'none': cannot import (No module named 'none')") ∧
      (loading (text ".x")).1 = .error (.relativeImport (text ".x")) ∧
      (loading (text "late")).1 = .error (.raised .importing (text "late")) ∧
      (loading (text "late")).2.trace = [.traced (text "in") .nothing] ∧
      (loading (text "good")).1 = .ok () ∧
      (loading (text "good")).2.trace.getLast? = some (.logged (.pluginLoaded (text "good"))) := by
  intro torn nests late good catalogue run world loading Own
  have declared (name : Text) := loading_fails_as_declared catalogue run ⟨0⟩ name world
  have own : ∀ name, (∃ failure, Own name failure) →
      ∃ detail, Own name (.plugin ⟨name, detail⟩) := by
    rintro name ⟨failure, raised⟩
    obtain ⟨⟨detail, rfl⟩, -⟩ := (declared name).2.1 failure raised
    exact ⟨detail, raised⟩
  have nested : ((Op.importName catalogue run (text "nests")).failure? world).map
      (fun cause => (cause.isImportFailure, cause.message)) =
      some (false, text "Plugin 'none': cannot import (No module named 'none')") := by
    decide +kernel
  have registering : ∃ between call after,
      (Op.importName catalogue run (text "late")).perform world = (.ok (), between) ∧
      (catalogue.offered (text "late") between).call? run ⟨0⟩ = some call ∧
      call.perform between = (.error (.raised .importing (text "late")), after) ∧
      after.trace = [.traced (text "in") .nothing] := ⟨_, _, _, rfl, rfl, rfl, rfl⟩
  have registered : ∃ between call after,
      (Op.importName catalogue run (text "good")).perform world = (.ok (), between) ∧
      (catalogue.offered (text "good") between).call? run ⟨0⟩ = some call ∧
      call.perform between = (.ok (), after) := ⟨_, _, _, rfl, rfl, rfl⟩
  obtain ⟨cause, failed, known⟩ := Option.map_eq_some_iff.mp nested
  obtain ⟨other, message⟩ := Prod.mk.inj known
  obtain ⟨between, failed⟩ := Op.failure?_eq_some_iff.mp failed
  obtain ⟨_, _, _, done, callable, raised, traced⟩ := registering
  obtain ⟨_, _, _, doneToo, callableToo, returned⟩ := registered
  have passed := ((declared _).2.2.2.2 _ _ done callable).2.1 _ _ raised
  have loaded := ((declared _).2.2.2.2 _ _ doneToo callableToo).2.2 _ returned
  refine ⟨own _ ((declared _).1.mpr (.inl ⟨_, _, rfl, rfl⟩)),
    own _ ((declared _).1.mpr (.inl ⟨_, _, rfl, rfl⟩)),
    own _ ((declared _).1.mpr (.inr ⟨_, rfl, rfl⟩)), ?_,
    ⟨cause, congrArg Prod.fst ((declared _).2.2.2.1 _ _ failed other), message⟩,
    congrArg Prod.fst ((declared _).2.2.2.1 _ _ rfl rfl),
    congrArg Prod.fst passed, (congrArg (·.2.trace) passed).trans traced,
    congrArg Prod.fst loaded.1, loaded.2.1⟩
  intro own
  rcases (declared _).1.mp own with ⟨_, _, failedToo, importError⟩ | ⟨_, done, -⟩
  · cases failed.symm.trans failedToo
    exact nomatch other.symm.trans importError
  · exact nomatch failed.symm.trans done

end Switchboard
