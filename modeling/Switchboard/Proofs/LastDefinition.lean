import Mathlib.Data.List.Perm.Subperm
import Switchboard.Proofs.CopyOnExport
import Switchboard.Proofs.Exitless
import Switchboard.Proofs.Listing

/-!
# The last definition wins

A module is a map from names to functions: whatever was defined in which order and how often, it
has under a name the function that was given last for the name (`Module.answers_defineAll`).
Equality compares these maps and not the tables that hold them (`FunctionTable.same_iff`), and
everything that a module or a snapshot of it shows can be read off them
(`last_definitions_decide`).
-/

namespace Switchboard

/-! ## Definitions -/

/-- What the function with each identity does. -/
abbrev Repertoire := Nat → NativeAction

/-- The function with an identity. -/
def Repertoire.native (repertoire : Repertoire) (identity : Nat) : Native :=
  ⟨identity, repertoire identity⟩

/-- Definitions in the order in which they are made: names, each with the identity of the function
that is given for it, or with none. -/
abbrev Definitions := List (Text × Option Nat)

/-- What is given last for a name. -/
def Definitions.last? (definitions : Definitions) (name : Text) : Option (Option Nat) :=
  Pairs.get? definitions.reverse name

/-- The functions of a table do what the repertoire says. -/
def FunctionTable.DrawnFrom (table : FunctionTable) (repertoire : Repertoire) : Prop :=
  ∀ name native, table.get? name = some (some native) → native = repertoire.native native.identity

namespace Module

/-- Make definitions one after another. -/
def defineAll (repertoire : Repertoire) (module : Module) (definitions : Definitions) : Module :=
  definitions.foldl (fun module definition =>
    module.define definition.1 (definition.2.map repertoire.native)) module

/-- What a name has behind definitions: what was given last for it. What the module has to begin
with was given before all of them. -/
def latest? (module : Module) (definitions : Definitions) (name : Text) : Option (Option Nat) :=
  (definitions.last? name).or (module.functions.identity? name)

end Module

/-- A key is looked for in the first pairs and then in the others. -/
theorem Pairs.get?_append {α : Type} (first second : Pairs α) (key : Text) :
    Pairs.get? (first ++ second) key = (first.get? key).or (second.get? key) := by
  induction first with
  | nil => rfl
  | cons entry rest inductionHypothesis =>
    obtain ⟨name, value⟩ := entry
    by_cases found : name = key
    · simp [get?, found]
    · simp only [List.cons_append, get?, found, if_false, inductionHypothesis]

/-- What comes later wins. -/
theorem Definitions.last?_cons (definition : Text × Option Nat) (definitions : Definitions)
    (name : Text) :
    Definitions.last? (definition :: definitions) name =
      (definitions.last? name).or (if definition.1 = name then some definition.2 else none) := by
  rw [last?, List.reverse_cons, Pairs.get?_append]
  rfl

namespace Module

variable (repertoire : Repertoire) (module : Module) (definitions : Definitions)

/-- Definitions change nothing but the functions. -/
theorem defineAll_eq : ∃ functions,
    module.defineAll repertoire definitions = { module with functions } := by
  induction definitions generalizing module with
  | nil => exact ⟨module.functions, rfl⟩
  | cons definition rest inductionHypothesis =>
    exact inductionHypothesis (module.define definition.1 (definition.2.map repertoire.native))

@[simp] theorem name_defineAll : (module.defineAll repertoire definitions).name = module.name := by
  obtain ⟨functions, whole⟩ := module.defineAll_eq repertoire definitions
  rw [whole]

@[simp] theorem script_defineAll :
    (module.defineAll repertoire definitions).script = module.script := by
  obtain ⟨functions, whole⟩ := module.defineAll_eq repertoire definitions
  rw [whole]

@[simp] theorem echo_defineAll : (module.defineAll repertoire definitions).echo = module.echo := by
  obtain ⟨functions, whole⟩ := module.defineAll_eq repertoire definitions
  rw [whole]

/-- After definitions a name has what was given last for it, or else what it had. -/
theorem get?_defineAll (name : Text) :
    (module.defineAll repertoire definitions).functions.get? name =
      ((definitions.last? name).map (Option.map repertoire.native)).or
        (module.functions.get? name) := by
  induction definitions generalizing module with
  | nil => rfl
  | cons definition rest inductionHypothesis =>
    have first : (module.define definition.1 (definition.2.map repertoire.native)).functions.get?
        name = if definition.1 = name then some (definition.2.map repertoire.native)
          else module.functions.get? name := Table.get?_put _ _ _ _
    have others := inductionHypothesis
      (module.define definition.1 (definition.2.map repertoire.native))
    rw [Definitions.last?_cons, Option.map_or, Option.or_assoc]
    refine others.trans (congrArg _ (first.trans ?_))
    split <;> rfl

end Module

/-! ## Equality -/

namespace FunctionTable

variable {first second : FunctionTable}

/-- A table is determined by the identities of its functions. -/
theorem DrawnFrom.get?_eq {table : FunctionTable} {repertoire : Repertoire}
    (drawn : table.DrawnFrom repertoire) (name : Text) :
    table.get? name = (table.identity? name).map (Option.map repertoire.native) := by
  rw [identity?]
  rcases found : table.get? name with _ | _ | native
  · rfl
  · rfl
  · rw [drawn name native found]
    rfl

theorem identity?_isSome (table : FunctionTable) (name : Text) :
    (table.identity? name).isSome = table.contains name := by
  rw [identity?, Option.isSome_map, Table.contains]

/-- Tables are the same when no name tells them apart, in whatever order the names stand. -/
theorem same_iff : first.same second = true ↔
    ∀ name, first.identity? name = second.identity? name := by
  rw [same, Bool.and_eq_true, beq_iff_eq, List.all_eq_true]
  simp only [beq_iff_eq]
  constructor
  · rintro ⟨sizes, agree⟩ name
    by_cases listed : name ∈ first.keys
    · exact agree name listed
    · -- as many keys, and all of the first, leave no further key to the second
      have within : first.keys ⊆ second.keys := by
        intro key member
        rw [← Table.contains_iff_mem_keys, ← identity?_isSome] at member ⊢
        rwa [← agree key (by rwa [← Table.contains_iff_mem_keys, ← identity?_isSome])]
      have permuted : first.keys.Perm second.keys := by
        refine (List.subperm_of_subset first.distinct within).perm_of_length_le ?_
        simp only [Table.keys, Pairs.keys, List.length_map]
        exact Nat.le_of_eq sizes.symm
      have unlisted : name ∉ second.keys := fun member => listed (permuted.mem_iff.mpr member)
      rw [← Table.contains_iff_mem_keys, ← identity?_isSome, Option.not_isSome_iff_eq_none]
        at listed unlisted
      rw [listed, unlisted]
  · intro agree
    have keys : first.SameKeys second := fun name => by
      rw [← identity?_isSome, ← identity?_isSome, agree]
    exact ⟨keys.size_eq, fun name _ => agree name⟩

end FunctionTable

/-! ## What is read off the last definitions -/

/-- Invoking a name for which a function was given last, or none. -/
def Repertoire.invoke (repertoire : Repertoire) (enter : Enter) (owner : Option Text) (name : Text) :
    Option Nat → Op Bool
  | none => do
      Op.log (.unknownFunction name owner)
      return false
  | some identity => do
      enter (repertoire.native identity)
      return true

/-- A module answers from a map from names to functions: which names it has, their listing in
strictly increasing order, and what is entered under a name. -/
structure Module.Answers (repertoire : Repertoire) (module : Module)
    (latest : Text → Option (Option Nat)) : Prop where
  identity : ∀ name, module.functions.identity? name = latest name
  hasFunction : ∀ name, module.snapshot.hasFunction name = (latest name).isSome
  names : ∀ name, name ∈ module.snapshot.view.functions ↔ (latest name).isSome = true
  increasing : module.snapshot.view.functions.Pairwise Text.Precedes
  invoke : ∀ enter name, Op.invoke enter module.functions module.name name =
    repertoire.invoke enter module.name name (latest name).join

namespace Module

/-- A module answers from what its functions are known by. -/
theorem answers_of_get? {repertoire : Repertoire} {module : Module}
    {latest : Text → Option (Option Nat)}
    (lookup : ∀ name, module.functions.get? name =
      (latest name).map (Option.map repertoire.native)) : module.Answers repertoire latest := by
  have listed : ∀ name, module.functions.contains name = (latest name).isSome := by
    intro name
    rw [Table.contains, lookup, Option.isSome_map]
  refine ⟨?_, listed, ?_, Table.pairwise_sortedKeys _, ?_⟩
  · intro name
    rw [FunctionTable.identity?, lookup]
    rcases latest name with _ | _ | identity <;> rfl
  · intro name
    rw [← listed]
    exact Table.mem_sortedKeys _ name
  · intro enter name
    rw [Op.invoke, FunctionTable.function?, lookup]
    rcases latest name with _ | _ | identity <;> rfl

/-- Behind definitions a module answers from what was given last. -/
theorem answers_defineAll {repertoire : Repertoire} {module : Module}
    (drawn : module.functions.DrawnFrom repertoire) (definitions : Definitions) :
    (module.defineAll repertoire definitions).Answers repertoire (module.latest? definitions) := by
  refine answers_of_get? fun name => ?_
  rw [get?_defineAll, latest?, Option.map_or, drawn.get?_eq]

/-- Modules are equal when nothing but their streams tells them apart. -/
theorem same_iff {first second : Module} :
    first.same second = true ↔
      (∀ name, first.functions.identity? name = second.functions.identity? name) ∧
        first.name = second.name ∧ first.script = second.script ∧ first.echo = second.echo := by
  simp only [same, Bool.and_eq_true, decide_eq_true_eq, FunctionTable.same_iff]
  tauto

namespace Answers

variable {repertoire : Repertoire} {first second : Module}
  {latest latestToo : Text → Option (Option Nat)}
  (answers : first.Answers repertoire latest) (answersToo : second.Answers repertoire latestToo)

include answers answersToo

/-- Equality of modules is equality of what they answer from, and of all else but the streams. -/
theorem same_iff : first.same second = true ↔ (∀ name, latest name = latestToo name) ∧
    first.name = second.name ∧ first.script = second.script ∧ first.echo = second.echo := by
  simp only [Module.same_iff, answers.identity, answersToo.identity]

/-- Snapshots are equal when the modules have the same name, functions and script. -/
theorem snapshot_same (alike : ∀ name, latest name = latestToo name)
    (name : first.name = second.name) (script : first.script = second.script) :
    first.snapshot.same second.snapshot = true := by
  have functions : first.functions.same second.functions = true := by
    rw [FunctionTable.same_iff]
    intro function
    rw [answers.identity, answersToo.identity, alike]
  simp only [Snapshot.same, Module.snapshot, functions, name, script, decide_true, Bool.and_self]

/-- Snapshots show the same names when the modules have them. -/
theorem view_eq (alike : ∀ name, latest name = latestToo name) (name : first.name = second.name)
    (script : first.script = second.script) : first.snapshot.view = second.snapshot.view := by
  have keys : first.functions.SameKeys second.functions := by
    intro function
    rw [← FunctionTable.identity?_isSome, ← FunctionTable.identity?_isSome, answers.identity,
      answersToo.identity, alike]
  simp only [Snapshot.view, Module.snapshot, keys.sortedKeys_eq, name, script]

end Answers

end Module

/-! ## Modules and snapshots in a world -/

/-- A module stands at one address, and a copy of it at another. -/
structure World.Holds (world : World) (ref : ModuleRef) (snapshot : SnapshotRef)
    (module : Module) : Prop where
  built : world.modules.read ref = module
  copied : world.Copied snapshot module

namespace Op

/-- Invoking a name of a module and of a copy of it come to the same thing. -/
theorem perform_invoke_of_holds {repertoire : Repertoire} {module : Module}
    {latest : Text → Option (Option Nat)} (answers : module.Answers repertoire latest)
    {world : World} {ref : ModuleRef} {snapshot : SnapshotRef}
    (holds : world.Holds ref snapshot module) (enter : Enter) (name : Text) :
    (invokeModule enter ref name).perform world =
        (repertoire.invoke enter module.name name (latest name).join).perform world ∧
      (invokeSnapshot enter snapshot name).perform world =
        (repertoire.invoke enter module.name name (latest name).join).perform world := by
  constructor
  · have read : (invokeModule enter ref name).perform world =
        (invoke enter (world.modules.read ref).functions (world.modules.read ref).name
          name).perform world := rfl
    rw [read, holds.built, answers.invoke]
  · rw [holds.copied.standsFor.invoke, answers.invoke]

/-- Snapshots that are taken one after the other are two things, even of one module. -/
theorem perform_takeSnapshots {world : World} {ref refToo : ModuleRef} {one other : Module}
    (built : world.modules.read ref = one) (builtToo : world.modules.read refToo = other) :
    ∃ snapshot snapshotToo after,
      (do return (← takeSnapshot ref, ← takeSnapshot refToo)).perform world =
        (.ok (snapshot, snapshotToo), after) ∧ snapshot ≠ snapshotToo ∧
      after.Holds ref snapshot one ∧ after.Holds refToo snapshotToo other := by
  let between := world.apply (.snapshotTaken ref)
  have copied : between.Copied world.snapshots.next one := built ▸ World.Copied.taken world ref
  have copiedToo : (between.apply (.snapshotTaken refToo)).Copied between.snapshots.next other :=
    builtToo ▸ World.Copied.taken between refToo
  refine ⟨world.snapshots.next, between.snapshots.next, between.apply (.snapshotTaken refToo), rfl,
    ?_, ⟨built, copied.apply _⟩, ⟨builtToo, copiedToo⟩⟩
  intro same
  have addresses : world.snapshots.size = world.snapshots.size + 1 := congrArg Ref.address same
  omega

/-- A definition in a host script puts a function of its own under the name, or none. -/
theorem perform_defineAt {label : Text} {ref : ModuleRef} {world : World}
    (found : world.labels.modules.get? label = some ref) (name : Text) (body : Option Body) :
    ∃ after, (defineAt label name body).perform world = (.ok (), after) ∧
      after.modules.read ref = (world.modules.read ref).define name
        (body.map fun steps => ⟨world.natives, .script steps⟩) ∧
      after.natives = world.natives + body.toList.length := by
  have resolved : (moduleAt label).perform world = (.ok ref, world) := perform_resolve found world
  rw [defineAt, perform_bind, resolved]
  cases body with
  | none | some steps => exact ⟨_, rfl, Store.read_write_same _ _ _, rfl⟩

end Op

/-! ## What decides -/

/-- What was given last for each name is all that two modules show of the definitions that were made
on them, whatever else was defined before and in whatever order.

* Each module answers from what was given last: the names it has, their listing in strictly
  increasing order, and what is entered under a name.
* Modules are equal exactly when the same was given last for every name and they have the same name,
  script and echo. Their streams do not matter.
* When the same was given last for every name, modules of one name and script have equal snapshots,
  which are two things all the same, and show the same. Invoking a name of either module or of either
  snapshot returns the same, enters the same function and logs the same, at every later moment at
  which they still stand.
* A step that defines a function and a step that decorates one do the same. -/
theorem last_definitions_decide {repertoire : Repertoire} {first second : Module}
    (drawn : first.functions.DrawnFrom repertoire)
    (drawnToo : second.functions.DrawnFrom repertoire) (given givenToo : Definitions) :
    let one := first.defineAll repertoire given
    let other := second.defineAll repertoire givenToo
    let alike := ∀ function, first.latest? given function = second.latest? givenToo function
    one.Answers repertoire (first.latest? given) ∧
    other.Answers repertoire (second.latest? givenToo) ∧
    (one.same other = true ↔ alike ∧ first.name = second.name ∧ first.script = second.script ∧
      first.echo = second.echo) ∧
    (∀ stream streamToo, Module.same { one with stream } { other with stream := streamToo } =
      one.same other) ∧
    (alike → first.name = second.name → first.script = second.script →
      one.snapshot.same other.snapshot = true ∧ one.snapshot.view = other.snapshot.view ∧
      (∀ function, one.snapshot.hasFunction function = other.snapshot.hasFunction function) ∧
      ∀ world ref refToo, world.modules.read ref = one → world.modules.read refToo = other →
        ∃ snapshot snapshotToo after,
          (do return (← Op.takeSnapshot ref, ← Op.takeSnapshot refToo)).perform world =
            (.ok (snapshot, snapshotToo), after) ∧
          snapshot ≠ snapshotToo ∧
          after.Holds ref snapshot one ∧ after.Holds refToo snapshotToo other ∧
          ∀ moment, moment.Holds ref snapshot one → moment.Holds refToo snapshotToo other →
            ∀ enter function,
              let outcome := (repertoire.invoke enter first.name function
                (first.latest? given function).join).perform moment
              (Op.invokeModule enter ref function).perform moment = outcome ∧
              (Op.invokeModule enter refToo function).perform moment = outcome ∧
              (Op.invokeSnapshot enter snapshot function).perform moment = outcome ∧
              (Op.invokeSnapshot enter snapshotToo function).perform moment = outcome) ∧
    ∀ around run label function body world ref, world.labels.modules.get? label = some ref →
      ∃ after, (Op.performStep around run (.define label function body)).perform world =
          (.ok .nothing, after) ∧
        (Op.performStep around run (.decorate label function body)).perform world =
          (.ok (.flag true), after) ∧
        after.modules.read ref = (world.modules.read ref).define function
          (body.map fun steps => ⟨world.natives, .script steps⟩) ∧
        after.natives = world.natives + body.toList.length := by
  intro one other alike
  have answers : one.Answers repertoire (first.latest? given) :=
    Module.answers_defineAll drawn given
  have answersToo : other.Answers repertoire (second.latest? givenToo) :=
    Module.answers_defineAll drawnToo givenToo
  have sameName : one.name = other.name ↔ first.name = second.name := by simp [one, other]
  have sameScript : one.script = other.script ↔ first.script = second.script := by
    simp [one, other]
  have sameEcho : one.echo = other.echo ↔ first.echo = second.echo := by simp [one, other]
  refine ⟨answers, answersToo, ?_, fun _ _ => rfl, ?_, ?_⟩
  · rw [answers.same_iff answersToo, sameName, sameScript, sameEcho]
  · intro same names scripts
    refine ⟨answers.snapshot_same answersToo same (sameName.mpr names) (sameScript.mpr scripts),
      answers.view_eq answersToo same (sameName.mpr names) (sameScript.mpr scripts), ?_, ?_⟩
    · intro function
      rw [answers.hasFunction, answersToo.hasFunction, same]
    · intro world ref refToo built builtToo
      obtain ⟨snapshot, snapshotToo, after, taken, different, holds, holdsToo⟩ :=
        Op.perform_takeSnapshots built builtToo
      refine ⟨snapshot, snapshotToo, after, taken, different, holds, holdsToo, ?_⟩
      intro moment stands standsToo enter function
      have here := Op.perform_invoke_of_holds answers stands enter function
      have there := Op.perform_invoke_of_holds answersToo standsToo enter function
      rw [Module.name_defineAll] at here
      rw [Module.name_defineAll, ← names, ← same] at there
      exact ⟨here.1, there.1, here.2, there.2⟩
  · intro around run label function body world ref found
    obtain ⟨after, defined, put, numbered⟩ := Op.perform_defineAt found function body
    refine ⟨after, ?_, ?_, put, numbered⟩
    · rw [Op.performStep, Op.perform_bind, defined]
      rfl
    · rw [Op.performStep, Op.perform_bind, defined]
      rfl

/-- Two modules with different streams. One is given a function for a name twice, and a name without
a function; the other has that name from the beginning, and is given the functions in another
order. The tables list their names differently, and nothing else tells the modules apart. -/
theorem last_definitions_decide_reordered :
    let repertoire : Repertoire := fun identity => .say (Decimal.ofNat identity)
    let first : Module := { name := some (text "m"), stream := some .stderr }
    let second : Module :=
      { name := some (text "m"), functions := Table.empty.put (text "h") none }
    let given : Definitions :=
      [(text "f", some 1), (text "g", some 2), (text "h", none), (text "f", some 3)]
    let givenToo : Definitions := [(text "g", some 2), (text "f", some 3)]
    let one := first.defineAll repertoire given
    let other := second.defineAll repertoire givenToo
    let world : World :=
      { modules := (Store.empty.allocate one).allocate other
        labels := { modules := Table.empty.put (text "one") ⟨0⟩ } }
    let enter := Op.enterNative fun _ => pure ()
    first.functions.DrawnFrom repertoire ∧ second.functions.DrawnFrom repertoire ∧
      one.functions.keys = [text "f", text "g", text "h"] ∧
      other.functions.keys = [text "h", text "g", text "f"] ∧
      one.same other = true ∧ one.snapshot.view = other.snapshot.view ∧
      (∃ snapshot snapshotToo after,
        (do return (← Op.takeSnapshot ⟨0⟩, ← Op.takeSnapshot ⟨1⟩)).perform world =
          (.ok (snapshot, snapshotToo), after) ∧ snapshot ≠ snapshotToo ∧
        (Op.invokeModule enter ⟨0⟩ (text "f")).perform after =
          (.ok true, after.record [.wrote .stdout (text "3\n")]) ∧
        (Op.invokeSnapshot enter snapshotToo (text "f")).perform after =
          (.ok true, after.record [.wrote .stdout (text "3\n")]) ∧
        (Op.invokeModule enter ⟨1⟩ (text "h")).perform after =
          (.ok false, after.record [.logged (.unknownFunction (text "h") (some (text "m")))])) ∧
      ∃ after, (Op.performStep ⟨⟨fun _ => .error .notFound⟩, ⟨[]⟩⟩ (fun _ => pure ())
        (.decorate (text "one") (text "f") none)).perform world = (.ok (.flag true), after) ∧
        after.modules.read ⟨0⟩ = one.define (text "f") none := by
  intro repertoire first second given givenToo one other world enter
  have drawn : first.functions.DrawnFrom repertoire := nofun
  have drawnToo : second.functions.DrawnFrom repertoire := by
    intro name native found
    change (Table.put Table.empty (text "h") none).get? name = _ at found
    rw [Table.get?_put] at found
    split at found <;> cases found
  have alike : ∀ function,
      first.latest? given function = second.latest? givenToo function := by
    intro function
    have blank : first.functions.identity? function = none := rfl
    have before : second.functions.identity? function =
        if text "h" = function then some none else none := by
      rw [FunctionTable.identity?]
      change ((Table.put Table.empty (text "h") none).get? function).map _ = _
      rw [Table.get?_put]
      split <;> rfl
    have distinct : text "f" ≠ text "g" ∧ text "f" ≠ text "h" ∧ text "g" ≠ text "h" := by decide
    rw [Module.latest?, Module.latest?, blank, before]
    simp only [given, givenToo, Definitions.last?_cons]
    by_cases isF : text "f" = function
    · simp [isF]
    · by_cases isG : text "g" = function
      · have notH : text "h" ≠ function := isG ▸ distinct.2.2.symm
        simp [isF, isG, notH]
      · simp [isF, isG, Definitions.last?, Pairs.get?]
  obtain ⟨-, -, equal, -, shown, defines⟩ := last_definitions_decide drawn drawnToo given givenToo
  obtain ⟨-, views, -, taking⟩ := shown alike rfl rfl
  obtain ⟨snapshot, snapshotToo, after, taken, different, holds, holdsToo, invoking⟩ :=
    taking world ⟨0⟩ ⟨1⟩ rfl rfl
  obtain ⟨onF, -, -, copyOnF⟩ := invoking after holds holdsToo enter (text "f")
  obtain ⟨-, onH, -, -⟩ := invoking after holds holdsToo enter (text "h")
  obtain ⟨decorated, -, done, put, -⟩ :=
    defines ⟨⟨fun _ => .error .notFound⟩, ⟨[]⟩⟩ (fun _ => pure ()) (text "one") (text "f") none world
      ⟨0⟩ rfl
  refine ⟨drawn, drawnToo, by decide, by decide, equal.mpr ⟨alike, rfl, rfl, rfl⟩, views,
    ⟨snapshot, snapshotToo, after, taken, different, onF.trans ?_, copyOnF.trans ?_,
      onH.trans ?_⟩, decorated, done, put⟩
  · rfl
  · rfl
  · rfl

end Switchboard
