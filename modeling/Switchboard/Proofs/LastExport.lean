import Mathlib.Data.List.Basic
import Switchboard.Proofs.ExportOrder

/-!
# The last export wins

An export table is a map from names to snapshots that only exports change: after every
history it has under a name what the history exported last under that name, and what it had
before when the history exported nothing there (`World.get?_applyAll`). All queries of a
table answer from that map (`World.catalogues`).
-/

namespace Switchboard

/-! ## What a history exports -/

/-- The snapshot that a change exports under a name of a table. -/
def Change.exported? (ref : ExportsRef) (name : Text) : Change → Option SnapshotRef
  | .published target other snapshot =>
      if target = ref ∧ other = name then some snapshot else none
  | _ => none

/-- Only an export under that name of that table exports there. -/
theorem Change.exported?_eq_some_iff (ref : ExportsRef) (name : Text) (change : Change)
    (snapshot : SnapshotRef) :
    change.exported? ref name = some snapshot ↔ change = .published ref name snapshot := by
  constructor
  · intro exported
    cases change with
    | published target other content =>
      rw [exported?, Option.ite_none_right_eq_some] at exported
      obtain ⟨⟨rfl, rfl⟩, ⟨⟩⟩ := exported
      rfl
    | _ => cases exported
  · rintro rfl
    rw [exported?, if_pos ⟨rfl, rfl⟩]

/-- The snapshot that a history exports last under a name of a table. -/
def lastExport? (history : List Change) (ref : ExportsRef) (name : Text) : Option SnapshotRef :=
  (history.filterMap (Change.exported? ref name)).getLast?

/-- What comes later wins. -/
theorem lastExport?_cons (change : Change) (history : List Change) (ref : ExportsRef)
    (name : Text) :
    lastExport? (change :: history) ref name =
      (lastExport? history ref name).or (change.exported? ref name) := by
  cases exported : change.exported? ref name with
  | none => rw [lastExport?, List.filterMap_cons_none exported, Option.or_none, lastExport?]
  | some snapshot =>
    rw [lastExport?, List.filterMap_cons_some exported, List.getLast?_cons, lastExport?]
    cases (history.filterMap (Change.exported? ref name)).getLast? <;> rfl

/-- Nothing is the last export under a name exactly when nothing was exported there. -/
theorem lastExport?_eq_none_iff (history : List Change) (ref : ExportsRef) (name : Text) :
    lastExport? history ref name = none ↔
      ∀ snapshot, .published ref name snapshot ∉ history := by
  rw [lastExport?, List.getLast?_eq_none_iff, List.filterMap_eq_nil_iff]
  constructor
  · intro silent snapshot member
    have exported := (Change.exported?_eq_some_iff ref name _ snapshot).mpr rfl
    rw [silent _ member] at exported
    cases exported
  · intro absent change member
    cases exported : change.exported? ref name with
    | none => rfl
    | some snapshot =>
      rw [Change.exported?_eq_some_iff] at exported
      exact absurd (exported ▸ member) (absent snapshot)

/-! ## What tables keep -/

namespace World

/-- A change does not give up an export table. -/
theorem size_exports_apply (world : World) (change : Change) :
    world.exports.size ≤ (world.apply change).exports.size := by
  cases change with
  | exportsMade => exact Nat.le_succ _
  | _ => exact Nat.le_refl _

/-- A table in use has under a name what a change exports there, and else what it had. -/
theorem get?_apply {world : World} {ref : ExportsRef}
    (used : ref.address < world.exports.size) (change : Change) (name : Text) :
    ((world.apply change).exports.read ref).get? name =
      (change.exported? ref name).or ((world.exports.read ref).get? name) := by
  cases change with
  | exportsMade => rw [apply, Store.read_allocate_old _ _ used]; rfl
  | published target other snapshot =>
    by_cases sameTable : target = ref
    · subst sameTable
      rw [apply, Store.read_write_same, Table.get?_put, Change.exported?]
      by_cases sameName : other = name
      · rw [if_pos sameName, if_pos ⟨rfl, sameName⟩, Option.some_or]
      · rw [if_neg sameName, if_neg fun both => sameName both.2, Option.none_or]
    · rw [apply, Store.read_write_other _ _ (Ne.symm sameTable), Change.exported?,
        if_neg fun both => sameTable both.1, Option.none_or]
  | _ => rfl

/-- After a history a table in use has under a name what was exported last, and else what it
had. -/
theorem get?_applyAll {world : World} {ref : ExportsRef}
    (used : ref.address < world.exports.size) (history : List Change) (name : Text) :
    ((world.applyAll history).exports.read ref).get? name =
      (lastExport? history ref name).or ((world.exports.read ref).get? name) := by
  induction history generalizing world with
  | nil => rfl
  | cons change rest inductionHypothesis =>
    have stillUsed := Nat.lt_of_lt_of_le used (world.size_exports_apply change)
    rw [applyAll_cons, inductionHypothesis stillUsed, get?_apply used, lastExport?_cons,
      Option.or_assoc]

/-- The queries of an export table answer from one map: look-up, the names in strictly
increasing order, their number, membership, and the listing of what is shown. -/
structure Catalogues (world : World) (ref : ExportsRef)
    (latest : Text → Option SnapshotRef) : Prop where
  lookup : ∀ name, (world.exports.read ref).get? name = latest name
  names : ∀ name, name ∈ (world.exports.read ref).sortedKeys ↔ (latest name).isSome = true
  increasing : (world.exports.read ref).sortedKeys.Pairwise Text.Precedes
  count : (world.exports.read ref).size = (world.exports.read ref).sortedKeys.length
  contains : ∀ name, (world.exports.read ref).contains name = true ↔
    name ∈ (world.exports.read ref).sortedKeys
  listing : ∃ entries, (Op.listExports ref).perform world = (.ok entries, world) ∧
    entries.map Prod.fst = (world.exports.read ref).sortedKeys ∧
    ∀ entry ∈ entries, ∃ snapshot, latest entry.1 = some snapshot ∧
      entry.2 = (world.snapshots.read snapshot).view

/-- A table answers from its look-ups. -/
theorem catalogues {world : World} {ref : ExportsRef} {latest : Text → Option SnapshotRef}
    (lookup : ∀ name, (world.exports.read ref).get? name = latest name) :
    world.Catalogues ref latest where
  lookup := lookup
  names name := by rw [Table.mem_sortedKeys, lookup]
  increasing := Table.pairwise_sortedKeys _
  count := (Table.length_sortedKeys _).symm
  contains name := by rw [Table.mem_sortedKeys, Table.contains]
  listing := by
    refine ⟨_, rfl, ?_, ?_⟩
    · -- every listed name has a snapshot, so that none is dropped
      rw [List.map_filterMap]
      refine (List.filterMap_congr fun name listed => ?_).trans List.filterMap_some
      obtain ⟨snapshot, found⟩ :=
        Option.isSome_iff_exists.mp ((Table.mem_sortedKeys _ name).mp listed)
      rw [found]
      rfl
    · intro entry member
      obtain ⟨name, -, shown⟩ := List.mem_filterMap.mp member
      obtain ⟨snapshot, found, rfl⟩ := Option.map_eq_some_iff.mp shown
      exact ⟨snapshot, (lookup name).symm.trans found, rfl⟩

/-- A table that comes into use is the one that was just made. -/
theorem eq_next_of_used {world : World} {ref : ExportsRef} {change : Change}
    (unused : world.exports.size ≤ ref.address)
    (used : ref.address < (world.apply change).exports.size) :
    change = .exportsMade ∧ world.exports.next = ref := by
  cases change with
  | exportsMade =>
    have address : world.exports.size = ref.address :=
      Nat.le_antisymm unused (Nat.le_of_lt_succ used)
    exact ⟨rfl, congrArg Ref.mk address⟩
  | _ => exact absurd used (Nat.not_lt_of_le unused)

/-- A table that is in use after a history and was not before was made by it. -/
theorem exists_made {world : World} {ref : ExportsRef} {history : List Change}
    (unused : world.exports.size ≤ ref.address)
    (used : ref.address < (world.applyAll history).exports.size) :
    ∃ early since, history = early ++ .exportsMade :: since ∧
      (world.applyAll early).exports.next = ref := by
  induction history generalizing world with
  | nil => exact absurd used (Nat.not_lt_of_le unused)
  | cons change rest inductionHypothesis =>
    rcases Nat.lt_or_ge ref.address (world.apply change).exports.size with made | unmade
    · obtain ⟨rfl, place⟩ := eq_next_of_used unused made
      exact ⟨[], rest, rfl, place⟩
    · obtain ⟨early, since, rfl, place⟩ := inductionHypothesis unmade used
      exact ⟨change :: early, since, rfl, place⟩

/-- Since a table was made, it has what was exported last. -/
theorem catalogues_made (world : World) (since : List Change) :
    ((world.apply .exportsMade).applyAll since).Catalogues world.exports.next
      (lastExport? since world.exports.next) := by
  have used : world.exports.next.address < (world.apply .exportsMade).exports.size :=
    Nat.lt_succ_self _
  have made : (world.apply .exportsMade).exports.read world.exports.next = .empty :=
    Store.read_allocate_next _ _
  refine catalogues fun name => ?_
  rw [get?_applyAll used, made, Table.get?_empty, Option.or_none]

/-! ## Telling tables apart -/

/-- Two worlds in which nothing tells an export table apart: no query, and no run or session
that goes on from them. -/
structure Indistinguishable (ref : ExportsRef) (one other : World) : Prop where
  names : (one.exports.read ref).sortedKeys = (other.exports.read ref).sortedKeys
  count : (one.exports.read ref).size = (other.exports.read ref).size
  contains : ∀ name, (one.exports.read ref).contains name = (other.exports.read ref).contains name
  lookup : ∀ name, ((one.exports.read ref).get? name).map one.snapshots.read =
    ((other.exports.read ref).get? name).map other.snapshots.read
  identity : ∀ name another,
    (one.exports.read ref).get? name = (one.exports.read ref).get? another ↔
      (other.exports.read ref).get? name = (other.exports.read ref).get? another
  listing : ((Op.listExports ref).perform one).1 = ((Op.listExports ref).perform other).1
  run : ∀ (engine : Engine) around depth program,
    let run := engine.run (Op.enterNative (Op.runBody around depth)) program
    (run.perform one).1 = (run.perform other).1 ∧
      ∃ events, (run.perform one).2.trace = one.trace ++ events ∧
        (run.perform other).2.trace = other.trace ++ events
  session : ∀ around steps,
    (Session.playFrom around steps one).1 = (Session.playFrom around steps other).1

/-- Nothing tells the tables of alike worlds apart. -/
theorem Alike.indistinguishable {relocation : Relocation} {one other : World}
    (alike : World.Alike relocation one other) (ref : ExportsRef) :
    Indistinguishable ref one other where
  names := (alike.sameKeys ref).sortedKeys_eq
  count := (alike.sameKeys ref).size_eq
  contains := alike.sameKeys ref
  lookup name := Relocation.map_eq (alike.exports ref name) alike.snapshots
  identity name another := Relocation.eq_iff (alike.exports ref name) (alike.exports ref another)
  listing := (Op.indifferent_discipline.listExports ref relocation one other alike).outcome
  run engine around depth program := by
    have discipline := Op.indifferent_discipline
    have natives := discipline.enterNative (discipline.runBody around depth)
    have agree := discipline.run natives engine program relocation one other alike
    exact ⟨agree.outcome, agree.events⟩
  session around steps := (Session.playFrom_alike around steps alike).1

end World

/-! ## Sessions -/

/-- An export table holds what was exported last. Every export that completes ends with a
snapshot being published. At every moment of a session a table answers all queries from what
was published last under each name since the table was made, and what happens later neither
removes an entry nor changes one under a name that it does not publish. So nothing tells apart
what two sequences of exports lead to that export the same last under each name. -/
theorem last_export_wins (around : Surroundings) (steps : List Step) :
    (∀ moment ref name label source, moment.labels.modules.get? label = some source →
      (Op.publishAt ref name (.module label)).perform moment =
        (.ok (.published (moment.modules.read source).snapshot.view false),
          moment.applyAll
            [.snapshotTaken source, .published ref name moment.snapshots.next])) ∧
    (∀ moment ref name label snapshot, moment.labels.snapshots.get? label = some snapshot →
      (Op.publishAt ref name (.snapshot label)).perform moment =
        (.ok (.published (moment.snapshots.read snapshot).view true),
          moment.applyAll [.published ref name snapshot])) ∧
    (∀ moment host callback name,
      (Op.exportCurrent host callback name).perform moment =
        match callback.perform moment with
        | (.error failure, between) => (.error failure, between)
        | (.ok (), between) =>
            match (between.hosts.read host).current with
            | none => (.ok none, between.applyAll [.seen (.logged (.nothingToExport name))])
            | some source =>
                (.ok (some between.snapshots.next), between.applyAll [.snapshotTaken source,
                  .published (between.hosts.read host).exports name
                    between.snapshots.next])) ∧
    (∃ history, Session.Unfolds around steps {} history) ∧
    (∀ history, Session.Unfolds around steps {} history →
      (Session.play around steps).2 = World.applyAll {} history ∧
      ∀ past more future, history = past ++ more ++ future →
        let now := World.applyAll {} past
        let later := World.applyAll {} (past ++ more)
        ∀ ref, ref.address < now.exports.size →
          (∃ early since, past = early ++ .exportsMade :: since ∧
            (World.applyAll {} early).exports.next = ref ∧
            now.Catalogues ref (lastExport? since ref) ∧
            ∀ name, lastExport? since ref name = none ↔
              ∀ snapshot, .published ref name snapshot ∉ since) ∧
          ∀ name, (((now.exports.read ref).get? name).isSome = true →
              ((later.exports.read ref).get? name).isSome = true) ∧
            ((∀ snapshot, .published ref name snapshot ∉ more) →
              (later.exports.read ref).get? name = (now.exports.read ref).get? name)) ∧
    (Session.play around steps).2.Sound ∧
    ∀ (now : World) ref first second, now.Sound →
      (∀ name snapshot, (name, .snapshot snapshot) ∈ first ++ second →
        snapshot.address < now.snapshots.size) →
      (∀ name, lastSource? first name = lastSource? second name) →
      ∃ one other, (Op.exportAll ref first).perform now = (.ok (), one) ∧
        (Op.exportAll ref second).perform now = (.ok (), other) ∧
        World.Indistinguishable ref one other := by
  refine ⟨?_, ?_, ?_, Session.exists_unfolds around steps {}, ?_, ?_, ?_⟩
  · intro moment ref name label source found
    exact Op.perform_publishAt found ref name
  · intro moment ref name label snapshot found
    exact Op.perform_publishAt_snapshot found ref name
  · intro moment host callback name
    exact Op.perform_exportCurrent host callback name moment
  · intro history unfolds
    refine ⟨unfolds.playFrom_eq, ?_⟩
    intro past more future _ now later ref used
    constructor
    · obtain ⟨early, since, rfl, rfl⟩ := World.exists_made (Nat.zero_le _) used
      refine ⟨early, since, rfl, rfl, ?_, lastExport?_eq_none_iff since _⟩
      have made := World.catalogues_made (World.applyAll {} early) since
      rwa [← World.applyAll_cons, ← World.applyAll_append] at made
    · intro name
      have found : (later.exports.read ref).get? name =
          (lastExport? more ref name).or ((now.exports.read ref).get? name) := by
        rw [← World.get?_applyAll used more name, ← World.applyAll_append]
      constructor
      · intro present
        rw [found, Option.isSome_or, present, Bool.or_true]
      · intro silent
        rw [found, (lastExport?_eq_none_iff more ref name).mpr silent, Option.none_or]
  · exact Session.playFrom_sound around steps World.empty_sound
  · intro now ref first second sound used same
    obtain ⟨relocation, one, other, performed, performedToo, alike⟩ :=
      Op.exportAll_alike sound ref used same
    exact ⟨one, other, performed, performedToo, alike.indistinguishable ref⟩

/-- A table with an entry of its own, to which two sequences of exports lead: one exports
another module under a name first, and so takes a snapshot that the other does not take. -/
theorem last_export_wins_reordered :
    let around : Surroundings := ⟨⟨fun _ => .error .notFound⟩, ⟨[]⟩⟩
    let steps : List Step :=
      [.newModule (text "m") (some (text "m")) [] true none,
        .newModule (text "n") (some (text "n")) [] true none, .newExports (text "r"),
        .publish (.exports (text "r")) (text "b") (.module (text "m"))]
    let now := (Session.play around steps).2
    let first : List (Text × ExportSource) :=
      [(text "b", .module ⟨1⟩), (text "a", .snapshot ⟨0⟩), (text "b", .module ⟨0⟩)]
    let second : List (Text × ExportSource) :=
      [(text "a", .snapshot ⟨0⟩), (text "b", .module ⟨0⟩)]
    (∃ since, now.Catalogues ⟨0⟩ (lastExport? since ⟨0⟩) ∧
      lastExport? since ⟨0⟩ (text "b") = some ⟨0⟩ ∧ lastExport? since ⟨0⟩ (text "a") = none) ∧
      now.Sound ∧ (∀ name, lastSource? first name = lastSource? second name) ∧
      ∃ one other, (Op.exportAll ⟨0⟩ first).perform now = (.ok (), one) ∧
        (Op.exportAll ⟨0⟩ second).perform now = (.ok (), other) ∧
        one.snapshots.size = 3 ∧ other.snapshots.size = 2 ∧
        World.Indistinguishable ⟨0⟩ one other := by
  intro around steps now first second
  obtain ⟨-, -, -, ⟨history, unfolds⟩, holding, sound, ordering⟩ := last_export_wins around steps
  obtain ⟨played, moments⟩ := holding history unfolds
  have reached : World.applyAll {} history = now := played.symm
  have used : (⟨0⟩ : ExportsRef).address < (World.applyAll {} history).exports.size := by
    rw [reached]
    decide +kernel
  obtain ⟨⟨early, since, -, -, catalogues, -⟩, -⟩ :=
    moments history [] [] (by simp) ⟨0⟩ used
  rw [reached] at catalogues
  have same : ∀ name, lastSource? first name = lastSource? second name := by
    intro name
    by_cases isB : text "b" = name
    · simp [lastSource?, first, second, isB]
    by_cases isA : text "a" = name
    · simp [lastSource?, first, second, isA, isB]
    · simp [lastSource?, first, second, isA, isB]
  have inUse : ∀ name snapshot, (name, ExportSource.snapshot snapshot) ∈ first ++ second →
      snapshot.address < now.snapshots.size := by
    intro name snapshot member
    have given : name = text "a" ∧ snapshot = ⟨0⟩ := by simpa [first, second] using member
    rw [given.2]
    decide +kernel
  obtain ⟨one, other, performed, performedToo, apart⟩ :=
    ordering now ⟨0⟩ first second sound inUse same
  refine ⟨⟨since, catalogues, ?_, ?_⟩, sound, same, one, other, performed, performedToo,
    ?_, ?_, apart⟩
  · rw [← catalogues.lookup]
    decide +kernel
  · rw [← catalogues.lookup]
    decide +kernel
  · have size : ((Op.exportAll ⟨0⟩ first).perform now).2.snapshots.size = 3 := by decide +kernel
    rwa [performed] at size
  · have size : ((Op.exportAll ⟨0⟩ second).perform now).2.snapshots.size = 2 := by decide +kernel
    rwa [performedToo] at size

end Switchboard
