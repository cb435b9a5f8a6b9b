import Switchboard.Proofs.History

/-!
# Indifference to order and address

In which order names were exported and where snapshots are stored is nothing that an operation
can find out: from alike worlds every operation comes to the same outcome, shows the same
events and leaves alike worlds. This is a discipline (`Op.indifferent_discipline`), so that
whole sessions played from alike worlds have the same records (`Session.playFrom_alike`).
-/

namespace Switchboard

/-- Corresponding entries lead to one snapshot together. -/
theorem Relocation.eq_iff {relocation : Relocation} {here there other another : Option SnapshotRef}
    (first : Option.Rel relocation.Relates here there)
    (second : Option.Rel relocation.Relates other another) : here = other ↔ there = another := by
  cases first with
  | none =>
    cases second with
    | none => exact iff_of_true rfl rfl
    | some => exact iff_of_false nofun nofun
  | some related =>
    cases second with
    | none => exact iff_of_false nofun nofun
    | some relatedToo => simp only [Option.some.injEq, relocation.unique related relatedToo]

namespace World.Alike

variable {relocation : Relocation} {first second : World}

/-- Alike worlds stay alike when the same snapshot is added to both. -/
theorem addSnapshot (alike : World.Alike relocation first second) {snapshot other : Snapshot}
    (same : snapshot = other) :
    World.Alike relocation { first with snapshots := first.snapshots.allocate snapshot }
      { second with snapshots := second.snapshots.allocate other } := by
  subst same
  refine { alike with snapshots := ?_, fresh := ?_ }
  · intro here there related
    have placed := relocation.unique related (alike.fresh 0)
    by_cases new : here = first.snapshots.next
    · have counterpart : there = second.snapshots.next := placed.mp new
      rw [new, counterpart, Store.read_allocate_next, Store.read_allocate_next]
    · have old : there ≠ second.snapshots.next := fun equal => new (placed.mpr equal)
      rw [Store.read_allocate_other _ _ new, Store.read_allocate_other _ _ old,
        alike.snapshots related]
  · intro count
    have later := alike.fresh (count + 1)
    rwa [Nat.add_comm count 1, ← Nat.add_assoc, ← Nat.add_assoc] at later

/-- Alike worlds stay alike when corresponding snapshots are exported under one name. -/
theorem publish (alike : World.Alike relocation first second) {here there : SnapshotRef}
    (related : relocation.Relates here there) (ref : ExportsRef) (name : Text) :
    World.Alike relocation
      { first with
        exports := first.exports.write ref ((first.exports.read ref).put name here) }
      { second with
        exports := second.exports.write ref ((second.exports.read ref).put name there) } := by
  refine { alike with exports := ?_ }
  intro target other
  by_cases same : target = ref
  · rw [same, Store.read_write_same, Store.read_write_same, Table.get?_put, Table.get?_put]
    split
    · exact .some related
    · exact alike.exports ref other
  · rw [Store.read_write_other _ _ same, Store.read_write_other _ _ same]
    exact alike.exports target other

/-- Alike worlds stay alike when both get a new export table. -/
theorem addExports (alike : World.Alike relocation first second) :
    World.Alike relocation { first with exports := first.exports.allocate .empty }
      { second with exports := second.exports.allocate .empty } := by
  have next : second.exports.next = first.exports.next := by
    rw [Store.next, Store.next, alike.exportsSize]
  refine { alike with exports := ?_, exportsSize := congrArg Nat.succ alike.exportsSize }
  intro target name
  by_cases new : target = first.exports.next
  · rw [new, Store.read_allocate_next, ← next, Store.read_allocate_next]
    exact .none
  · rw [Store.read_allocate_other _ _ new, Store.read_allocate_other _ _ (next ▸ new)]
    exact alike.exports target name

/-- Alike worlds stay alike when corresponding snapshots get one label. -/
theorem labelSnapshot (alike : World.Alike relocation first second) {here there : SnapshotRef}
    (related : relocation.Relates here there) (label : Text) :
    World.Alike relocation
      { first with
        labels :=
          { first.labels with snapshots := first.labels.snapshots.put label here } }
      { second with
        labels :=
          { second.labels with snapshots := second.labels.snapshots.put label there } } := by
  refine { alike with snapshotLabels := ?_ }
  intro other
  rw [Table.get?_put, Table.get?_put]
  split
  · exact .some related
  · exact alike.snapshotLabels other

/-- Alike worlds stay alike when labels change apart from those of snapshots. -/
theorem relabel (alike : World.Alike relocation first second) {change : Labels → Labels}
    (apart : ∀ labels snapshots,
      change (labels.withSnapshots snapshots) = (change labels).withSnapshots snapshots) :
    World.Alike relocation { first with labels := change first.labels }
      { second with labels := change second.labels } := by
  have moved : second.labels = first.labels.withSnapshots second.labels.snapshots := by
    simp only [Labels.withSnapshots, alike.moduleLabels, alike.exportsLabels, alike.hostLabels]
  have changed : change second.labels =
      (change first.labels).withSnapshots second.labels.snapshots := by
    rw [← apart, ← moved]
  refine { alike with
    moduleLabels := (congrArg Labels.modules changed).symm
    snapshotLabels := fun label => ?_
    exportsLabels := (congrArg Labels.exports changed).symm
    hostLabels := (congrArg Labels.hosts changed).symm }
  rw [Labels.snapshots_eq_of_apart apart, Labels.snapshots_eq_of_apart apart]
  exact alike.snapshotLabels label

end World.Alike

namespace Op

variable {α β : Type} {relocation : Relocation}

/-- Two ways to end, reached from two worlds: with the same outcome, in alike worlds, and with
the same events behind those seen before. -/
structure Agree (relocation : Relocation) (first second : World)
    (one other : Except Failure α × World) : Prop where
  outcome : one.1 = other.1
  alike : World.Alike relocation one.2 other.2
  events : ∃ events, one.2.trace = first.trace ++ events ∧ other.2.trace = second.trace ++ events

/-- Two operations correspond when they end in agreement from all alike worlds. -/
def Corresponds (relocation : Relocation) (one other : Op α) : Prop :=
  ∀ first second, World.Alike relocation first second →
    Agree relocation first second (one.perform first) (other.perform second)

/-- What shows no event agrees when the outcomes are the same and the worlds alike. -/
theorem Agree.silent {first second : World} {one other : Except Failure α × World}
    (outcome : one.1 = other.1) (alike : World.Alike relocation one.2 other.2)
    (here : one.2.trace = first.trace) (there : other.2.trace = second.trace) :
    Agree relocation first second one other :=
  ⟨outcome, alike, [], by rw [here, List.append_nil], by rw [there, List.append_nil]⟩

/-- Agreement goes on. -/
theorem Agree.trans {first second between middle : World} {one other : Except Failure α × World}
    (agree : Agree relocation between middle one other)
    (events : ∃ events, between.trace = first.trace ++ events ∧
      middle.trace = second.trace ++ events) : Agree relocation first second one other := by
  obtain ⟨early, here, there⟩ := events
  obtain ⟨late, later, laterToo⟩ := agree.events
  refine ⟨agree.outcome, agree.alike, early ++ late, ?_, ?_⟩
  · rw [later, here, List.append_assoc]
  · rw [laterToo, there, List.append_assoc]

namespace Corresponds

protected theorem pure (value : α) : Corresponds relocation (pure value) (pure value) :=
  fun _ _ alike => .silent rfl alike rfl rfl

protected theorem throw (failure : Failure) :
    Corresponds relocation (throw failure : Op α) (throw failure) :=
  fun _ _ alike => .silent rfl alike rfl rfl

/-- Sequences of corresponding operations correspond. -/
protected theorem bind {one other : Op α} {next another : α → Op β}
    (starts : Corresponds relocation one other)
    (continues : ∀ value, Corresponds relocation (next value) (another value)) :
    Corresponds relocation (one >>= next) (other >>= another) := by
  intro first second alike
  have agree := starts first second alike
  rw [perform_bind, perform_bind]
  rcases ended : one.perform first with ⟨outcome, between⟩
  rcases endedToo : other.perform second with ⟨_, middle⟩
  rw [ended, endedToo] at agree
  obtain ⟨rfl, alike, events⟩ := agree
  cases outcome with
  | error failure => exact ⟨rfl, alike, events⟩
  | ok value => exact (continues value between middle alike).trans events

/-- Corresponding operations with corresponding handlers correspond. -/
protected theorem tryCatch {one other : Op α} {handler another : Failure → Op α}
    (starts : Corresponds relocation one other)
    (handles : ∀ failure, Corresponds relocation (handler failure) (another failure)) :
    Corresponds relocation (tryCatch one handler) (tryCatch other another) := by
  intro first second alike
  have agree := starts first second alike
  rw [perform_tryCatch, perform_tryCatch]
  rcases ended : one.perform first with ⟨outcome, between⟩
  rcases endedToo : other.perform second with ⟨_, middle⟩
  rw [ended, endedToo] at agree
  obtain ⟨rfl, alike, events⟩ := agree
  cases outcome with
  | error failure => exact (handles failure between middle alike).trans events
  | ok value => exact ⟨rfl, alike, events⟩

end Corresponds

/-- Going on from what was found, when it was found in both worlds or in neither. -/
theorem Agree.found {first second : World} (alike : World.Alike relocation first second)
    {here there : Option SnapshotRef} (related : Option.Rel relocation.Relates here there)
    {missing : Op α} {use another : SnapshotRef → Op α}
    (absent : Corresponds relocation missing missing)
    (present : ∀ here there, relocation.Relates here there →
      Corresponds relocation (use here) (another there)) :
    Agree relocation first second ((here.elim missing use).perform first)
      ((there.elim missing another).perform second) := by
  cases related with
  | some related => exact present _ _ related first second alike
  | none => exact absent first second alike

/-- Going on with the same snapshot, added to both worlds. -/
theorem Agree.added {first second : World} (alike : World.Alike relocation first second)
    {snapshot other : Snapshot} (same : snapshot = other) {use : SnapshotRef → Op α}
    (uses : ∀ here there, relocation.Relates here there →
      Corresponds relocation (use here) (use there)) :
    Agree relocation first second
      ((use first.snapshots.next).perform
        { first with snapshots := first.snapshots.allocate snapshot })
      ((use second.snapshots.next).perform
        { second with snapshots := second.snapshots.allocate other }) := by
  have agree := uses _ _ (alike.fresh 0) _ _ (alike.addSnapshot same)
  exact agree.trans ⟨[], (List.append_nil _).symm, (List.append_nil _).symm⟩

/-- A snapshot is found by its label, or the label is unknown. -/
theorem perform_findSnapshot (label : Text) (use : SnapshotRef → Op α) (world : World) :
    (snapshotAt label >>= use).perform world =
      ((world.labels.snapshots.get? label).elim (throw (.unknownLabel label))
        use).perform world := by
  rw [snapshotAt, bind_assoc, perform_bind, perform_get]
  dsimp only [resolve]
  cases world.labels.snapshots.get? label with
  | none => rfl
  | some snapshot => rfl

/-- A snapshot is found under its name, or nothing is exported there. -/
theorem perform_findExport (ref : ExportsRef) (name : Text) (use : Option SnapshotRef → Op α)
    (world : World) :
    (readExports ref >>= fun exports => use (exports.get? name)).perform world =
      (((world.exports.read ref).get? name).elim (use none) (use ∘ some)).perform world := by
  rw [perform_bind, perform_readExports]
  dsimp only
  cases (world.exports.read ref).get? name with
  | none => rfl
  | some snapshot => rfl

/-- Making nothing of order and address is a discipline. -/
theorem indifferent_discipline :
    Discipline (fun _ operation => ∀ relocation, Corresponds relocation operation operation)
      fun _ use => ∀ relocation here there, relocation.Relates here there →
        Corresponds relocation (use here) (use there) where
  pure value _ := .pure value
  throw failure _ := .throw failure
  bind starts continues relocation :=
    .bind (starts relocation) fun value => continues value relocation
  tryCatch starts handles relocation :=
    .tryCatch (starts relocation) fun failure => handles failure relocation
  look continues agrees relocation first second alike := by
    rw [perform_bind, perform_bind, perform_get, perform_get]
    simp only [agrees relocation first second alike]
    exact continues second relocation first second alike
  emit event _ _ _ alike := ⟨rfl, { alike with }, [event], rfl, rfl⟩
  newModule module _ first second alike :=
    .silent (congrArg (Except.ok ∘ Store.next) alike.modules)
      { alike with modules := congrArg (Store.allocate · module) alike.modules } rfl rfl
  changeModule ref change _ _ first second alike := by
    refine .silent rfl { alike with modules := ?_ } rfl rfl
    change first.modules.write ref _ = second.modules.write ref _
    rw [alike.modules]
  newSnapshot snapshot uses relocation first second alike := .added alike rfl (uses relocation)
  takeSnapshot source uses relocation first second alike := by
    have same : (first.modules.read source).snapshot = (second.modules.read source).snapshot := by
      rw [alike.modules]
    exact .added alike same (uses relocation)
  findSnapshot label uses relocation first second alike := by
    rw [perform_findSnapshot, perform_findSnapshot]
    exact .found alike (alike.snapshotLabels label) (.throw _) (uses relocation)
  findExport ref name absent uses relocation first second alike := by
    rw [perform_findExport, perform_findExport]
    exact .found alike (alike.exports ref name) (absent relocation) (uses relocation)
  regardless kept relocation _ _ _ := kept relocation
  handOn used continues relocation here there related :=
    .bind (used relocation here there related) fun value =>
      continues value relocation here there related
  readSnapshot relocation here there related first second alike :=
    .silent (congrArg Except.ok (alike.snapshots related)) alike rfl rfl
  compareSnapshot label continues relocation here there related first second alike := by
    rw [perform_findSnapshot, perform_findSnapshot]
    refine .found alike (alike.snapshotLabels label) (.throw _) fun other another relatedToo => ?_
    have same : decide (here = other) = decide (there = another) :=
      decide_eq_decide.mpr (relocation.unique related relatedToo)
    simp only [same]
    exact continues _ relocation
  publish ref name relocation here there related first second alike := by
    have contained := alike.sameKeys ref name
    refine ⟨rfl, { alike.publish related ref name with }, _, rfl, ?_⟩
    rw [contained]
    rfl
  labelSnapshot label relocation here there related first second alike :=
    .silent rfl (alike.labelSnapshot related label) rfl rfl
  newExports _ first second alike :=
    .silent (congrArg (Except.ok ∘ Ref.mk) alike.exportsSize) alike.addExports rfl rfl
  placeHost host _ first second alike :=
    .silent (congrArg (Except.ok ∘ Store.next) alike.hosts)
      { alike with hosts := congrArg (Store.allocate · host) alike.hosts } rfl rfl
  setReporting ref reporting _ first second alike := by
    refine .silent rfl { alike with hosts := ?_ } rfl rfl
    change first.hosts.write ref _ = second.hosts.write ref _
    rw [alike.hosts]
  adopt host module _ first second alike := by
    refine .silent rfl { alike with modules := ?_, hosts := ?_ } rfl rfl
    · change first.modules.write module _ = second.modules.write module _
      rw [alike.modules, alike.hosts]
    · change first.hosts.write host _ = second.hosts.write host _
      rw [alike.hosts]
  newNative action _ first second alike :=
    .silent (congrArg (fun identity => Except.ok (Native.mk identity action)) alike.natives)
      { alike with natives := congrArg Nat.succ alike.natives } rfl rfl
  relabel apart _ _ _ alike := .silent rfl (alike.relabel apart) rfl rfl
  setImport name state _ _ _ alike :=
    .silent rfl { alike with
      imports := congrArg (Table.put · name state) alike.imports } rfl rfl

end Op

/-! ## Sessions -/

namespace Session

variable {relocation : Relocation} {first second : World}

/-- A step played from alike worlds has one record and leaves alike worlds. -/
theorem playStep_alike (around : Surroundings) (step : Step)
    (alike : World.Alike relocation first second) :
    (playStep around step first).1 = (playStep around step second).1 ∧
      World.Alike relocation (playStep around step first).2 (playStep around step second).2 := by
  have discipline := Op.indifferent_discipline
  have bodies := discipline.runBody around Op.maxDepth
  obtain ⟨outcome, after, events, here, there⟩ :=
    discipline.performStep bodies around step relocation (first.withTrace [])
      (second.withTrace []) { alike with }
  have recorded : ∀ world, (playStep around step world).1 =
      ⟨((Op.performStep around (Op.runBody around Op.maxDepth) step).perform
          (world.withTrace [])).1,
        Event.joinWrites ((Op.performStep around (Op.runBody around Op.maxDepth) step).perform
          (world.withTrace [])).2.trace⟩ := fun _ => rfl
  refine ⟨?_, after⟩
  rw [recorded, recorded, outcome, here, there, World.trace_withTrace, World.trace_withTrace]

/-- A session played from alike worlds has the same records and leaves alike worlds. -/
theorem playFrom_alike (around : Surroundings) (steps : List Step)
    (alike : World.Alike relocation first second) :
    (playFrom around steps first).1 = (playFrom around steps second).1 ∧
      World.Alike relocation (playFrom around steps first).2
        (playFrom around steps second).2 := by
  induction steps generalizing first second with
  | nil => exact ⟨rfl, alike⟩
  | cons step rest inductionHypothesis =>
    obtain ⟨record, between⟩ := playStep_alike around step alike
    obtain ⟨records, after⟩ := inductionHypothesis between
    exact ⟨List.cons_eq_cons.mpr ⟨record, records⟩, after⟩

end Session

end Switchboard
