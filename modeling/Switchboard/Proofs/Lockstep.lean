import Switchboard.Proofs.Linkage

/-!
# Operations in lockstep

From twin worlds a script that keeps to its own labels does the same: it ends in the same way,
shows the same events, and leaves twin worlds in which what it has made corresponds.
`Op.Lockstep` says this of two operations. It is put together along the operations of modules,
engines and hosts up to the steps of scripts, and holds of every body (`Op.lockstep_runBody`).
-/

namespace Switchboard

namespace Op

variable {own : Text → Bool} {margins : Margins own} {pairing : Pairing} {α β : Type}

/-! ## Ending alike -/

/-- Outcomes are the same: values that correspond, or one failure. -/
inductive SameOutcome (related : α → α → Prop) : Except Failure α → Except Failure α → Prop where
  | ok {value counterpart : α} (values : related value counterpart) :
      SameOutcome related (.ok value) (.ok counterpart)
  | error (failure : Failure) : SameOutcome related (.error failure) (.error failure)

theorem SameOutcome.eq {one other : Except Failure α} (same : SameOutcome Eq one other) :
    one = other := by
  cases same with
  | ok values => exact congrArg Except.ok values
  | error => rfl

/-- Two ways to end, reached from two worlds: with the same outcome, in twin worlds in which more
may correspond, and with the same events behind those seen before. -/
structure EndAlike (margins : Margins own) (pairing : Pairing) (related : Pairing → α → α → Prop)
    (here there : World) (one other : Except Failure α × World) (larger : Pairing) : Prop where
  grown : pairing.Extends larger
  twins : Twins margins larger one.2 other.2
  outcome : SameOutcome (related larger) one.1 other.1
  events : ∃ events, one.2.trace = here.trace ++ events ∧ other.2.trace = there.trace ++ events

/-- Two operations end alike from all twin worlds. -/
def Lockstep (margins : Margins own) (pairing : Pairing) (related : Pairing → α → α → Prop)
    (one other : Op α) : Prop :=
  ∀ here there, Twins margins pairing here there →
    ∃ larger, EndAlike margins pairing related here there (one.perform here) (other.perform there)
      larger

/-- The very same value. -/
abbrev Same : Pairing → α → α → Prop := fun _ => Eq

/-- Things of a kind that correspond. -/
abbrev Paired (kind : RefKind) : Pairing → Ref kind → Ref kind → Prop :=
  fun pairing => pairing.refs kind

/-- What shows no event. -/
theorem EndAlike.silent {related : Pairing → α → α → Prop} {here there after afterToo : World}
    {value counterpart : α} {larger : Pairing} (grown : pairing.Extends larger)
    (twins : Twins margins larger after afterToo) (values : related larger value counterpart)
    (silent : after.trace = here.trace) (silentToo : afterToo.trace = there.trace) :
    EndAlike margins pairing related here there (.ok value, after) (.ok counterpart, afterToo)
      larger :=
  ⟨grown, twins, .ok values, [], by rw [silent, List.append_nil], by rw [silentToo, List.append_nil]⟩

/-- One end behind another. -/
theorem EndAlike.behind {related : Pairing → α → α → Prop} {here there between middle : World}
    {one other : Except Failure α × World} {larger largest : Pairing}
    (grown : pairing.Extends larger)
    (events : ∃ events, between.trace = here.trace ++ events ∧
      middle.trace = there.trace ++ events)
    (ends : EndAlike margins larger related between middle one other largest) :
    EndAlike margins pairing related here there one other largest := by
  obtain ⟨early, shown, shownToo⟩ := events
  obtain ⟨late, later, laterToo⟩ := ends.events
  refine ⟨grown.trans ends.grown, ends.twins, ends.outcome, early ++ late, ?_, ?_⟩
  · rw [later, shown, List.append_assoc]
  · rw [laterToo, shownToo, List.append_assoc]

namespace Lockstep

variable {related : Pairing → α → α → Prop} {late : Pairing → β → β → Prop}

protected theorem pure {value counterpart : α} (values : related pairing value counterpart) :
    Lockstep margins pairing related (pure value) (pure counterpart) :=
  fun _ _ twins => ⟨pairing, .silent (.refl _) twins values rfl rfl⟩

protected theorem throw (failure : Failure) :
    Lockstep margins pairing related (throw failure) (throw failure) :=
  fun _ _ twins =>
    ⟨pairing, .refl _, twins, .error failure, [], (List.append_nil _).symm, (List.append_nil _).symm⟩

/-- Operations that go on in lockstep. -/
protected theorem bind {one other : Op α} {next another : α → Op β}
    (starts : Lockstep margins pairing related one other)
    (continues : ∀ {larger value counterpart}, pairing.Extends larger →
      related larger value counterpart →
        Lockstep margins larger late (next value) (another counterpart)) :
    Lockstep margins pairing late (one >>= next) (other >>= another) := by
  intro here there twins
  obtain ⟨larger, ends⟩ := starts here there twins
  rw [perform_bind, perform_bind]
  rcases ended : one.perform here with ⟨outcome, between⟩
  rcases endedToo : other.perform there with ⟨outcomeToo, middle⟩
  rw [ended, endedToo] at ends
  obtain ⟨grown, twins, outcomes, events⟩ := ends
  cases outcomes with
  | error failure => exact ⟨larger, grown, twins, .error failure, events⟩
  | ok values =>
    obtain ⟨largest, ends⟩ := continues grown values between middle twins
    exact ⟨largest, ends.behind grown events⟩

/-- Operations that come to the very same value and go on from there. -/
protected theorem andThen {one other : Op α} {next another : α → Op β}
    (starts : Lockstep margins pairing Same one other)
    (continues : ∀ {larger}, pairing.Extends larger → ∀ value,
      Lockstep margins larger late (next value) (another value)) :
    Lockstep margins pairing late (one >>= next) (other >>= another) := by
  refine .bind starts fun grown same => ?_
  cases same
  exact continues grown _

protected theorem tryCatch {one other : Op α} {handler another : Failure → Op α}
    (starts : Lockstep margins pairing related one other)
    (handles : ∀ {larger}, pairing.Extends larger → ∀ failure,
      Lockstep margins larger related (handler failure) (another failure)) :
    Lockstep margins pairing related (tryCatch one handler) (tryCatch other another) := by
  intro here there twins
  obtain ⟨larger, ends⟩ := starts here there twins
  rw [perform_tryCatch, perform_tryCatch]
  rcases ended : one.perform here with ⟨outcome, between⟩
  rcases endedToo : other.perform there with ⟨outcomeToo, middle⟩
  rw [ended, endedToo] at ends
  obtain ⟨grown, twins, outcomes, events⟩ := ends
  cases outcomes with
  | ok values => exact ⟨larger, grown, twins, .ok values, events⟩
  | error failure =>
    obtain ⟨largest, ends⟩ := handles grown failure between middle twins
    exact ⟨largest, ends.behind grown events⟩

/-- Going on from what is read in both worlds. -/
protected theorem look {next another : World → Op β}
    (continues : ∀ {here there}, Twins margins pairing here there →
      Lockstep margins pairing late (next here) (another there)) :
    Lockstep margins pairing late (get >>= next) (get >>= another) :=
  fun here there twins => continues twins here there twins

/-- What twin worlds have in common may be made use of. -/
protected theorem knowing {one other : Op α}
    (known : ∀ {here there}, Twins margins pairing here there →
      Lockstep margins pairing related one other) : Lockstep margins pairing related one other :=
  fun here there twins => known twins here there twins

/-- Going on from what an own label leads to. -/
protected theorem resolve (kind : RefKind) {label : Text} (mine : own label = true)
    {next another : Ref kind → Op β}
    (continues : ∀ {first second}, pairing.refs kind first second →
      Lockstep margins pairing late (next first) (another second)) :
    Lockstep margins pairing late ((do resolve ((← get).labelled kind) label) >>= next)
      ((do resolve ((← get).labelled kind) label) >>= another) := by
  intro here there twins
  have found := twins.labelled mine kind
  rw [perform_bind, perform_bind, perform_bind, perform_bind, perform_get, perform_get]
  unfold resolve
  dsimp only
  generalize (here.labelled kind).get? label = one at found ⊢
  generalize (there.labelled kind).get? label = other at found ⊢
  cases found with
  | some paired => exact continues paired here there twins
  | none => exact Lockstep.throw (.unknownLabel label) here there twins

end Lockstep

/-! ## Primitive operations -/

section

variable {related : Pairing → α → α → Prop}

theorem lockstep_emit (event : Event) :
    Lockstep margins pairing Same (emit event) (emit event) :=
  fun here there twins =>
    ⟨pairing, .refl _, twins.withTrace (here.trace ++ [event]) (there.trace ++ [event]), .ok rfl,
      [event], rfl, rfl⟩

theorem lockstep_log (notice : Notice) :
    Lockstep margins pairing Same (log notice) (log notice) := lockstep_emit _

theorem lockstep_printTo (stream : Option Stream) (line : Text) :
    Lockstep margins pairing Same (printTo stream line) (printTo stream line) := lockstep_emit _

theorem lockstep_readModule {first second : ModuleRef}
    (paired : pairing.refs .module first second) {next another : Module → Op α}
    (continues : ∀ {module counterpart}, module.Matches own pairing counterpart →
      Lockstep margins pairing related (next module) (another counterpart)) :
    Lockstep margins pairing related (readModule first >>= next) (readModule second >>= another) :=
  fun here there twins => continues (twins.contents paired) here there twins

theorem lockstep_readSnapshot {first second : SnapshotRef}
    (paired : pairing.refs .snapshot first second) {next another : Snapshot → Op α}
    (continues : ∀ {snapshot counterpart}, snapshot.Matches own pairing counterpart →
      Lockstep margins pairing related (next snapshot) (another counterpart)) :
    Lockstep margins pairing related (readSnapshot first >>= next)
      (readSnapshot second >>= another) :=
  fun here there twins => continues (twins.contents paired) here there twins

theorem lockstep_readExports {first second : ExportsRef}
    (paired : pairing.refs .exports first second) {next another : Exports → Op α}
    (continues : ∀ {exports counterpart},
      Table.Matches (pairing.refs .snapshot) exports counterpart →
        Lockstep margins pairing related (next exports) (another counterpart)) :
    Lockstep margins pairing related (readExports first >>= next)
      (readExports second >>= another) :=
  fun here there twins => continues (twins.contents paired) here there twins

theorem lockstep_readHost {first second : HostRef}
    (paired : pairing.refs .host first second) {next another : Host → Op α}
    (continues : ∀ {host counterpart}, host.Matches pairing counterpart →
      Lockstep margins pairing related (next host) (another counterpart)) :
    Lockstep margins pairing related (readHost first >>= next) (readHost second >>= another) :=
  fun here there twins => continues (twins.contents paired) here there twins

theorem lockstep_newModule {module counterpart : Module}
    (matched : module.Matches own pairing counterpart) :
    Lockstep margins pairing (Paired .module) (newModule module) (newModule counterpart) :=
  fun _ _ twins =>
    ⟨_, .silent (pairing.extends_addRef _ _) (twins.allocate .module matched) .new rfl rfl⟩

theorem lockstep_newSnapshot {snapshot counterpart : Snapshot}
    (matched : snapshot.Matches own pairing counterpart) :
    Lockstep margins pairing (Paired .snapshot) (newSnapshot snapshot) (newSnapshot counterpart) :=
  fun _ _ twins =>
    ⟨_, .silent (pairing.extends_addRef _ _) (twins.allocate .snapshot matched) .new rfl rfl⟩

theorem lockstep_newExports :
    Lockstep margins pairing (Paired .exports) newExports newExports :=
  fun _ _ twins =>
    ⟨_, .silent (pairing.extends_addRef _ _) (twins.allocate .exports List.Forall₂.nil) .new
      rfl rfl⟩

theorem lockstep_newNative {action counterpart : NativeAction}
    (matched : action.Matches own pairing counterpart) :
    Lockstep margins pairing (fun pairing => Native.Matches own pairing) (newNative action)
      (newNative counterpart) := by
  intro here there twins
  have grown := pairing.extends_addNative here.natives there.natives
  exact ⟨_, .silent grown twins.addNative ⟨.inr ⟨rfl, rfl⟩, matched.mono grown⟩ rfl rfl⟩

theorem lockstep_updateModule {first second : ModuleRef}
    (paired : pairing.refs .module first second) {change changeToo : Module → Module}
    (changes : ∀ {module counterpart}, module.Matches own pairing counterpart →
      (change module).Matches own pairing (changeToo counterpart)) :
    Lockstep margins pairing Same (updateModule first change) (updateModule second changeToo) :=
  fun _ _ twins =>
    ⟨pairing, .silent (.refl _) (twins.write .module nofun paired (changes (twins.contents paired)))
      rfl rfl rfl⟩

theorem lockstep_updateHost {first second : HostRef}
    (paired : pairing.refs .host first second) {change changeToo : Host → Host}
    (changes : ∀ {host counterpart}, host.Matches pairing counterpart →
      (change host).Matches pairing (changeToo counterpart)) :
    Lockstep margins pairing Same (updateHost first change) (updateHost second changeToo) :=
  fun _ _ twins =>
    ⟨pairing, .silent (.refl _) (twins.write .host nofun paired (changes (twins.contents paired)))
      rfl rfl rfl⟩

/-- Exporting corresponding snapshots. -/
theorem lockstep_publish {first second : ExportsRef}
    (paired : pairing.refs .exports first second) (name : Text) {snapshot counterpart : SnapshotRef}
    (snapshots : pairing.refs .snapshot snapshot counterpart) :
    Lockstep margins pairing Same (publish first name snapshot)
      (publish second name counterpart) := by
  refine lockstep_readExports paired fun {exports counterpart} matched => ?_
  rw [matched.contains name]
  refine .andThen ?_ fun _ _ => lockstep_log _
  exact fun _ _ twins =>
    ⟨pairing, .silent (.refl _)
      (twins.write .exports nofun paired (Pairs.Matches.put matched name snapshots)) rfl rfl rfl⟩

/-- An own label for corresponding things. -/
theorem lockstep_label (kind : RefKind) {first second : Ref kind}
    (paired : pairing.refs kind first second) {label : Text} (mine : own label = true) :
    Lockstep margins pairing Same (modify fun world => world.label label kind first)
      (modify fun world => world.label label kind second) := by
  intro here there twins
  refine ⟨pairing, .silent (.refl _) (twins.label kind paired mine) rfl ?_ ?_⟩ <;> cases kind <;> rfl

end

/-! ## Modules -/

section

variable {enter : Enter}
  (enters : ∀ {pairing : Pairing} {one other : Native}, one.Matches own pairing other →
    Lockstep margins pairing Same (enter one) (enter other))

include enters

theorem lockstep_invoke {functions counterparts : FunctionTable}
    (matched : functions.Matches own pairing counterparts) (owner : Option Text) (name : Text) :
    Lockstep margins pairing Same (invoke enter functions owner name)
      (invoke enter counterparts owner name) := by
  have found := matched.function? name
  unfold invoke
  generalize functions.function? name = one at found ⊢
  generalize counterparts.function? name = other at found ⊢
  cases found with
  | none => exact .andThen (lockstep_log _) fun _ _ => .pure rfl
  | some natives => exact .andThen (enters natives) fun _ _ => .pure rfl

theorem lockstep_invokeModule {first second : ModuleRef}
    (paired : pairing.refs .module first second) (name : Text) :
    Lockstep margins pairing Same (invokeModule enter first name)
      (invokeModule enter second name) := by
  refine lockstep_readModule paired fun matched => ?_
  rw [matched.name]
  exact lockstep_invoke enters matched.functions _ name

theorem lockstep_invokeSnapshot {first second : SnapshotRef}
    (paired : pairing.refs .snapshot first second) (name : Text) :
    Lockstep margins pairing Same (invokeSnapshot enter first name)
      (invokeSnapshot enter second name) := by
  refine lockstep_readSnapshot paired fun matched => ?_
  rw [matched.name]
  exact lockstep_invoke enters matched.functions _ name

end

theorem lockstep_attach {first second : ModuleRef} (paired : pairing.refs .module first second)
    (code : Text) (stream : Option Stream) :
    Lockstep margins pairing Same (attach first code stream) (attach second code stream) := by
  refine lockstep_readModule paired fun matched => ?_
  rw [matched.echo, matched.stream]
  cases Println.argument? code with
  | none => exact .pure rfl
  | some argument =>
    dsimp only
    split
    · exact .andThen (lockstep_printTo _ _) fun _ _ => .pure rfl
    · exact .pure rfl

theorem lockstep_attachScript {first second : ModuleRef}
    (paired : pairing.refs .module first second) :
    Lockstep margins pairing Same (attachScript first) (attachScript second) := by
  refine lockstep_readModule paired fun matched => ?_
  rw [matched.script]
  exact lockstep_attach paired _ none

theorem lockstep_define {first second : ModuleRef} (paired : pairing.refs .module first second)
    (name : Text) {action counterpart : Option NativeAction}
    (actions : Option.Rel (NativeAction.Matches own pairing) action counterpart) :
    Lockstep margins pairing Same (define first name action) (define second name counterpart) := by
  cases actions with
  | none => exact lockstep_updateModule paired fun matched => matched.define name .none
  | some action =>
    refine .bind (lockstep_newNative action) fun grown natives => ?_
    exact lockstep_updateModule (grown.refs paired) fun matched => matched.define name (.some natives)

theorem lockstep_takeSnapshot {first second : ModuleRef}
    (paired : pairing.refs .module first second) :
    Lockstep margins pairing (Paired .snapshot) (takeSnapshot first) (takeSnapshot second) :=
  lockstep_readModule paired fun matched => lockstep_newSnapshot matched.snapshot

/-! ## Engines -/

end Op

/-- Engines that are the same but for addresses. -/
structure Engine.Matches (pairing : Pairing) (one other : Engine) : Prop where
  exports : pairing.refs .exports one.exports other.exports
  reporting : one.reporting = other.reporting
  stream : one.stream = other.stream

namespace Engine

open Op

variable {own : Text → Bool} {margins : Margins own} {pairing : Pairing} {engine counterpart : Engine}

theorem Matches.mono {larger : Pairing} (matched : engine.Matches pairing counterpart)
    (grown : pairing.Extends larger) : engine.Matches larger counterpart :=
  { matched with exports := grown.refs matched.exports }

theorem lockstep_diagnose (tally : Tally) (diagnostic : Diagnostic) :
    Lockstep margins pairing Same (diagnose tally diagnostic) (diagnose tally diagnostic) :=
  .andThen (lockstep_log _) fun _ _ => .pure rfl

theorem lockstep_exit (matched : engine.Matches pairing counterpart) (instruction : Instruction)
    (tally : Tally) :
    Lockstep margins pairing Same (engine.exit instruction tally)
      (counterpart.exit instruction tally) := by
  unfold exit
  rw [matched.reporting, matched.stream]
  dsimp only
  split
  · exact .andThen (lockstep_printTo _ _) fun _ _ => .pure rfl
  · exact .pure rfl

section

variable {enter : Enter}
  (enters : ∀ {pairing : Pairing} {one other : Native}, one.Matches own pairing other →
    Lockstep margins pairing Same (enter one) (enter other))

include enters

theorem lockstep_callFunction (matched : engine.Matches pairing counterpart)
    (module function : Text) (tally : Tally) :
    Lockstep margins pairing Same (engine.callFunction enter module function tally)
      (counterpart.callFunction enter module function tally) := by
  refine lockstep_readExports matched.exports fun {exports counterparts} tables => ?_
  have found := tables.get? module
  generalize exports.get? module = one at found ⊢
  generalize counterparts.get? module = other at found ⊢
  cases found with
  | none =>
    rw [matched.reporting]
    dsimp only
    split
    · exact lockstep_diagnose _ _
    · exact .andThen (lockstep_log _) fun _ _ => .pure rfl
  | some paired =>
    refine .andThen (lockstep_invokeSnapshot enters paired function) fun _ entered => ?_
    cases entered with
    | true => exact .pure rfl
    | false => exact .pure rfl

theorem lockstep_call (matched : engine.Matches pairing counterpart) (index : Nat)
    (instruction : Instruction) (tally : Tally) :
    Lockstep margins pairing Same (engine.call enter index instruction tally)
      (counterpart.call enter index instruction tally) := by
  unfold call
  split
  · exact lockstep_diagnose _ _
  · split
    · exact lockstep_diagnose _ _
    · exact lockstep_callFunction enters matched _ _ tally
  · exact lockstep_diagnose _ _

theorem lockstep_step (matched : engine.Matches pairing counterpart) (index : Nat) (item : Item)
    (tally : Tally) :
    Lockstep margins pairing Same (engine.step enter index item tally)
      (counterpart.step enter index item tally) := by
  unfold step
  dsimp only
  split
  · exact .andThen (lockstep_diagnose _ _) fun _ _ => .pure rfl
  · split
    · exact .andThen (lockstep_call enters matched _ _ _) fun _ _ => .pure rfl
    · split
      · exact lockstep_exit matched _ _
      · exact .andThen (lockstep_diagnose _ _) fun _ _ => .pure rfl

theorem lockstep_runFrom (matched : engine.Matches pairing counterpart) (program : Program)
    (index : Nat) (tally : Tally) :
    Lockstep margins pairing Same (engine.runFrom enter index program tally)
      (counterpart.runFrom enter index program tally) := by
  induction program generalizing pairing index tally with
  | nil => exact .pure rfl
  | cons item rest inductionHypothesis =>
    refine .andThen (lockstep_step enters matched index item tally) fun grown progress => ?_
    cases progress with
    | goesOn tally => exact inductionHypothesis (matched.mono grown) (index + 1) tally
    | exits code tally => exact .pure rfl

theorem lockstep_run (matched : engine.Matches pairing counterpart) (program : Program) :
    Lockstep margins pairing Same (engine.run enter program) (counterpart.run enter program) := by
  refine .andThen (lockstep_runFrom enters matched program 0 {}) fun _ result => ?_
  cases result with
  | completed => exact .pure rfl
  | exited => exact .throw _

end

end Engine

namespace Op

variable {own : Text → Bool} {margins : Margins own} {pairing : Pairing} {α β : Type}

/-! ## Hosts -/

theorem lockstep_newHost {exports counterpart : Option ExportsRef}
    (given : Option.Rel (pairing.refs .exports) exports counterpart) (reporting : Reporting)
    (stream : Option Stream) :
    Lockstep margins pairing (Paired .host) (newHost exports reporting stream)
      (newHost counterpart reporting stream) := by
  have placed : ∀ {pairing : Pairing} {used usedToo : ExportsRef},
      pairing.refs .exports used usedToo → Lockstep margins pairing (Paired .host)
        (do
          let ref := (← get).hosts.next
          modify fun world =>
            { world with hosts := world.hosts.allocate ⟨used, reporting, stream, none⟩ }
          return ref)
        (do
          let ref := (← get).hosts.next
          modify fun world =>
            { world with hosts := world.hosts.allocate ⟨usedToo, reporting, stream, none⟩ }
          return ref) :=
    fun paired _ _ twins =>
      ⟨_, .silent (Pairing.extends_addRef _ _ _)
        (twins.allocate .host (Host.Matches.mk paired rfl rfl .none)) .new rfl rfl⟩
  unfold newHost
  simp only [pure_bind]
  cases given with
  | none => exact .bind lockstep_newExports fun _ paired => placed paired
  | some paired =>
    refine lockstep_readExports paired fun {exports counterparts} matched => ?_
    rw [matched.size]
    by_cases empty : counterparts.size = 0
    · simp only [if_pos empty]
      exact .bind lockstep_newExports fun _ paired => placed paired
    · simp only [if_neg empty]
      exact placed paired

theorem lockstep_adopt {host counterpart : HostRef} (hosts : pairing.refs .host host counterpart)
    {module moduleToo : ModuleRef} (modules : pairing.refs .module module moduleToo) :
    Lockstep margins pairing Same (adopt host module) (adopt counterpart moduleToo) := by
  refine lockstep_readHost hosts fun {state stateToo} matched => ?_
  rw [matched.stream]
  refine .andThen (lockstep_updateModule modules fun contents => ?_) fun grown _ => ?_
  · exact { contents with stream := by rw [contents.stream] }
  · exact lockstep_updateHost (grown.refs hosts) fun states =>
      { states with current := .some (grown.refs modules) }

/-- Building with callbacks that do the same. -/
theorem lockstep_build {host counterpart : HostRef} (hosts : pairing.refs .host host counterpart)
    {module moduleToo : ModuleRef} (modules : pairing.refs .module module moduleToo)
    {callback : Op Unit} (calls : ∀ {pairing}, Lockstep margins pairing Same callback callback) :
    Lockstep margins pairing Same (build host module callback)
      (build counterpart moduleToo callback) :=
  .andThen (lockstep_adopt hosts modules) fun _ _ => calls

theorem lockstep_attachSource {host counterpart : HostRef}
    (hosts : pairing.refs .host host counterpart) {callback : Op Text}
    (calls : ∀ {pairing}, Lockstep margins pairing Same callback callback) :
    Lockstep margins pairing Same (attachSource host callback)
      (attachSource counterpart callback) := by
  refine lockstep_readHost hosts fun {state stateToo} matched => ?_
  have current := matched.current
  generalize state.current = one at current ⊢
  generalize stateToo.current = other at current ⊢
  cases current with
  | none => exact lockstep_log _
  | some =>
    refine .andThen calls fun grown source => ?_
    -- the callback may have made another module the current one
    refine lockstep_readHost (grown.refs hosts) fun {state stateToo} matched => ?_
    have current := matched.current
    generalize state.current = one at current ⊢
    generalize stateToo.current = other at current ⊢
    cases current with
    | none => exact .pure rfl
    | some modules =>
      exact lockstep_updateModule modules fun contents => { contents with script := rfl }

theorem lockstep_exportCurrent {host counterpart : HostRef}
    (hosts : pairing.refs .host host counterpart) {callback : Op Unit}
    (calls : Lockstep margins pairing Same callback callback) (name : Text) :
    Lockstep margins pairing (fun pairing => Option.Rel (pairing.refs .snapshot))
      (exportCurrent host callback name) (exportCurrent counterpart callback name) := by
  refine .andThen calls fun grown _ => ?_
  refine lockstep_readHost (grown.refs hosts) fun {state stateToo} matched => ?_
  have current := matched.current
  generalize state.current = one at current ⊢
  generalize stateToo.current = other at current ⊢
  cases current with
  | none => exact .andThen (lockstep_log _) fun _ _ => .pure .none
  | some modules =>
    refine .bind (lockstep_takeSnapshot modules) fun grownToo snapshots => ?_
    refine .andThen (lockstep_publish (grownToo.refs matched.exports) name snapshots) ?_
    exact fun grownAgain _ => .pure (.some (grownAgain.refs snapshots))

theorem lockstep_importExport {host counterpart : HostRef}
    (hosts : pairing.refs .host host counterpart) (name : Text) :
    Lockstep margins pairing (fun pairing => Option.Rel (pairing.refs .snapshot))
      (importExport host name) (importExport counterpart name) :=
  lockstep_readHost hosts fun matched =>
    lockstep_readExports matched.exports fun tables => .pure (tables.get? name)

theorem lockstep_exit {host counterpart : HostRef} (hosts : pairing.refs .host host counterpart)
    (code : Value) :
    Lockstep margins pairing Same (exit host code) (exit counterpart code) := by
  refine lockstep_readHost hosts fun matched => ?_
  rw [matched.reporting, matched.stream]
  dsimp only
  split
  · exact .andThen (lockstep_printTo _ _) fun _ _ => .throw _
  · exact .throw _

theorem lockstep_engine {host counterpart : HostRef} (hosts : pairing.refs .host host counterpart) :
    Lockstep margins pairing (fun pairing => Engine.Matches pairing) (engine host)
      (engine counterpart) :=
  lockstep_readHost hosts fun matched =>
    .pure ⟨matched.exports, matched.reporting, matched.stream⟩

section

variable {enter : Enter}
  (enters : ∀ {pairing : Pairing} {one other : Native}, one.Matches own pairing other →
    Lockstep margins pairing Same (enter one) (enter other))

include enters

theorem lockstep_callDirect {host counterpart : HostRef}
    (hosts : pairing.refs .host host counterpart) (module function : Text) :
    Lockstep margins pairing Same (callDirect enter host module function)
      (callDirect enter counterpart module function) := by
  refine .bind (lockstep_importExport hosts module) fun _ found => ?_
  cases found with
  | none => exact .pure rfl
  | some snapshots =>
    refine lockstep_readSnapshot snapshots fun {snapshot snapshotToo} matched => ?_
    have found := Table.Matches.get? matched.functions function
    generalize snapshot.functions.get? function = one at found ⊢
    generalize snapshotToo.functions.get? function = other at found ⊢
    cases found with
    | none => exact .pure rfl
    | some found =>
      cases found with
      | none => exact .throw _
      | some natives => exact .andThen (enters natives) fun _ _ => .pure rfl

theorem lockstep_runProgram {host counterpart : HostRef}
    (hosts : pairing.refs .host host counterpart) (program : Program) :
    Lockstep margins pairing Same (runProgram enter host program)
      (runProgram enter counterpart program) :=
  .bind (lockstep_engine hosts) fun _ matched => Engine.lockstep_run enters matched program

end

/-! ## Labels and views -/

theorem lockstep_viewLabelled {label : Option Text} (mine : ∀ name ∈ label, own name = true)
    {first second : SnapshotRef} (paired : pairing.refs .snapshot first second) :
    Lockstep margins pairing Same (viewLabelled label first) (viewLabelled label second) := by
  have viewed : ∀ {pairing : Pairing}, pairing.refs .snapshot first second →
      Lockstep margins pairing Same (do return StepResult.snapshot (← readSnapshot first).view)
        (do return StepResult.snapshot (← readSnapshot second).view) := by
    intro pairing paired
    refine lockstep_readSnapshot paired fun matched => ?_
    rw [matched.view]
    exact .pure rfl
  cases label with
  | none => exact viewed paired
  | some name =>
    exact .andThen (lockstep_label .snapshot paired (mine name rfl)) fun grown _ =>
      viewed (grown.refs paired)

theorem lockstep_viewFound {label : Option Text} (mine : ∀ name ∈ label, own name = true)
    {found counterpart : Option SnapshotRef}
    (both : Option.Rel (pairing.refs .snapshot) found counterpart) :
    Lockstep margins pairing Same (viewFound label found) (viewFound label counterpart) := by
  cases both with
  | none => exact .pure rfl
  | some paired => exact lockstep_viewLabelled mine paired

/-- Going on from the export table that an own label leads to. -/
theorem lockstep_exportsAt {exports : ExportsLabel} (mine : own exports.label = true)
    {related : Pairing → α → α → Prop} {next another : ExportsRef → Op α}
    (continues : ∀ {first second}, pairing.refs .exports first second →
      Lockstep margins pairing related (next first) (another second)) :
    Lockstep margins pairing related (exportsAt exports >>= next)
      (exportsAt exports >>= another) := by
  cases exports with
  | exports label => exact .resolve .exports mine continues
  | ofHost label =>
    simp only [exportsAt, bind_assoc]
    refine .resolve .host mine fun hosts => ?_
    exact lockstep_readHost hosts fun matched => continues matched.exports

/-- Exporting what an own label leads to. -/
theorem lockstep_publishAt {first second : ExportsRef}
    (paired : pairing.refs .exports first second) (name : Text) {source : ExportLabel}
    (mine : own source.label = true) :
    Lockstep margins pairing Same (publishAt first name source)
      (publishAt second name source) := by
  have viewed : ∀ (same : Bool) {pairing : Pairing} {first second : ExportsRef}
      {snapshot counterpart : SnapshotRef}, pairing.refs .exports first second →
      pairing.refs .snapshot snapshot counterpart →
      Lockstep margins pairing Same
        (do
          publish first name snapshot
          return StepResult.published (← readSnapshot snapshot).view same)
        (do
          publish second name counterpart
          return StepResult.published (← readSnapshot counterpart).view same) := by
    intro same pairing first second snapshot counterpart paired snapshots
    refine .andThen (lockstep_publish paired name snapshots) fun grown _ => ?_
    refine lockstep_readSnapshot (grown.refs snapshots) fun matched => ?_
    rw [matched.view]
    exact .pure rfl
  cases source with
  | module label =>
    refine .resolve .module mine fun modules => ?_
    exact .bind (lockstep_takeSnapshot modules) fun grown snapshots =>
      viewed false (grown.refs paired) snapshots
  | snapshot label => exact .resolve .snapshot mine fun snapshots => viewed true paired snapshots

theorem lockstep_listExports {first second : ExportsRef}
    (paired : pairing.refs .exports first second) :
    Lockstep margins pairing Same (listExports first) (listExports second) :=
  .look fun twins => .pure (twins.listing paired)

theorem lockstep_programOf (files : FileSystem) (source : ProgramSource) (modelled : Bool) :
    Lockstep margins pairing Same (programOf files source modelled)
      (programOf files source modelled) := by
  unfold programOf
  cases source with
  | values items => exact .andThen (.pure rfl) fun _ _ => .pure rfl
  | file path =>
    dsimp only
    cases Program.load files path with
    | ok items => exact .andThen (.pure rfl) fun _ _ => .pure rfl
    | error failure => exact .throw failure

/-! ## Steps -/

section

variable {around : Surroundings} {run : Body → Op Unit}
  (bodies : ∀ {pairing : Pairing} {body : Body}, Body.KeepsTo own body →
    Lockstep margins pairing Same (run body) (run body))

include bodies

theorem lockstep_enterNative {one other : Native} (matched : one.Matches own pairing other) :
    Lockstep margins pairing Same (enterNative run one) (enterNative run other) := by
  have actions := matched.action
  unfold enterNative
  generalize one.action = action at actions ⊢
  generalize other.action = counterpart at actions ⊢
  cases actions with
  | script keeps => exact bodies keeps
  | say line => exact lockstep_printTo none line
  | attachScript paired => exact .andThen (lockstep_attachScript paired) fun _ _ => .pure rfl

theorem lockstep_enterCallback {callback : Option Body}
    (keeps : ∀ body ∈ callback, Body.KeepsTo own body) :
    Lockstep margins pairing Same (enterCallback run callback) (enterCallback run callback) := by
  cases callback with
  | none => exact .throw _
  | some body => exact bodies (keeps body rfl)

omit bodies in
/-- Functions that are defined by one body do the same. -/
theorem lockstep_defineAt {module : Text} (mine : own module = true) (function : Text)
    {body : Option Body} (keeps : ∀ inner ∈ body, Body.KeepsTo own inner) :
    Lockstep margins pairing Same (defineAt module function body)
      (defineAt module function body) := by
  refine .resolve .module mine fun paired => lockstep_define paired function ?_
  cases body with
  | none => exact .none
  | some body => exact .some (.script (keeps body rfl))

/-- A step that keeps to its own labels does the same in twin worlds. -/
theorem lockstep_performStep {step : Step} (keeps : step.KeepsTo own) :
    Lockstep margins pairing Same (performStep around run step) (performStep around run step) := by
  have natives : ∀ {pairing : Pairing} {one other : Native}, one.Matches own pairing other →
      Lockstep margins pairing Same (enterNative run one) (enterNative run other) :=
    fun matched => lockstep_enterNative bodies matched
  cases step with
  | note label => exact .andThen (lockstep_emit _) fun _ _ => .pure rfl
  | print content => exact .andThen (lockstep_printTo _ _) fun _ _ => .pure rfl
  | raise => exact .throw _
  | attempt body =>
    exact .tryCatch (.andThen (bodies (keeps.inside rfl)) fun _ _ => .pure rfl) fun _ _ => .pure rfl
  | newModule label name script echo stream =>
    have fresh : Module.Matches own pairing { name, script, echo, stream }
      { name, script, echo, stream } := ⟨rfl, .nil, rfl, rfl, rfl⟩
    refine .bind (lockstep_newModule fresh) fun _ paired => ?_
    exact .andThen (lockstep_label .module paired (keeps.first rfl)) fun _ _ => .pure rfl
  | define module function body | decorate module function body =>
    exact .andThen (lockstep_defineAt (keeps.first rfl) function (keeps.callback rfl))
      fun _ _ => .pure rfl
  | setScript module script =>
    refine .resolve .module (keeps.first rfl) fun paired => ?_
    exact .andThen (lockstep_updateModule paired fun matched => { matched with script := rfl })
      fun _ _ => .pure rfl
  | setEcho module echo =>
    refine .resolve .module (keeps.first rfl) fun paired => ?_
    exact .andThen (lockstep_updateModule paired fun matched => { matched with echo := rfl })
      fun _ _ => .pure rfl
  | attach module code stream =>
    refine .resolve .module (keeps.first rfl) fun paired => ?_
    exact .andThen (lockstep_attach paired code stream) fun _ _ => .pure rfl
  | attachScript module =>
    refine .resolve .module (keeps.first rfl) fun paired => ?_
    exact .andThen (lockstep_attachScript paired) fun _ _ => .pure rfl
  | invoke module function =>
    refine .resolve .module (keeps.first rfl) fun paired => ?_
    exact .andThen (lockstep_invokeModule natives paired function) fun _ _ => .pure rfl
  | compareModules first second =>
    refine .resolve .module (keeps.first rfl) fun paired => ?_
    refine lockstep_readModule paired fun matched => ?_
    refine .resolve .module (keeps.second rfl) fun pairedToo => ?_
    refine lockstep_readModule pairedToo fun matchedToo => .knowing fun twins => ?_
    rw [matched.same twins.uniqueNatives matchedToo]
    exact .pure rfl
  | takeSnapshot module label =>
    refine .resolve .module (keeps.first rfl) fun paired => ?_
    refine .bind (lockstep_takeSnapshot paired) fun _ snapshots => ?_
    exact lockstep_viewLabelled (by simpa using keeps.second rfl) snapshots
  | newSnapshot label name script =>
    have fresh : Snapshot.Matches own pairing { name, script } { name, script } := ⟨rfl, .nil, rfl⟩
    refine .bind (lockstep_newSnapshot fresh) fun _ snapshots => ?_
    exact lockstep_viewLabelled (by simpa using keeps.first rfl) snapshots
  | invokeSnapshot snapshot function =>
    refine .resolve .snapshot (keeps.first rfl) fun paired => ?_
    exact .andThen (lockstep_invokeSnapshot natives paired function) fun _ _ => .pure rfl
  | hasFunction snapshot function =>
    refine .resolve .snapshot (keeps.first rfl) fun paired => ?_
    refine lockstep_readSnapshot paired fun matched => .pure ?_
    exact congrArg _ (Table.Matches.contains matched.functions function)
  | viewSnapshot snapshot =>
    exact .resolve .snapshot (keeps.first rfl) fun paired => lockstep_viewLabelled (by simp) paired
  | compareSnapshots first second =>
    refine .resolve .snapshot (keeps.first rfl) fun paired => ?_
    refine lockstep_readSnapshot paired fun matched => ?_
    refine .resolve .snapshot (keeps.second rfl) fun pairedToo => ?_
    refine lockstep_readSnapshot pairedToo fun matchedToo => .knowing fun twins => ?_
    rw [matched.same twins.uniqueNatives matchedToo]
    exact .pure rfl
  | sameSnapshot first second =>
    refine .resolve .snapshot (keeps.first rfl) fun paired => ?_
    refine .resolve .snapshot (keeps.second rfl) fun pairedToo => .knowing fun twins => .pure ?_
    exact congrArg _ (decide_eq_decide.mpr (twins.unique .snapshot paired pairedToo))
  | assignField snapshot field | assignFunction snapshot function =>
    have known : Lockstep margins pairing Same (discard (snapshotAt snapshot))
        (discard (snapshotAt snapshot)) :=
      .resolve .snapshot (keeps.first rfl) fun _ => .pure rfl
    exact .andThen known fun _ _ => .throw _
  | newExports label =>
    refine .bind lockstep_newExports fun _ paired => ?_
    exact .andThen (lockstep_label .exports paired (keeps.first rfl)) fun _ _ => .pure rfl
  | labelExports host label =>
    refine .resolve .host (keeps.first rfl) fun hosts => ?_
    refine lockstep_readHost hosts fun matched => ?_
    exact .andThen (lockstep_label .exports matched.exports (keeps.second rfl)) fun _ _ => .pure rfl
  | sameExports host exports =>
    refine .resolve .host (keeps.first rfl) fun hosts => ?_
    refine lockstep_readHost hosts fun matched => ?_
    refine .resolve .exports (keeps.second rfl) fun paired => .knowing fun twins => .pure ?_
    exact congrArg _ (decide_eq_decide.mpr (twins.unique .exports matched.exports paired))
  | publish exports name source =>
    exact lockstep_exportsAt (keeps.first rfl) fun paired =>
      lockstep_publishAt paired name (keeps.second rfl)
  | lookup exports name label =>
    refine lockstep_exportsAt (keeps.first rfl) fun paired => ?_
    exact lockstep_readExports paired fun tables =>
      lockstep_viewFound (keeps.optional rfl) (tables.get? name)
  | listNames exports =>
    refine lockstep_exportsAt (keeps.first rfl) fun paired => ?_
    exact lockstep_readExports paired fun tables => .pure (congrArg _ tables.sortedKeys)
  | countNames exports =>
    refine lockstep_exportsAt (keeps.first rfl) fun paired => ?_
    exact lockstep_readExports paired fun tables => .pure (congrArg _ tables.size)
  | containsName exports name =>
    refine lockstep_exportsAt (keeps.first rfl) fun paired => ?_
    exact lockstep_readExports paired fun tables => .pure (congrArg _ (tables.contains name))
  | listExports exports =>
    refine lockstep_exportsAt (keeps.first rfl) fun paired => ?_
    exact .andThen (lockstep_listExports paired) fun _ _ => .pure rfl
  | newHost label exports reporting stream =>
    have made : ∀ {pairing : Pairing} {given counterpart : Option ExportsRef},
        Option.Rel (pairing.refs .exports) given counterpart →
        Lockstep margins pairing Same
          (do
            let ref ← Op.newHost given reporting stream
            relabel fun labels => { labels with hosts := labels.hosts.put label ref }
            return StepResult.nothing)
          (do
            let ref ← Op.newHost counterpart reporting stream
            relabel fun labels => { labels with hosts := labels.hosts.put label ref }
            return StepResult.nothing) := by
      intro pairing given counterpart tables
      refine .bind (lockstep_newHost tables reporting stream) fun _ hosts => ?_
      exact .andThen (lockstep_label .host hosts (keeps.first rfl)) fun _ _ => .pure rfl
    cases exports with
    | none => exact made .none
    | some given =>
      have found : Lockstep margins pairing (fun pairing => Option.Rel (pairing.refs .exports))
          (some <$> exportsAt (.exports given)) (some <$> exportsAt (.exports given)) := by
        rw [map_eq_pure_bind]
        exact .resolve .exports (keeps.second rfl) fun paired => .pure (.some paired)
      exact .bind found fun _ tables => made tables
  | setReporting host reporting =>
    refine .resolve .host (keeps.first rfl) fun hosts => ?_
    exact .andThen (lockstep_updateHost hosts fun matched => { matched with reporting := rfl })
      fun _ _ => .pure rfl
  | adopt host module =>
    refine .resolve .host (keeps.first rfl) fun hosts => ?_
    refine .resolve .module (keeps.second rfl) fun modules => ?_
    exact .andThen (lockstep_adopt hosts modules) fun _ _ => .pure rfl
  | build host module body =>
    refine .resolve .host (keeps.first rfl) fun hosts => ?_
    refine .resolve .module (keeps.second rfl) fun modules => ?_
    exact .andThen (lockstep_build hosts modules (lockstep_enterCallback bodies
      (keeps.callback rfl))) fun _ _ => .pure rfl
  | attachSource host source body =>
    refine .resolve .host (keeps.first rfl) fun hosts => ?_
    refine .andThen (lockstep_attachSource hosts ?_) fun _ _ => .pure rfl
    exact .andThen (bodies (keeps.inside rfl)) fun _ _ => .pure rfl
  | exportCurrent host body name label =>
    refine .resolve .host (keeps.first rfl) fun hosts => ?_
    refine .bind (lockstep_exportCurrent hosts ?_ name) fun _ snapshots =>
      lockstep_viewFound (keeps.optional rfl) snapshots
    exact lockstep_enterCallback bodies (keeps.callback rfl)
  | importExport host name label =>
    refine .resolve .host (keeps.first rfl) fun hosts => ?_
    exact .bind (lockstep_importExport hosts name) fun _ snapshots =>
      lockstep_viewFound (keeps.optional rfl) snapshots
  | call host module function =>
    refine .resolve .host (keeps.first rfl) fun hosts => ?_
    exact .andThen (lockstep_callDirect natives hosts module function) fun _ _ => .pure rfl
  | exit host code =>
    refine .resolve .host (keeps.first rfl) fun hosts => ?_
    exact .andThen (lockstep_exit hosts code) fun _ _ => .pure rfl
  | run host source modelled =>
    refine .resolve .host (keeps.first rfl) fun hosts => ?_
    refine .andThen (lockstep_programOf _ source modelled) fun grown program => ?_
    exact .andThen (lockstep_runProgram natives (grown.refs hosts) program) fun _ _ => .pure rfl
  | execute exports reporting stream source modelled =>
    refine lockstep_exportsAt (keeps.first rfl) fun paired => ?_
    refine .andThen (lockstep_programOf _ source modelled) fun grown program => ?_
    have engines : Engine.Matches _ ⟨_, reporting, stream⟩ ⟨_, reporting, stream⟩ :=
      ⟨grown.refs paired, rfl, rfl⟩
    exact .andThen (Engine.lockstep_run natives engines program) fun _ _ => .pure rfl
  | loadPlugin => exact nomatch keeps.not_load
  | current host =>
    -- host and labels are read from one world
    refine .resolve .host (keeps.first rfl) fun hosts here there twins => ?_
    have same := congrArg StepResult.current (twins.currentModule hosts)
    exact Lockstep.pure same here there twins

theorem lockstep_performAll {body : Body} (keeps : Body.KeepsTo own body) :
    Lockstep margins pairing Same (performAll around run body) (performAll around run body) := by
  induction body generalizing pairing with
  | nil => exact .pure rfl
  | cons entry rest inductionHypothesis =>
    obtain ⟨tag, step⟩ := entry
    have further : Body.KeepsTo own rest := fun entry member =>
      keeps entry (List.mem_cons_of_mem _ member)
    refine .andThen (lockstep_performStep bodies (keeps _ List.mem_cons_self)) fun _ result => ?_
    cases tag with
    | none => exact inductionHypothesis further
    | some label => exact .andThen (lockstep_emit _) fun _ _ => inductionHypothesis further

end

/-- A body that keeps to its own labels does the same in twin worlds. -/
theorem lockstep_runBody (around : Surroundings) (depth : Nat) {body : Body}
    (keeps : Body.KeepsTo own body) :
    Lockstep margins pairing Same (runBody around depth body) (runBody around depth body) := by
  induction depth generalizing pairing body with
  | zero => exact .throw _
  | succ depth inductionHypothesis => exact lockstep_performAll inductionHypothesis keeps

end Op

end Switchboard
