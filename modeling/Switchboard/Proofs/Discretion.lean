import Switchboard.Proofs.Calm
import Switchboard.Proofs.Conduct

/-!
# Discretion keeps standard output free

As long as host code is discreet, everything that is printed goes to standard error or to a
stream that host code itself gave to a module. `Settled` is what discreet deeds leave behind: the
host prints to standard error, no label leads to another host, and a module that was adopted has a
stream. `Op.Quiet` says that an operation keeps this up and shows nothing on standard output as
long as its deeds are discreet; it holds of every body (`quiet_runBody`).
-/

namespace Switchboard

/-! ## What discreet deeds leave behind -/

/-- What holds behind discreet deeds. -/
structure Settled (host : HostRef) (past : List Deed) (world : World) : Prop where
  used : host.address < world.hosts.size
  stream : (world.hosts.read host).stream = some .stderr
  hosts : ∀ {label other}, world.labels.hosts.get? label = some other → other = host
  modules : ∀ {label ref}, world.labels.modules.get? label = some ref →
    ref.address < world.modules.size
  given : ∀ {ref stream}, (world.modules.read ref).stream = some stream →
    stream = .stderr ∨ .makes ref (some stream) ∈ past
  adopted : ∀ {ref}, .adopts host ref ∈ past →
    ref.address < world.modules.size ∧ (world.modules.read ref).stream ≠ none

/-- An event that is kept off standard output: what is written goes to standard error or to a
stream that host code named. -/
def Event.Kept (deeds : List Deed) : Event → Prop
  | .wrote stream _ =>
      stream ≠ .stdout ∧ (stream = .stderr ∨ ∃ module,
        .makes module (some stream) ∈ deeds ∨ .attaches module (some stream) ∈ deeds)
  | _ => True

theorem Event.Kept.mono {early late : List Deed} {event : Event} (kept : event.Kept early) :
    event.Kept (early ++ late) := by
  cases event with
  | logged | traced => trivial
  | wrote stream content =>
    obtain ⟨free, named⟩ := kept
    refine ⟨free, named.imp_right ?_⟩
    rintro ⟨module, made | attached⟩
    · exact ⟨module, .inl (List.mem_append_left late made)⟩
    · exact ⟨module, .inr (List.mem_append_left late attached)⟩

/-- What discreet deeds do to a world: it stays settled, and all events are kept off standard
output. -/
structure Quietly (host : HostRef) (past deeds : List Deed) (before after : World) : Prop where
  settled : Settled host (past ++ deeds) after
  events : ∃ events, after.trace = before.trace ++ events ∧
    ∀ event ∈ events, event.Kept (past ++ deeds)

namespace Quietly

variable {host : HostRef} {past early late : List Deed} {before between after : World}

theorem trans (first : Quietly host past early before between)
    (second : Quietly host (past ++ early) late between after) :
    Quietly host past (early ++ late) before after := by
  obtain ⟨shown, trace, kept⟩ := first.events
  obtain ⟨more, traceToo, keptToo⟩ := second.events
  refine ⟨by simpa using second.settled, shown ++ more, ?_, ?_⟩
  · rw [traceToo, trace, List.append_assoc]
  · intro event member
    rw [← List.append_assoc]
    rcases List.mem_append.mp member with old | new
    · exact (kept event old).mono
    · exact keptToo event new

/-- Nothing is done and nothing is shown. -/
theorem idle (settled : Settled host past after) (silent : after.trace = before.trace) :
    Quietly host past [] before after :=
  ⟨by rwa [List.append_nil], [], by rw [silent, List.append_nil], nofun⟩

/-- Nothing is done at first. -/
theorem settled_of_nil (idle : Quietly host past [] before after) : Settled host past after := by
  simpa using idle.settled

theorem nil_trans (idle : Quietly host past [] before between)
    (second : Quietly host past late between after) : Quietly host past late before after :=
  idle.trans (by rwa [List.append_nil])

/-- Nothing more is done at last. -/
theorem trans_nil (first : Quietly host past early before between)
    (idle : Quietly host (past ++ early) [] between after) :
    Quietly host past early before after := by
  simpa using first.trans idle

end Quietly

namespace Settled

variable {host : HostRef} {past : List Deed} {world : World} (settled : Settled host past world)

include settled

/-- What is shown off standard output is shown quietly. -/
theorem shows {events : List Event} (kept : ∀ event ∈ events, event.Kept past) :
    Quietly host past [] world (world.record events) := by
  refine ⟨?_, events, rfl, ?_⟩
  · rw [List.append_nil]
    exact { settled with }
  · rw [List.append_nil]
    exact kept

/-- Source is echoed off standard output when it is attached to a module that was adopted. -/
theorem kept_echo {ref : ModuleRef} {stream : Option Stream}
    (allowed : Deed.Allowed host past (.attaches ref stream)) (line : Text) :
    Event.Kept (past ++ [.attaches ref stream])
      (.wrote ((stream <|> (world.modules.read ref).stream).getD .stdout) line) := by
  obtain ⟨free, adopted, unmade⟩ := allowed
  cases stream with
  | some stream =>
    refine ⟨fun same => free (congrArg some same), .inr ⟨ref, .inr ?_⟩⟩
    exact List.mem_append_right past (List.mem_singleton.mpr rfl)
  | none =>
    obtain ⟨own, has⟩ := Option.ne_none_iff_exists'.mp (settled.adopted adopted).2
    have kept : Event.Kept past (.wrote own line) := by
      rcases settled.given has with rfl | made
      · exact ⟨nofun, .inl rfl⟩
      · refine ⟨?_, .inr ⟨ref, .inl made⟩⟩
        rintro rfl
        exact unmade made
    rw [has]
    exact kept.mono

/-- A module more, with whatever stream it was given. -/
theorem addModule (module : Module) :
    Settled host (past ++ [.makes world.modules.next module.stream])
      { world with modules := world.modules.allocate module } := by
  refine { settled with modules := ?_, given := ?_, adopted := ?_ }
  · intro label ref found
    exact Nat.lt_succ_of_lt (settled.modules found)
  · intro ref stream has
    by_cases new : ref = world.modules.next
    · subst new
      rw [Store.read_allocate_next] at has
      rw [has]
      exact .inr (List.mem_append_right past (List.mem_singleton.mpr rfl))
    · rw [Store.read_allocate_other _ _ new] at has
      exact (settled.given has).imp_right (List.mem_append_left _)
  · intro ref member
    have old : .adopts host ref ∈ past := by simpa using member
    obtain ⟨used, has⟩ := settled.adopted old
    refine ⟨Nat.lt_succ_of_lt used, ?_⟩
    rwa [Store.read_allocate_old _ _ used]

/-- A label more for a module in use. -/
theorem labelModule {ref : ModuleRef} (used : ref.address < world.modules.size) (label : Text) :
    Settled host past
      { world with
        labels := { world.labels with modules := world.labels.modules.put label ref } } := by
  refine { settled with modules := ?_ }
  intro other found
  rw [Table.get?_put]
  split
  · rintro ⟨⟩
    exact used
  · exact settled.modules

/-- A label more for the host. -/
theorem labelHost (label : Text) :
    Settled host past
      { world with
        labels := { world.labels with hosts := world.labels.hosts.put label host } } := by
  refine { settled with hosts := ?_ }
  intro other found
  rw [Table.get?_put]
  split
  · rintro ⟨⟩
    rfl
  · exact settled.hosts

/-- A module in use that the host adopts has a stream from then on. -/
theorem adopts {ref : ModuleRef} (used : ref.address < world.modules.size) :
    Settled host (past ++ [.adopts host ref])
      { world with
        modules := world.modules.write ref
          { world.modules.read ref with
            stream := (world.modules.read ref).stream <|> (world.hosts.read host).stream } } := by
  rw [settled.stream]
  refine { settled with given := ?_, adopted := ?_ }
  · intro other stream has
    by_cases same : other = ref
    · subst same
      rw [Store.read_write_same] at has
      cases own : (world.modules.read other).stream with
      | none =>
        rw [own] at has
        cases has
        exact .inl rfl
      | some _ =>
        rw [own] at has
        cases has
        exact (settled.given own).imp_right (List.mem_append_left _)
    · rw [Store.read_write_other _ _ same] at has
      exact (settled.given has).imp_right (List.mem_append_left _)
  · intro other member
    by_cases same : other = ref
    · subst same
      rw [Store.read_write_same]
      exact ⟨used, by simp⟩
    · have old : .adopts host other ∈ past := by simpa [same] using member
      rw [Store.read_write_other _ _ same]
      exact settled.adopted old

end Settled

/-- What is settled stays so through a calm change. -/
theorem World.Calm.quietly {before after : World} (calm : before.Calm after) {host : HostRef}
    {past : List Deed} (settled : Settled host past before) :
    Quietly host past [] before after := by
  obtain ⟨events, trace, silent⟩ := calm.events
  refine ⟨?_, events, trace, ?_⟩
  · rw [List.append_nil]
    exact
      { used := calm.hosts ▸ settled.used
        stream := (calm.stream host).trans settled.stream
        hosts := fun found => settled.hosts (calm.hostLabels ▸ found)
        modules := fun found => calm.modules ▸ settled.modules (calm.moduleLabels ▸ found)
        given := fun has => settled.given ((calm.streams _).symm.trans has)
        adopted := fun member => by
          obtain ⟨used, has⟩ := settled.adopted member
          exact ⟨calm.modules ▸ used, fun none => has ((calm.streams _).symm.trans none)⟩ }
  · intro event member
    cases event with
    | logged | traced => trivial
    | wrote stream content => exact absurd member (silent stream content)

/-! ## Quiet operations -/

namespace Op

variable {α β : Type} {operation : Op α} {next : α → Op β}

/-- From a settled world an operation does its deeds quietly, if they are discreet. -/
def QuietAt (host : HostRef) (past : List Deed) (world : World) (operation : Op α)
    (deeds : World → List Deed) : Prop :=
  Settled host past world → Discreet host past (deeds world) →
    Quietly host past (deeds world) world (operation.perform world).2

/-- An operation does its deeds quietly from every settled world. -/
def Quiet (host : HostRef) (operation : Op α) (deeds : World → List Deed) : Prop :=
  ∀ past world, QuietAt host past world operation deeds

variable {host : HostRef} {past : List Deed} {world : World} {deeds : World → List Deed}
  {later : α → World → List Deed}

theorem QuietAt.bind (first : QuietAt host past world operation deeds)
    (second : ∀ value between, operation.perform world = (.ok value, between) →
      QuietAt host (past ++ deeds world) between (next value) (later value)) :
    QuietAt host past world (operation >>= next)
      fun world => deeds world ++ Conduct.behind operation later world := by
  intro settled discreet
  obtain ⟨discreetEarly, discreetLate⟩ := discreet_append.mp discreet
  have early := first settled discreetEarly
  rw [perform_bind]
  beta_reduce
  rcases performed : operation.perform world with ⟨failure | value, between⟩ <;>
    rw [performed] at early
  · rw [Conduct.behind_of_error performed, List.append_nil]
    exact early
  · rw [Conduct.behind_of_ok performed] at discreetLate ⊢
    exact early.trans (second value between performed early.settled discreetLate)

/-- What is done in front of calm operations. -/
theorem QuietAt.before (first : QuietAt host past world operation deeds)
    (second : ∀ value, (next value).Calm) :
    QuietAt host past world (operation >>= next) deeds := by
  intro settled discreet
  have early := first settled discreet
  rw [perform_bind]
  rcases performed : operation.perform world with ⟨failure | value, between⟩ <;>
    rw [performed] at early
  · exact early
  · exact early.trans_nil ((second value between).quietly early.settled)

namespace Quiet

theorem of_calm (calm : operation.Calm) : Quiet host operation fun _ => [] :=
  fun _ world settled _ => (calm world).quietly settled

protected theorem bind (first : Quiet host operation deeds)
    (second : ∀ value, Quiet host (next value) (later value)) :
    Quiet host (operation >>= next)
      fun world => deeds world ++ Conduct.behind operation later world :=
  fun past world => (first past world).bind fun value between _ => second value _ between

/-- What is done behind a calm operation. -/
theorem behind (first : operation.Calm) (second : ∀ value, Quiet host (next value) (later value)) :
    Quiet host (operation >>= next) (Conduct.behind operation later) :=
  (of_calm first).bind second

/-- What is done in front of calm operations. -/
theorem before (first : Quiet host operation deeds) (second : ∀ value, (next value).Calm) :
    Quiet host (operation >>= next) deeds :=
  fun past world => (first past world).before second

protected theorem tryCatch {handler : Failure → Op α} (first : Quiet host operation deeds)
    (second : ∀ failure, (handler failure).Calm) :
    Quiet host (tryCatch operation handler) deeds := by
  intro past world settled discreet
  have early := first past world settled discreet
  rw [perform_tryCatch]
  rcases performed : operation.perform world with ⟨failure | value, between⟩ <;>
    rw [performed] at early
  · exact early.trans_nil ((second failure between).quietly early.settled)
  · exact early

end Quiet

/-- A label that was found is in the table, and looking for it changed nothing. -/
theorem found_resolve {labels : World → Table α} {label : Text} {found : α} {between : World}
    (resolved : (do resolve (labels (← get)) label : Op α).perform world = (.ok found, between)) :
    (labels world).get? label = some found ∧ between = world := by
  rw [perform_bind, perform_get] at resolved
  unfold resolve at resolved
  dsimp only at resolved
  split at resolved <;> cases resolved
  exact ⟨‹_›, rfl⟩

/-- The host that a label leads to is the one host there is. -/
theorem Quiet.hostAt (label : Text) {next : HostRef → Op α} {later : HostRef → World → List Deed}
    (second : Quiet host (next host) (later host)) :
    Quiet host (hostAt label >>= next) (Conduct.behind (hostAt label) later) := by
  intro past world settled
  refine QuietAt.bind (Quiet.of_calm (looks_hostAt label).calm past world) ?_ settled
  intro found between resolved
  obtain ⟨labelled, rfl⟩ := found_resolve resolved
  rw [settled.hosts labelled]
  exact second _ _

/-- The module that a label leads to is in use. -/
theorem Quiet.moduleAt (label : Text) {next : ModuleRef → Op α}
    {later : ModuleRef → World → List Deed}
    (second : ∀ ref past world, ref.address < world.modules.size →
      QuietAt host past world (next ref) (later ref)) :
    Quiet host (moduleAt label >>= next) (Conduct.behind (moduleAt label) later) := by
  intro past world settled
  refine QuietAt.bind (Quiet.of_calm (looks_moduleAt label).calm past world) ?_ settled
  intro found between resolved
  obtain ⟨labelled, rfl⟩ := found_resolve resolved
  exact second _ _ _ (settled.modules labelled)

/-! ## Deeds done quietly -/

/-- Attaching source shows the echo of its argument and does nothing else. -/
theorem perform_attach (ref : ModuleRef) (code : Text) (stream : Option Stream) (world : World) :
    ∃ events, ((attach ref code stream).perform world).2 = world.record events ∧
      ∀ event ∈ events, ∃ line,
        event = .wrote ((stream <|> (world.modules.read ref).stream).getD .stdout) line := by
  have read : (readModule ref).perform world = (.ok (world.modules.read ref), world) := rfl
  rw [attach, perform_bind, read]
  dsimp only
  cases Println.argument? code with
  | none => exact ⟨[], by simp, nofun⟩
  | some argument =>
    dsimp only
    cases (world.modules.read ref).echo with
    | false => exact ⟨[], by simp, nofun⟩
    | true =>
      refine ⟨[_], rfl, fun event member => ?_⟩
      exact ⟨_, List.mem_singleton.mp member⟩

/-- Attaching source to a module that was adopted. -/
theorem quiet_attach (ref : ModuleRef) (code : Text) (stream : Option Stream) :
    Quiet host (attach ref code stream) fun _ => [.attaches ref stream] := by
  intro past world settled discreet
  obtain ⟨events, shown, echoes⟩ := perform_attach ref code stream world
  rw [shown]
  refine ⟨?_, events, rfl, ?_⟩
  · exact
      { settled with
        given := fun has => (settled.given has).imp_right (List.mem_append_left _)
        adopted := fun member => settled.adopted (by simpa using member) }
  · intro event member
    obtain ⟨line, rfl⟩ := echoes event member
    exact settled.kept_echo discreet.1 line

theorem quiet_attachScript (ref : ModuleRef) :
    Quiet host (attachScript ref) fun _ => [.attaches ref none] :=
  fun past world => quiet_attach ref (world.modules.read ref).script none past world

/-- Adopting a module that is in use. -/
theorem quietAt_adopt {ref : ModuleRef} (used : ref.address < world.modules.size) :
    QuietAt host past world (adopt host ref) fun _ => [.adopts host ref] := by
  intro settled _
  have given := settled.adopts used
  have current := (World.Calm.changeHost _ host (fun content => { content with current := some ref })
    fun _ => rfl).quietly given
  have adopted : Quietly host past [.adopts host ref] world _ := ⟨given, [], by simp, nofun⟩
  exact adopted.trans_nil current

/-- Making a module. -/
theorem quiet_newModule (module : Module) :
    Quiet host (newModule module) fun world => [.makes world.modules.next module.stream] :=
  fun _ _ settled _ => ⟨settled.addModule module, [], (List.append_nil _).symm, nofun⟩

/-- Leaving with a code is announced on standard error at most. -/
theorem quiet_exit (code : Value) : Quiet host (exit host code) fun _ => [] := by
  intro past world settled _
  have read : (readHost host).perform world = (.ok (world.hosts.read host), world) := rfl
  rw [exit, perform_bind, read]
  dsimp only
  cases (world.hosts.read host).reporting.exitNotice with
  | false => exact (World.Calm.refl world).quietly settled
  | true =>
    rw [settled.stream]
    have kept : Event.Kept past (.wrote .stderr (Engine.exitNotice code ++ [newline])) :=
      ⟨nofun, .inl rfl⟩
    exact settled.shows (List.forall_mem_singleton.mpr kept)

/-! ## Runs -/

end Op

section

variable {host : HostRef} {past : List Deed} {within : Body → World → List Deed}

/-- What an engine that prints to standard error says of an item. -/
theorem Engine.kept_announcement {engine : Engine} (stream : engine.stream = some .stderr)
    (verdict : Verdict) (event : Event) (member : event ∈ engine.announcement verdict) :
    event.Kept past := by
  cases verdict with
  | entered => cases member
  | diagnosed | unknownFunction | skipped =>
    rw [List.mem_singleton.mp member]
    trivial
  | exited code =>
    unfold announcement at member
    dsimp only at member
    split at member
    · rw [List.mem_singleton.mp member, stream]
      exact ⟨nofun, .inl rfl⟩
    · cases member

/-- An item that enters no function does nothing. -/
theorem Conduct.ofVisit_of_verdict {engine : Engine} {visit : Visit}
    (others : ∀ native, engine.verdictOn visit ≠ .entered native) :
    ofVisit within engine visit = [] := by
  unfold ofVisit
  split
  · next native entered => exact absurd entered (others native)
  · rfl

/-- A walk does quietly what the functions do that it enters. -/
theorem Engine.Walk.quietly {engine : Engine} {enter : Enter} {index : Nat} {program : Program}
    {tally : Tally} {world after : World} {visits : List Visit}
    {outcome : Except Failure RunResult} (stream : engine.stream = some .stderr)
    (natives : ∀ native, Op.Quiet host (enter native) (Conduct.ofNative within native))
    (walk : engine.Walk enter index program tally world visits outcome after)
    (settled : Settled host past world)
    (discreet : Discreet host past (visits.flatMap (Conduct.ofVisit within engine))) :
    Quietly host past (visits.flatMap (Conduct.ofVisit within engine)) world after := by
  induction walk generalizing past with
  | @finished _ _ world => exact (World.Calm.refl world).quietly settled
  | @exited index item _ _ world code reached =>
    have nothing : Conduct.ofVisit within engine ⟨index, item, world⟩ = [] :=
      Conduct.ofVisit_of_verdict fun native entered => nomatch reached.symm.trans entered
    rw [List.flatMap_singleton, nothing]
    exact settled.shows (kept_announcement stream _)
  | @failed index item _ _ world native failure after reached raised =>
    have does : Conduct.ofVisit within engine ⟨index, item, world⟩ =
        Conduct.ofNative within native world := by
      rw [Conduct.ofVisit, verdictOn, reached]
    rw [List.flatMap_singleton, does] at discreet ⊢
    have entered := natives native past world settled discreet
    rwa [raised] at entered
  | @entered index item _ _ world native between _ _ _ reached returned _ inductionHypothesis =>
    have does : Conduct.ofVisit within engine ⟨index, item, world⟩ =
        Conduct.ofNative within native world := by
      rw [Conduct.ofVisit, verdictOn, reached]
    rw [List.flatMap_cons, does] at discreet ⊢
    obtain ⟨early, late⟩ := discreet_append.mp discreet
    have entered := natives native past world settled early
    rw [returned] at entered
    exact entered.trans (inductionHypothesis entered.settled late)
  | @passed index item _ _ world verdict _ _ _ reached passes _ inductionHypothesis =>
    have nothing : Conduct.ofVisit within engine ⟨index, item, world⟩ = [] :=
      Conduct.ofVisit_of_verdict fun native entered =>
        Verdict.ne_entered_of_passes passes native (reached.symm.trans entered)
    rw [List.flatMap_cons, nothing, List.nil_append] at discreet ⊢
    have passed := settled.shows (kept_announcement stream verdict)
    exact passed.nil_trans (inductionHypothesis passed.settled_of_nil discreet)

/-- A run that prints to standard error does quietly what the functions do that it enters. -/
theorem Engine.quiet_run {engine : Engine} (stream : engine.stream = some .stderr)
    {run : Body → Op Unit}
    (natives : ∀ native, Op.Quiet host (Op.enterNative run native) (Conduct.ofNative within native))
    (program : Program) : Op.Quiet host (engine.run (Op.enterNative run) program)
      (Conduct.ofRun run within engine program) := by
  intro past world settled discreet
  have walked := (engine.walk (Op.enterNative run) 0 program {} world).quietly stream natives
    settled discreet
  rw [perform_run]
  rcases performed : (engine.runFrom (Op.enterNative run) 0 program {}).perform world with
    ⟨failure | result, after⟩ <;> rw [performed] at walked
  · exact walked
  · exact walked

end

namespace Op

section

variable {α : Type} {host : HostRef} {around : Surroundings} {run : Body → Op Unit}
  {within : Body → World → List Deed} (bodies : ∀ body, Quiet host (run body) (within body))

include bodies

theorem quiet_enterNative (native : Native) :
    Quiet host (enterNative run native) (Conduct.ofNative within native) := by
  obtain ⟨_, action⟩ := native
  cases action with
  | script body => exact bodies body
  | say line =>
    intro past world _ discreet
    exact discreet.1.elim
  | attachScript module => exact (quiet_attachScript module).before fun _ => .pure _

theorem quiet_enterCallback (callback : Option Body) :
    Quiet host (enterCallback run callback) (Conduct.ofCallback within callback) := by
  cases callback with
  | none => exact .of_calm (.throw _)
  | some body => exact bodies body

/-- Entering a function of a table, or missing it. -/
theorem quiet_invoke (functions : FunctionTable) (owner : Option Text) (name : Text) :
    Quiet host (invoke (enterNative run) functions owner name)
      (Conduct.ofCallee within (functions.function? name)) := by
  unfold invoke
  cases functions.function? name with
  | none => exact .of_calm ((calm_log _).bind fun _ => .pure _)
  | some native => exact (quiet_enterNative bodies native).before fun _ => .pure _

/-! ## Hosts -/

/-- The callback is entered only when there is a module to attach its source to. -/
theorem quiet_attachSource (source : Text) (body : Body) :
    Quiet host (attachSource host do run body; return source) fun world =>
      if (world.hosts.read host).current.isSome then within body world else [] := by
  intro past world
  have read : (readHost host).perform world = (.ok (world.hosts.read host), world) := rfl
  unfold QuietAt
  rw [attachSource, perform_bind, read]
  dsimp only
  cases (world.hosts.read host).current with
  | none => exact Quiet.of_calm (calm_log _) past world
  | some module =>
    refine Quiet.before (.before (bodies body) fun _ => .pure _) (fun source => ?_) past world
    exact calm_sourced host source

/-- Calling a function of an export, or missing it. -/
theorem quiet_callDirect (module function : Text) :
    Quiet host (callDirect (enterNative run) host module function)
      (Conduct.behind (importExport host module) fun found world =>
        Conduct.ofCallee within
          (found.bind fun ref => (world.snapshots.read ref).functions.function? function)
          world) := by
  refine .behind (.still fun _ => rfl) fun found => ?_
  cases found with
  | none => exact .of_calm (.pure _)
  | some ref =>
    intro past world
    unfold QuietAt
    dsimp only [Option.bind_some, FunctionTable.function?]
    rw [perform_bind, perform_readSnapshot]
    dsimp only
    cases (world.snapshots.read ref).functions.get? function with
    | none => exact Quiet.of_calm (.pure _) past world
    | some found =>
      cases found with
      | none => exact Quiet.of_calm (.throw _) past world
      | some native =>
        exact Quiet.before (quiet_enterNative bodies native) (fun _ => .pure _) past world

/-- A run of the host does quietly what the functions do that it enters. -/
theorem quiet_runProgram (program : Program) :
    Quiet host (runProgram (enterNative run) host program)
      (Conduct.behind (engine host) fun engine => Conduct.ofRun run within engine program) := by
  intro past world settled
  have read : (engine host).Calm := .still fun _ => rfl
  have runs : ∀ state between, (engine host).perform world = (.ok state, between) →
      QuietAt host (past ++ []) between (state.run (enterNative run) program)
        (Conduct.ofRun run within state program) := by
    rintro state between ⟨⟩
    exact Engine.quiet_run settled.stream (quiet_enterNative bodies) program _ _
  exact QuietAt.bind (Quiet.of_calm read past world) runs settled

/-! ## Plugins -/

theorem quiet_importPlugin (name : Text) (parent : Option Text) :
    Quiet host (importPlugin around.plugins run name parent)
      (Conduct.ofPlugin around within name parent) := by
  have imported : ∀ (plugin : Plugin) {ending : Op Unit}, ending.Calm →
      Quiet host (do
        setImport name .loading
        tryCatch (run plugin.onImport) fun failure => do
          setImport name .failed
          throw failure
        setImport name .loaded
        ending) (Conduct.behind (setImport name .loading) fun _ => within plugin.onImport) := by
    intro plugin ending calm
    refine .behind (calm_setImport _ _) fun _ => .before ?_ fun _ => ?_
    · exact .tryCatch (bodies _) fun failure => (calm_setImport _ _).bind fun _ => .throw _
    · exact (calm_setImport _ _).bind fun _ => calm
  unfold importPlugin Conduct.ofPlugin
  cases parent with
  | none =>
    cases around.plugins.find? name with
    | none => exact .of_calm (.throw _)
    | some plugin => exact imported plugin (.pure _)
  | some parent =>
    cases package : ((around.plugins.find? parent).map Plugin.package).getD false with
    | false =>
      simp only [package, Option.any_some, Bool.not_false, if_true]
      exact .of_calm (.still fun _ => rfl)
    | true =>
      simp only [package, Option.any_some, Bool.not_true, Bool.false_eq_true, if_false, if_true]
      cases around.plugins.find? name with
      | none => exact .of_calm (.throw _)
      | some plugin => exact imported plugin (calm_bindBelow parent name)

theorem quiet_importAncestry (names : List Text) :
    Quiet host (importAncestry around.plugins run names)
      (Conduct.ofAncestry around run within names) := by
  induction names with
  | nil => exact .of_calm (.pure _)
  | cons name parents inductionHypothesis =>
    refine .behind (looks_isImported name).calm fun imported => ?_
    cases imported with
    | true => exact .of_calm (.pure _)
    | false =>
      refine .bind inductionHypothesis fun _ => .behind (looks_isImported name).calm fun again => ?_
      cases again with
      | true => exact .of_calm (.pure _)
      | false => exact quiet_importPlugin bodies name parents.head?

theorem quiet_importName (name : Text) :
    Quiet host (importName around.plugins run name) (Conduct.ofImport around run within name) := by
  unfold importName Conduct.ofImport
  cases name with
  | nil => exact .of_calm (.throw _)
  | cons first rest =>
    dsimp only
    split
    · exact .of_calm (.throw _)
    · exact quiet_importAncestry bodies _

omit bodies in
/-- The bundled greeter makes its module and builds it. -/
theorem quiet_registerGreeter :
    Quiet host (registerGreeter host) fun world =>
      [.makes world.modules.next none, .adopts host world.modules.next] := by
  intro past world
  have defines : ∀ greeter, (do
      define greeter (text "hello") (some (.say (text "Hello, world!")))
      define greeter (text "banner") (some (.attachScript greeter)) : Op Unit).Calm :=
    fun _ => (calm_define _ _ _).bind fun _ => calm_define _ _ _
  have finishes : (do
      attachSource host (return greeterSource)
      discard <| exportCurrent host (return ()) (text "Greeter") : Op Unit).Calm := by
    refine .bind (.bind (.still fun _ => rfl) fun state => ?_) fun _ => ?_
    · split
      · exact calm_log _
      · exact calm_sourced host greeterSource
    · exact (calm_exported host _).bind fun _ => .pure _
  have builds : ∀ greeter between,
      (newModule { name := some (text "greeter") }).perform world = (.ok greeter, between) →
        QuietAt host (past ++ [.makes world.modules.next none]) between (do
          build host greeter do
            define greeter (text "hello") (some (.say (text "Hello, world!")))
            define greeter (text "banner") (some (.attachScript greeter))
          attachSource host (return greeterSource)
          discard <| exportCurrent host (return ()) (text "Greeter"))
          fun _ => [.adopts host greeter] := by
    rintro greeter between ⟨⟩
    exact .before (.before (quietAt_adopt (Nat.lt_succ_self _)) fun _ => defines _)
      fun _ => finishes
  exact QuietAt.bind (quiet_newModule _ past world) builds

theorem quiet_register (plugin : Text) (offered : Registration) :
    Quiet host (register run host plugin offered)
      (Conduct.ofRegistration within host offered) := by
  cases offered with
  | absent | notCallable => exact .of_calm (.throw _)
  | greeter => exact quiet_registerGreeter
  | script body =>
    have labelled : Quiet host (relabel fun labels =>
        { labels with hosts := labels.hosts.put registeringHost host }) fun _ => [] :=
      fun _ _ settled _ => .idle (settled.labelHost _) rfl
    exact labelled.bind fun _ => bodies body

theorem quiet_loadPlugin (name : Text) :
    Quiet host (loadPlugin around.plugins run host name)
      (Conduct.ofLoad around run within host name) := by
  have deeds : Conduct.ofLoad around run within host name = fun world =>
      Conduct.ofImport around run within name world ++
        Conduct.behind (tryCatch (importName around.plugins run name) fun failure =>
          if failure.isImportFailure then
            throw (.plugin ⟨name, text "cannot import (" ++ failure.message ++ text ")"⟩)
          else throw failure)
          (fun _ => Conduct.behind (registration around.plugins name)
            (Conduct.ofRegistration within host)) world := by
    funext world
    rw [Conduct.ofLoad, Conduct.behind_tryCatch]
    intro failure world
    split <;> exact ⟨_, _, rfl⟩
  rw [deeds]
  refine .bind (.tryCatch (quiet_importName bodies name) fun failure => ?_) fun _ => ?_
  · split <;> exact .throw _
  · refine .behind (looks_registration _ _).calm fun offered => ?_
    exact .before (quiet_register bodies name offered) fun _ => calm_log _

/-! ## Steps and bodies -/

theorem quiet_performStep (step : Step) :
    Quiet host (performStep around run step) (Conduct.ofStep around run within step) := by
  cases step with
  | print => exact fun _ _ _ discreet => discreet.1.elim
  | newHost => exact fun _ _ _ discreet => discreet.1.elim
  | execute => exact fun _ _ _ discreet => discreet.1.elim
  | note label =>
    exact .of_calm fun world =>
      { World.Calm.refl world with events := ⟨[.traced label .nothing], rfl, by simp⟩ }
  | raise => exact .of_calm (.throw _)
  | attempt body =>
    exact .tryCatch (.before (bodies body) fun _ => .pure _) fun _ => .pure _
  | newModule label name script echo stream =>
    intro past world settled discreet
    have made := quiet_newModule { name, script, echo, stream } past world settled discreet
    have used : world.modules.next.address < world.modules.size + 1 := Nat.lt_succ_self _
    exact made.trans_nil (.idle (made.settled.labelModule used label) rfl)
  | define module function body | decorate module function body =>
    exact .of_calm ((calm_defineAt _ _ _).bind fun _ => .pure _)
  | setScript module | setEcho module =>
    refine .of_calm ((looks_moduleAt module).calm.bind fun _ => ?_)
    exact .bind (calm_updateModule _ (by exact fun _ => rfl)) fun _ => .pure _
  | attach module code stream =>
    refine .behind (looks_moduleAt module).calm fun ref => ?_
    exact .before (quiet_attach ref code stream) fun _ => .pure _
  | attachScript module =>
    refine .behind (looks_moduleAt module).calm fun ref => ?_
    exact .before (quiet_attachScript ref) fun _ => .pure _
  | invoke module function =>
    refine .behind (looks_moduleAt module).calm fun ref => .before ?_ fun _ => .pure _
    exact fun past world => quiet_invoke bodies _ _ function past world
  | compareModules first second =>
    refine .of_calm ((looks_moduleAt first).calm.bind fun _ =>
      .bind (.still fun _ => rfl) fun _ => ?_)
    exact (looks_moduleAt second).calm.bind fun _ => .still fun _ => rfl
  | takeSnapshot module label =>
    refine .of_calm ((looks_moduleAt module).calm.bind fun _ => ?_)
    exact (calm_takeSnapshot _).bind fun _ => calm_viewLabelled _ _
  | newSnapshot label =>
    exact .of_calm ((calm_newSnapshot _).bind fun _ => calm_viewLabelled _ _)
  | invokeSnapshot snapshot function =>
    refine .behind (looks_snapshotAt snapshot).calm fun ref => .before ?_ fun _ => .pure _
    exact fun past world => quiet_invoke bodies _ _ function past world
  | hasFunction snapshot | viewSnapshot snapshot =>
    exact .of_calm ((looks_snapshotAt snapshot).calm.bind fun _ => .still fun _ => rfl)
  | compareSnapshots first second =>
    refine .of_calm ((looks_snapshotAt first).calm.bind fun _ =>
      .bind (.still fun _ => rfl) fun _ => ?_)
    exact (looks_snapshotAt second).calm.bind fun _ => .still fun _ => rfl
  | sameSnapshot first second =>
    refine .of_calm ((looks_snapshotAt first).calm.bind fun _ => ?_)
    exact (looks_snapshotAt second).calm.bind fun _ => .pure _
  | assignField snapshot | assignFunction snapshot =>
    refine .of_calm (.bind ((looks_snapshotAt snapshot).calm.bind fun _ => .pure _) fun _ => ?_)
    exact .throw _
  | newExports label =>
    exact .of_calm fun world => { World.Calm.refl world with }
  | labelExports host label =>
    refine .of_calm ((looks_hostAt host).calm.bind fun _ => .bind (.still fun _ => rfl) fun _ => ?_)
    exact .bind (calm_relabel (fun _ => rfl) fun _ => rfl) fun _ => .pure _
  | sameExports host exports =>
    refine .of_calm ((looks_hostAt host).calm.bind fun _ => .bind (.still fun _ => rfl) fun _ => ?_)
    exact (looks_exportsAt _).calm.bind fun _ => .pure _
  | publish exports =>
    exact .of_calm ((looks_exportsAt exports).calm.bind fun _ => calm_publishAt _ _ _)
  | lookup exports =>
    refine .of_calm ((looks_exportsAt exports).calm.bind fun _ => ?_)
    exact .bind (.still fun _ => rfl) fun _ => calm_viewFound _ _
  | listNames exports | countNames exports | containsName exports | listExports exports =>
    exact .of_calm ((looks_exportsAt exports).calm.bind fun _ => .still fun _ => rfl)
  | setReporting host reporting =>
    refine .of_calm ((looks_hostAt host).calm.bind fun _ => ?_)
    exact (calm_setReporting _ reporting).bind fun _ => .pure _
  | adopt label module =>
    refine .hostAt label (.moduleAt module fun ref past world used => ?_)
    exact .before (quietAt_adopt used) fun _ => .pure _
  | build label module body =>
    refine .hostAt label (.moduleAt module fun ref past world used => ?_)
    have builds := QuietAt.bind (quietAt_adopt used) fun _ between _ =>
      quiet_enterCallback bodies body (past ++ [.adopts host ref]) between
    exact builds.before fun _ => .pure _
  | attachSource label source body =>
    exact .hostAt label (.before (quiet_attachSource bodies source body) fun _ => .pure _)
  | exportCurrent label body name mark =>
    refine .hostAt label (.before ?_ fun _ => calm_viewFound _ _)
    exact .before (quiet_enterCallback bodies body) fun _ => calm_exported host name
  | importExport host name label =>
    refine .of_calm ((looks_hostAt host).calm.bind fun _ => ?_)
    exact .bind (.still fun _ => rfl) fun _ => calm_viewFound _ _
  | call label module function =>
    exact .hostAt label (.before (quiet_callDirect bodies module function) fun _ => .pure _)
  | exit label code =>
    have leaves : Quiet host (do exit (← hostAt label) code; return StepResult.nothing)
        (Conduct.behind (hostAt label) fun _ _ => []) :=
      .hostAt label (.before (quiet_exit code) fun _ => .pure _)
    rwa [Conduct.behind_nothing] at leaves
  | run label source modelled =>
    refine .hostAt label (.behind (looks_programOf _ _ _).calm fun program => ?_)
    exact .before (quiet_runProgram bodies program) fun _ => .pure _
  | loadPlugin label name =>
    exact .hostAt label (.before (quiet_loadPlugin bodies name) fun _ => .pure _)
  | current host =>
    refine .of_calm ((looks_hostAt host).calm.bind fun _ => .still fun _ => rfl)

theorem quiet_performAll (body : Body) :
    Quiet host (performAll around run body) (Conduct.ofSteps around run within body) := by
  induction body with
  | nil => exact .of_calm (.pure _)
  | cons entry rest inductionHypothesis =>
    obtain ⟨tag, step⟩ := entry
    refine .bind (quiet_performStep bodies step) fun result => ?_
    cases tag with
    | none => simpa [Op.tracedAs] using inductionHypothesis
    | some label =>
      have traces : (emit (.traced label result)).Calm := fun world =>
        { World.Calm.refl world with events := ⟨[.traced label result], rfl, by simp⟩ }
      exact .behind traces fun _ => inductionHypothesis

end

/-- Every body does its deeds quietly. -/
theorem quiet_runBody (host : HostRef) (around : Surroundings) (depth : Nat) (body : Body) :
    Quiet host (runBody around depth body) (Conduct.ofBody around depth body) := by
  induction depth generalizing body with
  | zero => exact .of_calm (.throw _)
  | succ depth inductionHypothesis => exact quiet_performAll inductionHypothesis body

end Op

end Switchboard
