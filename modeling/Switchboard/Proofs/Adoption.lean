import Switchboard.Proofs.Persistence

/-!
# Adoption

A module is given a stream once: when it is made, or when it is first adopted by a host that has
one. A `Move` is something that happens to a world: a host adopts a module, or a steady change is
made. Every session unfolds into moves, however deeply it nests and whether its steps return or
fail (`Session.exists_moves`), so that what one move keeps is kept between any two moments of a
session. Behind any moves a module has the stream that it had before, or else that of the first
host with a stream that has adopted it since (`World.stream_moveAll`).
-/

namespace Switchboard

/-! ## Moves -/

/-- Something that happens to a world: a host adopts a module, or a steady change is made. -/
inductive Move where
  | adopted (host : HostRef) (module : ModuleRef)
  | changed (change : Change) (steady : change.Steady)

namespace World

/-- The changes that a move consists of. A module that is adopted takes over the stream of the
host unless it has one. -/
def changesOf (world : World) : Move → List Change
  | .adopted host module =>
      [.moduleChanged module fun content =>
          { content with stream := content.stream <|> (world.hosts.read host).stream },
        .hostChanged host fun content => { content with current := some module }]
  | .changed change _ => [change]

/-- The world after a move. -/
def move (world : World) (taken : Move) : World := world.applyAll (world.changesOf taken)

/-- The world after a history of moves. -/
def moveAll (world : World) (history : List Move) : World := history.foldl move world

/-- The changes that a history of moves consists of. -/
def expand (world : World) : List Move → List Change
  | [] => []
  | taken :: rest => world.changesOf taken ++ (world.move taken).expand rest

@[simp] theorem moveAll_cons (world : World) (taken : Move) (history : List Move) :
    world.moveAll (taken :: history) = (world.move taken).moveAll history := rfl

@[simp] theorem moveAll_append (world : World) (early late : List Move) :
    world.moveAll (early ++ late) = (world.moveAll early).moveAll late :=
  List.foldl_append

theorem applyAll_expand (world : World) (history : List Move) :
    world.applyAll (world.expand history) = world.moveAll history := by
  induction history generalizing world with
  | nil => rfl
  | cons taken rest inductionHypothesis =>
    rw [expand, applyAll_append, moveAll_cons]
    exact inductionHypothesis (world.move taken)

theorem expand_append (world : World) (early late : List Move) :
    world.expand (early ++ late) = world.expand early ++ (world.moveAll early).expand late := by
  induction early generalizing world with
  | nil => rfl
  | cons taken rest inductionHypothesis =>
    rw [List.cons_append, expand, expand, inductionHypothesis, List.append_assoc, moveAll_cons]

/-! ## What is settled stays settled -/

theorem persists_move (world : World) (taken : Move) : world.Persists (world.move taken) := by
  cases taken with
  | adopted host module => exact Op.persistent_groundwork.adopt host module world
  | changed change steady => exact world.persists_apply steady

theorem persists_moveAll (world : World) (history : List Move) :
    world.Persists (world.moveAll history) := by
  induction history generalizing world with
  | nil => exact .refl world
  | cons taken rest inductionHypothesis =>
    exact (world.persists_move taken).trans (inductionHypothesis (world.move taken))

/-! ## Who gives a module its stream -/

/-- The stream that a move has to offer to a module. -/
def offered? (world : World) (module : ModuleRef) : Move → Option Stream
  | .adopted host adoptee => if adoptee = module then (world.hosts.read host).stream else none
  | .changed _ _ => none

/-- The stream of the first host with a stream that adopts a module in a history. -/
def firstStream? (world : World) (module : ModuleRef) : List Move → Option Stream
  | [] => none
  | taken :: rest =>
      world.offered? module taken <|> (world.move taken).firstStream? module rest

/-- A steady change leaves the stream of a module alone, unless it makes the module. -/
theorem stream_apply (world : World) {change : Change} (steady : change.Steady)
    (module : ModuleRef) :
    ((world.apply change).modules.read module).stream = (world.modules.read module).stream ∨
      ∃ content, change = .moduleMade content ∧ module = world.modules.next ∧
        ((world.apply change).modules.read module).stream = content.stream := by
  cases change with
  | moduleMade content =>
    by_cases new : module = world.modules.next
    · refine .inr ⟨content, rfl, new, ?_⟩
      rw [new]
      exact congrArg Module.stream (Store.read_allocate_next _ _)
    · exact .inl (congrArg Module.stream (Store.read_allocate_other _ _ new))
  | moduleChanged ref change =>
    apply Or.inl
    by_cases same : module = ref
    · subst same
      exact (congrArg Module.stream (Store.read_write_same _ _ _)).trans (steady _)
    · exact congrArg Module.stream (Store.read_write_other _ _ same)
  | seen | unseen | snapshotMade | snapshotTaken | exportsMade | published | hostMade
  | hostChanged | nativeMade | relabelled | importSet => exact .inl rfl

/-- An adopted module keeps its stream or takes over that of the host, and no other module is
touched. -/
theorem stream_adopted (world : World) (host : HostRef) (adoptee module : ModuleRef) :
    ((world.move (.adopted host adoptee)).modules.read module).stream =
      ((world.modules.read module).stream <|> world.offered? module (.adopted host adoptee)) := by
  change ((world.modules.write adoptee _).read module).stream = _
  by_cases same : adoptee = module
  · subst same
    rw [Store.read_write_same, offered?, if_pos rfl]
  · have other : module ≠ adoptee := fun equal => same equal.symm
    rw [Store.read_write_other _ _ other, offered?, if_neg same]
    cases (world.modules.read module).stream <;> rfl

/-- After a move a module in use has the stream that it had, or else what the move offers. -/
theorem stream_move (world : World) (taken : Move) {module : ModuleRef}
    (used : module.address < world.modules.size) :
    ((world.move taken).modules.read module).stream =
      ((world.modules.read module).stream <|> world.offered? module taken) := by
  cases taken with
  | adopted host adoptee => exact world.stream_adopted host adoptee module
  | changed change steady =>
    have kept : ((world.apply change).modules.read module).stream =
        (world.modules.read module).stream := by
      rcases world.stream_apply steady module with same | ⟨content, -, rfl, -⟩
      · exact same
      · exact absurd used (Nat.lt_irrefl _)
    rw [offered?]
    refine Eq.trans kept ?_
    cases (world.modules.read module).stream <;> rfl

/-- Behind a history a module in use has the stream that it had, or else that of the first host
with a stream that adopted it. -/
theorem stream_moveAll (world : World) (history : List Move) {module : ModuleRef}
    (used : module.address < world.modules.size) :
    ((world.moveAll history).modules.read module).stream =
      ((world.modules.read module).stream <|> world.firstStream? module history) := by
  induction history generalizing world with
  | nil =>
    change (world.modules.read module).stream = ((world.modules.read module).stream <|> none)
    cases (world.modules.read module).stream <;> rfl
  | cons taken rest inductionHypothesis =>
    have stillUsed := Nat.lt_of_lt_of_le used (world.persists_move taken).modules
    rw [moveAll_cons, inductionHypothesis (world.move taken) stillUsed, world.stream_move taken used,
      firstStream?]
    cases (world.modules.read module).stream <;> rfl

/-- The first host with a stream stays the first one. -/
theorem firstStream?_append (world : World) (module : ModuleRef) (early late : List Move) :
    world.firstStream? module (early ++ late) =
      (world.firstStream? module early <|> (world.moveAll early).firstStream? module late) := by
  induction early generalizing world with
  | nil => rfl
  | cons taken rest inductionHypothesis =>
    rw [List.cons_append, firstStream?, firstStream?, inductionHypothesis, moveAll_cons]
    cases world.offered? module taken <;> rfl

/-- A module without a stream gets one by being made with it or from a host that adopts it. -/
theorem stream_given {world : World} {taken : Move} {module : ModuleRef} {stream : Stream}
    (before : (world.modules.read module).stream = none)
    (after : ((world.move taken).modules.read module).stream = some stream) :
    (∃ content steady, taken = .changed (.moduleMade content) steady ∧
      module = world.modules.next ∧ content.stream = some stream) ∨
    ∃ host, taken = .adopted host module ∧ (world.hosts.read host).stream = some stream := by
  cases taken with
  | adopted host adoptee =>
    rw [stream_adopted, before, offered?] at after
    by_cases same : adoptee = module
    · subst same
      rw [if_pos rfl] at after
      exact .inr ⟨host, rfl, after⟩
    · rw [if_neg same] at after
      cases after
  | changed change steady =>
    change ((world.apply change).modules.read module).stream = some stream at after
    rcases world.stream_apply steady module with same | ⟨content, rfl, new, made⟩
    · rw [same, before] at after
      cases after
    · exact .inl ⟨content, steady, rfl, new, made.symm.trans after⟩

/-! ## Where attached text goes -/

/-- Text that is attached to a module without naming a stream goes to the given one: source with an
argument to print prints it there if the module echoes, and nothing else happens. -/
def Prints (world : World) (module : ModuleRef) (stream : Stream) : Prop :=
  ∀ code, (Op.attach module code none).perform world =
    match Println.argument? code with
    | none => (.ok none, world)
    | some argument =>
        (.ok (some argument),
          if (world.modules.read module).echo then
            world.record [.wrote stream (argument ++ [newline])]
          else world)

/-- Attached text goes to the stream of the module, or else to standard output. -/
theorem prints (world : World) (module : ModuleRef) :
    world.Prints module ((world.modules.read module).stream.getD .stdout) := by
  intro code
  have read : (Op.readModule module).perform world = (.ok (world.modules.read module), world) := rfl
  rw [Op.attach, Op.perform_bind, read]
  dsimp only
  cases Println.argument? code with
  | none => rfl
  | some argument => cases (world.modules.read module).echo <;> rfl

/-- A module that was made without a stream has that of the first host with a stream that
adopted it. -/
theorem stream_made (world : World) {content : Module} (unstreamed : content.stream = none)
    {made : World} (making : made = world.move (.changed (.moduleMade content) trivial))
    (history : List Move) :
    ((made.moveAll history).modules.read world.modules.next).stream =
      made.firstStream? world.modules.next history := by
  subst making
  have used : world.modules.next.address < world.modules.size + 1 := Nat.lt_succ_self _
  have new : ((world.move (.changed (.moduleMade content) trivial)).modules.read
      world.modules.next).stream = none :=
    (congrArg Module.stream (Store.read_allocate_next _ _)).trans unstreamed
  rw [stream_moveAll _ history used, new]
  rfl

end World

/-! ## Sessions as moves -/

namespace Op

theorem unfolds_adopt (host : HostRef) (module : ModuleRef) (world : World) :
    (adopt host module).Unfolds world (world.changesOf (.adopted host module)) := by
  have given : (make (.moduleChanged module fun content =>
      { content with stream := content.stream <|> (world.hosts.read host).stream })).Unfolds
        world _ := .make
  have selected : ∀ moment, (make (.hostChanged host fun content =>
      { content with current := some module })).Unfolds moment _ := fun _ => .make
  exact .look (.bind given rfl (selected _))

/-- An operation that unfolds into moves leaves the world that they lead to. -/
theorem Unfolds.arrives {α : Type} {operation : Op α} {world between : World}
    {outcome : Except Failure α} {history : List Move}
    (unfolds : operation.Unfolds world (world.expand history))
    (performed : operation.perform world = (outcome, between)) :
    between = world.moveAll history := by
  have left := unfolds.perform_eq
  rwa [performed, World.applyAll_expand] at left

/-- Unfolding into moves is founded on adoption and steady changes. -/
theorem moves_groundwork :
    Groundwork fun _ operation =>
      ∀ world : World, ∃ history, operation.Unfolds world (world.expand history) where
  pure _ _ := ⟨[], .pure⟩
  throw _ _ := ⟨[], .throw⟩
  bind {_ _ operation next} first second world := by
    obtain ⟨early, unfolds⟩ := first world
    rcases performed : operation.perform world with ⟨failure | value, between⟩
    · exact ⟨early, .failed unfolds performed⟩
    · obtain rfl := unfolds.arrives performed
      obtain ⟨late, continues⟩ := second value (world.moveAll early)
      refine ⟨early ++ late, ?_⟩
      rw [World.expand_append]
      exact .bind unfolds performed continues
  tryCatch {_ operation _} body handles world := by
    obtain ⟨early, unfolds⟩ := body world
    rcases performed : operation.perform world with ⟨failure | value, between⟩
    · obtain rfl := unfolds.arrives performed
      obtain ⟨late, handled⟩ := handles failure (world.moveAll early)
      refine ⟨early ++ late, ?_⟩
      rw [World.expand_append]
      exact .caught unfolds performed handled
    · exact ⟨early, .uncaught unfolds performed⟩
  look continues _ world := by
    obtain ⟨history, unfolds⟩ := continues world world
    exact ⟨history, .look unfolds⟩
  make change _ steady _ := ⟨[.changed change steady], .make⟩
  adopt host module world := ⟨[.adopted host module], unfolds_adopt host module world⟩

end Op

theorem Session.exists_moves (around : Surroundings) (steps : List Step) (world : World) :
    ∃ history, Session.Unfolds around steps world (world.expand history) := by
  have discipline := Op.moves_groundwork.discipline
  induction steps generalizing world with
  | nil => exact ⟨[], .nil⟩
  | cons step rest inductionHypothesis =>
    have bodies := discipline.runBody around Op.maxDepth
    obtain ⟨early, first⟩ := discipline.performStep bodies around step (world.withTrace [])
    obtain ⟨late, second⟩ := inductionHypothesis (Session.playStep around step world).2
    have arrived : (Session.playStep around step world).2 = (world.withTrace []).moveAll early :=
      first.arrives rfl
    refine ⟨.changed .unseen trivial :: (early ++ late), ?_⟩
    have expanded : world.expand (.changed .unseen trivial :: (early ++ late)) =
        .unseen :: (world.withTrace []).expand early ++
          (Session.playStep around step world).2.expand late := by
      rw [arrived, List.cons_append, ← World.expand_append]
      rfl
    rw [expanded]
    exact .cons first second

/-! ## Adoption writes once -/

/-- Every session is a history of moves, down to what happens inside callbacks and functions and on
the way to a failure, so that any two moments of it are a world and the world some moves later.

* A host that works on a module never ceases to, so that a callback that returns source always
  leaves it a module to attach the source to.
* The stream of a module never changes once there is one.
* A module without a stream gets one by being made with it, or when a host with a stream adopts it:
  then it gets the stream of that host, before the callback of the host is entered and whatever
  comes of the callback.
* Text attached to a module that was made without a stream goes to standard output until a host
  with a stream adopts the module, and to the stream of the first such host ever after. -/
theorem adoption_writes_once :
    (∀ around steps world, ∃ history,
      Session.Unfolds around steps world (world.expand history) ∧
      (Session.playFrom around steps world).2 = world.moveAll history) ∧
    (∀ (moment : World) (since : List Move) (host : HostRef),
      host.address < moment.hosts.size → (moment.hosts.read host).current ≠ none →
        ((moment.moveAll since).hosts.read host).current ≠ none) ∧
    (∀ (moment : World) (host : HostRef) (around : Surroundings) (depth : Nat) (body : Body),
      host.address < moment.hosts.size → (moment.hosts.read host).current ≠ none →
        ∃ module, (((Op.runBody around depth body).perform moment).2.hosts.read host).current =
          some module) ∧
    (∀ (moment : World) (since : List Move) (module : ModuleRef) (stream : Stream),
      module.address < moment.modules.size →
      (moment.modules.read module).stream = some stream →
        ((moment.moveAll since).modules.read module).stream = some stream) ∧
    (∀ (moment : World) (taken : Move) (module : ModuleRef) (stream : Stream),
      (moment.modules.read module).stream = none →
      ((moment.move taken).modules.read module).stream = some stream →
        (∃ content steady, taken = .changed (.moduleMade content) steady ∧
          module = moment.modules.next ∧ content.stream = some stream) ∨
        ∃ host, taken = .adopted host module ∧ (moment.hosts.read host).stream = some stream) ∧
    (∀ (moment : World) (host : HostRef) (module : ModuleRef) (callback : Op Unit),
      let adopted := moment.move (.adopted host module)
      (Op.adopt host module).perform moment = (.ok (), adopted) ∧
      (Op.build host module callback).perform moment = callback.perform adopted ∧
      ((moment.modules.read module).stream = none →
        (adopted.modules.read module).stream = (moment.hosts.read host).stream)) ∧
    ∀ (moment : World) (content : Module), content.stream = none →
      let module := moment.modules.next
      let made := moment.move (.changed (.moduleMade content) trivial)
      (Op.newModule content).perform moment = (.ok module, made) ∧
      ∀ since,
        (made.firstStream? module since = none → (made.moveAll since).Prints module .stdout) ∧
        ∀ stream, made.firstStream? module since = some stream →
          ∀ later, (made.moveAll (since ++ later)).Prints module stream := by
  refine ⟨?_, ?_, ?_, ?_, ?_, ?_, ?_⟩
  · intro around steps world
    obtain ⟨history, unfolds⟩ := Session.exists_moves around steps world
    exact ⟨history, unfolds, unfolds.playFrom_eq.trans (world.applyAll_expand history)⟩
  · intro moment since host used working
    have persists := moment.persists_moveAll since
    exact Option.isSome_iff_ne_none.mp
      (persists.current used (Option.isSome_iff_ne_none.mpr working))
  · intro moment host around depth body used working
    exact Op.current_after_runBody around depth body used working
  · intro moment since module stream used given
    exact (moment.persists_moveAll since).destination used given
  · intro moment taken module stream before after
    exact World.stream_given before after
  · intro moment host module callback adopted
    refine ⟨rfl, rfl, ?_⟩
    intro before
    have given : (adopted.modules.read module).stream = _ :=
      moment.stream_adopted host module module
    rw [given, before, World.offered?, if_pos rfl]
    rfl
  · intro moment content unstreamed module made
    refine ⟨rfl, fun since => ⟨?_, ?_⟩⟩
    · intro unadopted
      have printed := (made.moveAll since).prints module
      rwa [moment.stream_made unstreamed rfl, unadopted] at printed
    · intro stream first later
      have printed := (made.moveAll (since ++ later)).prints module
      rwa [moment.stream_made unstreamed rfl, World.firstStream?_append, first] at printed

/-- A module without a stream is adopted by a host without one, then built by a host with one whose
callback fails, then adopted by a host with another. -/
theorem adoption_writes_once_three_hosts :
    let first : Stream := .named (text "first")
    let second : Stream := .named (text "second")
    let moment : World :=
      { hosts := ((Store.empty.allocate {}).allocate { stream := some first }).allocate
          { stream := some second } }
    let made := ((Op.newModule {}).perform moment).2
    let adopted := ((Op.adopt ⟨0⟩ ⟨0⟩).perform made).2
    let built := (Op.build ⟨1⟩ ⟨0⟩ (throw .notCallable)).perform adopted
    let final := ((Op.adopt ⟨2⟩ ⟨0⟩).perform built.2).2
    adopted.Prints ⟨0⟩ .stdout ∧ built.1 = .error .notCallable ∧
      (built.2.modules.read ⟨0⟩).stream = some first ∧ built.2.Prints ⟨0⟩ first ∧
      (final.modules.read ⟨0⟩).stream = some first ∧ final.Prints ⟨0⟩ first ∧
      (final.hosts.read ⟨0⟩).current ≠ none := by
  intro first second moment made adopted built final
  obtain ⟨-, current, -, keeps, -, adoption, printing⟩ := adoption_writes_once
  obtain ⟨-, goesTo⟩ := printing moment {} rfl
  let early : List Move := [.adopted ⟨0⟩ ⟨0⟩]
  let late : List Move := [.adopted ⟨2⟩ ⟨0⟩]
  have beforehand := (goesTo early).1 rfl
  have afterwards := (goesTo (early ++ [.adopted ⟨1⟩ ⟨0⟩])).2 first rfl
  have given := (adoption adopted ⟨1⟩ ⟨0⟩ (throw .notCallable)).2.2 rfl
  have kept := keeps built.2 late ⟨0⟩ first (by decide) given
  have working := current adopted (.adopted ⟨1⟩ ⟨0⟩ :: late) ⟨0⟩ (by decide) nofun
  exact ⟨beforehand, rfl, given, afterwards [], kept, afterwards late, working⟩

end Switchboard
