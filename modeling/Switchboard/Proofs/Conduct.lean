import Switchboard.Proofs.Provenance

/-!
# What host code does

A `Deed` is something that host code does and that bears on where text is printed: printing,
making a host or an engine of its own, making a module, adopting one, and attaching source to
one. `Conduct` lists the deeds of every activity in the order in which they are done, along the
nesting of bodies, functions, runs and imports. `Discreet` says which deeds keep standard output
free: behind the deeds before them, host code neither prints nor goes beyond the host that it was
given, and attaches source only to modules that this host has adopted.
-/

namespace Switchboard

/-- Something that host code does. -/
inductive Deed where
  | prints
  | strays
  | makes (module : ModuleRef) (stream : Option Stream)
  | adopts (host : HostRef) (module : ModuleRef)
  | attaches (module : ModuleRef) (stream : Option Stream)
  deriving DecidableEq

/-! ## The deeds of activities -/

namespace Conduct

/-- The deeds behind an operation, if it returns. -/
def behind {α : Type} (operation : Op α) (deeds : α → World → List Deed) (world : World) :
    List Deed :=
  match operation.perform world with
  | (.ok value, between) => deeds value between
  | (.error _, _) => []

theorem behind_of_ok {α : Type} {operation : Op α} {world between : World} {value : α}
    (returned : operation.perform world = (.ok value, between))
    (deeds : α → World → List Deed) : behind operation deeds world = deeds value between := by
  rw [behind, returned]

theorem behind_of_error {α : Type} {operation : Op α} {world between : World} {failure : Failure}
    (failed : operation.perform world = (.error failure, between))
    (deeds : α → World → List Deed) : behind operation deeds world = [] := by
  rw [behind, failed]

theorem behind_nothing {α : Type} (operation : Op α) :
    behind operation (fun _ _ => []) = fun _ => [] := by
  funext world
  unfold behind
  split <;> rfl

/-- Behind a handler that only fails is what is behind the operation itself. -/
theorem behind_tryCatch {α : Type} {operation : Op α} {handler : Failure → Op α}
    (fails : ∀ failure world, ∃ other after, (handler failure).perform world = (.error other, after))
    (deeds : α → World → List Deed) (world : World) :
    behind (tryCatch operation handler) deeds world = behind operation deeds world := by
  rcases performed : operation.perform world with ⟨failure | value, between⟩
  · obtain ⟨other, after, handled⟩ := fails failure between
    have failed : (tryCatch operation handler).perform world = (.error other, after) := by
      rw [Op.perform_tryCatch, performed]
      exact handled
    rw [behind_of_error failed, behind_of_error performed]
  · have returned : (tryCatch operation handler).perform world = (.ok value, between) := by
      rw [Op.perform_tryCatch, performed]
    rw [behind_of_ok returned, behind_of_ok performed]

section

-- What bodies do, and their deeds, one level of nesting below.
variable (around : Surroundings) (run : Body → Op Unit) (within : Body → World → List Deed)

/-- The deeds of a function. -/
def ofNative (native : Native) : World → List Deed :=
  match native.action with
  | .script body => within body
  | .say _ => fun _ => [.prints]
  | .attachScript module => fun _ => [.attaches module none]

/-- The deeds of a function that may be missing. -/
def ofCallee (function : Option Native) (world : World) : List Deed :=
  match function with
  | none => []
  | some native => ofNative within native world

/-- The deeds of a callback that may be missing. -/
def ofCallback (callback : Option Body) (world : World) : List Deed :=
  match callback with
  | none => []
  | some body => within body world

/-- The deeds of the function that a visited item enters. -/
def ofVisit (engine : Engine) (visit : Visit) : List Deed :=
  match engine.verdictOn visit with
  | .entered native => ofNative within native visit.world
  | _ => []

/-- The deeds of a run: those of the functions that it enters, in order. -/
def ofRun (engine : Engine) (program : Program) (world : World) : List Deed :=
  (engine.visits (Op.enterNative run) program world).flatMap (ofVisit within engine)

/-- The deeds of importing one plugin whose names above are imported. -/
def ofPlugin (name : Text) (parent : Option Text) (world : World) : List Deed :=
  if parent.any fun above => !((around.plugins.find? above).map Plugin.package).getD false then []
  else
    match around.plugins.find? name with
    | none => []
    | some plugin => behind (Op.setImport name .loading) (fun _ => within plugin.onImport) world

/-- The deeds of importing a name after the names above it. -/
def ofAncestry : (names : List Text) → World → List Deed
  | [] => fun _ => []
  | name :: parents =>
      behind (Op.isImported name) fun imported world =>
        if imported then []
        else
          ofAncestry parents world ++
            behind (Op.importAncestry around.plugins run parents)
              (fun _ => behind (Op.isImported name) fun imported world =>
                if imported then [] else ofPlugin around within name parents.head? world) world

/-- The deeds of importing a dotted name. -/
def ofImport (name : Text) (world : World) : List Deed :=
  match name with
  | [] => []
  | first :: _ =>
      if first = Reference.dot then [] else ofAncestry around run within (ancestry name) world

/-- The deeds of a registration. The bundled greeter makes a module and builds it. -/
def ofRegistration (host : HostRef) : Registration → World → List Deed
  | .absent => fun _ => []
  | .notCallable => fun _ => []
  | .greeter => fun world =>
      [.makes world.modules.next none, .adopts host world.modules.next]
  | .script body =>
      behind (Op.relabel fun labels =>
        { labels with hosts := labels.hosts.put registeringHost host }) fun _ => within body

/-- The deeds of loading a plugin: those of its import, then those of its registration. -/
def ofLoad (host : HostRef) (name : Text) (world : World) : List Deed :=
  ofImport around run within name world ++
    behind (Op.importName around.plugins run name)
      (fun _ => behind (Op.registration around.plugins name) (ofRegistration within host)) world

/-- The deeds of a step. -/
def ofStep : Step → World → List Deed
  | .print _ => fun _ => [.prints]
  | .newHost _ _ _ _ => fun _ => [.strays]
  | .execute _ _ _ _ _ => fun _ => [.strays]
  | .newModule _ _ _ _ stream => fun world => [.makes world.modules.next stream]
  | .attach module _ stream => behind (Op.moduleAt module) fun ref _ => [.attaches ref stream]
  | .attachScript module => behind (Op.moduleAt module) fun ref _ => [.attaches ref none]
  | .adopt host module =>
      behind (Op.hostAt host) fun host => behind (Op.moduleAt module) fun ref _ =>
        [.adopts host ref]
  | .build host module body =>
      behind (Op.hostAt host) fun host => behind (Op.moduleAt module) fun ref world =>
        .adopts host ref :: behind (Op.adopt host ref) (fun _ => ofCallback within body) world
  | .attempt body => within body
  | .invoke module function =>
      behind (Op.moduleAt module) fun ref world =>
        ofCallee within ((world.modules.read ref).functions.function? function) world
  | .invokeSnapshot snapshot function =>
      behind (Op.snapshotAt snapshot) fun ref world =>
        ofCallee within ((world.snapshots.read ref).functions.function? function) world
  | .attachSource host _ body =>
      behind (Op.hostAt host) fun host world =>
        if (world.hosts.read host).current.isSome then within body world else []
  | .exportCurrent host body _ _ => behind (Op.hostAt host) fun _ => ofCallback within body
  | .call host module function =>
      behind (Op.hostAt host) fun host => behind (Op.importExport host module) fun found world =>
        ofCallee within
          (found.bind fun ref => (world.snapshots.read ref).functions.function? function) world
  | .run host source modelled =>
      behind (Op.hostAt host) fun host =>
        behind (Op.programOf around.files source modelled) fun program =>
          behind (Op.engine host) fun engine => ofRun run within engine program
  | .loadPlugin host name =>
      behind (Op.hostAt host) fun host => ofLoad around run within host name
  | _ => fun _ => []

/-- The deeds of the steps of a body. -/
def ofSteps : Body → World → List Deed
  | [], _ => []
  | (tag, step) :: rest, world =>
      ofStep around run within step world ++
        behind (Op.performStep around run step)
          (fun result after => ofSteps rest (after.record (Op.tracedAs tag result))) world

end

/-- The deeds of a body in which bodies nest to at most the given depth. -/
def ofBody (around : Surroundings) : (depth : Nat) → Body → World → List Deed
  | 0, _ => fun _ => []
  | depth + 1, body => ofSteps around (Op.runBody around depth) (ofBody around depth) body

end Conduct

/-! ## Discretion -/

/-- Whether a deed keeps standard output free, behind earlier ones. A module that was given
standard output as its stream is never attached to, nor is one that the host has not adopted. -/
def Deed.Allowed (host : HostRef) (past : List Deed) : Deed → Prop
  | .prints => False
  | .strays => False
  | .makes _ _ => True
  | .adopts _ _ => True
  | .attaches module stream =>
      stream ≠ some .stdout ∧ .adopts host module ∈ past ∧ .makes module (some .stdout) ∉ past

instance (host : HostRef) (past : List Deed) : (deed : Deed) → Decidable (deed.Allowed host past)
  | .prints | .strays => inferInstanceAs (Decidable False)
  | .makes _ _ | .adopts _ _ => inferInstanceAs (Decidable True)
  | .attaches module stream =>
      inferInstanceAs (Decidable (stream ≠ some .stdout ∧ .adopts host module ∈ past ∧
        .makes module (some .stdout) ∉ past))

/-- Every deed is allowed behind those before it. -/
def Discreet (host : HostRef) : (past deeds : List Deed) → Prop
  | _, [] => True
  | past, deed :: rest => deed.Allowed host past ∧ Discreet host (past ++ [deed]) rest

instance Discreet.decide (host : HostRef) : (past deeds : List Deed) →
    Decidable (Discreet host past deeds)
  | _, [] => inferInstanceAs (Decidable True)
  | past, deed :: rest =>
      have := Discreet.decide host (past ++ [deed]) rest
      inferInstanceAs (Decidable (deed.Allowed host past ∧ Discreet host (past ++ [deed]) rest))

theorem discreet_append {host : HostRef} {past early late : List Deed} :
    Discreet host past (early ++ late) ↔
      Discreet host past early ∧ Discreet host (past ++ early) late := by
  induction early generalizing past with
  | nil => simp [Discreet]
  | cons deed rest inductionHypothesis =>
    simp only [List.cons_append, Discreet, inductionHypothesis, and_assoc, List.append_assoc,
      List.nil_append]

end Switchboard
