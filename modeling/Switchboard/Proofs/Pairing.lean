import Mathlib.Data.List.Forall2
import Switchboard.Proofs.Operation
import Switchboard.Session

/-!
# Things that correspond

Two worlds may hold the same things at different addresses. A `Pairing` says which things
correspond, one to one. Modules, snapshots, export tables and hosts match under a pairing when they
have the same fields in the same order and lead to things that correspond (`Content.Matches`);
their functions do the same, as scripts that keep to labels of their own (`Step.KeepsTo`).
-/

namespace Switchboard

/-! ## One-to-one relations -/

/-- No thing has two counterparts. -/
def OneToOne {α β : Type} (related : α → β → Prop) : Prop :=
  ∀ ⦃here there another further⦄, related here there → related another further →
    (here = another ↔ there = further)

/-- Two things more, neither of which had a counterpart. -/
theorem OneToOne.insert {α β : Type} {related : α → β → Prop} (unique : OneToOne related)
    {here : α} {there : β} (freshHere : ∀ other, ¬ related here other)
    (freshThere : ∀ other, ¬ related other there) :
    OneToOne fun first second => related first second ∨ first = here ∧ second = there := by
  rintro first second another further (old | ⟨rfl, rfl⟩) (oldToo | ⟨rfl, rfl⟩)
  · exact unique old oldToo
  · refine iff_of_false ?_ ?_
    · rintro rfl
      exact freshHere _ old
    · rintro rfl
      exact freshThere _ old
  · refine iff_of_false ?_ ?_
    · rintro rfl
      exact freshHere _ oldToo
    · rintro rfl
      exact freshThere _ oldToo
  · exact iff_of_true rfl rfl

theorem OneToOne.option {α β : Type} {related : α → β → Prop} (unique : OneToOne related) :
    OneToOne (Option.Rel related) := by
  rintro here there another further (related | _) (relatedToo | _)
  · simp only [Option.some.injEq, unique related relatedToo]
  · exact iff_of_false nofun nofun
  · exact iff_of_false nofun nofun
  · exact iff_of_true rfl rfl

/-! ## Options that correspond -/

section

variable {α β γ δ : Type} {related : α → β → Prop} {here : Option α} {there : Option β}

theorem optionRel_map {other : γ → δ → Prop} {view : α → γ} {viewToo : β → δ}
    (both : Option.Rel related here there)
    (views : ∀ {first second}, related first second → other (view first) (viewToo second)) :
    Option.Rel other (here.map view) (there.map viewToo) := by
  cases both with
  | none => exact .none
  | some related => exact .some (views related)

theorem optionRel_mono {weaker : α → β → Prop} (both : Option.Rel related here there)
    (weakens : ∀ {first second}, related first second → weaker first second) :
    Option.Rel weaker here there := by
  cases both with
  | none => exact .none
  | some related => exact .some (weakens related)

theorem optionRel_eq_iff {one other : Option α} : Option.Rel Eq one other ↔ one = other := by
  constructor
  · rintro (⟨rfl⟩ | _) <;> rfl
  · rintro rfl
    cases one with
    | none => exact .none
    | some => exact .some rfl

theorem optionRel_join {here : Option (Option α)} {there : Option (Option β)}
    (both : Option.Rel (Option.Rel related) here there) :
    Option.Rel related here.join there.join := by
  cases both with
  | none => exact .none
  | some inner => exact inner

end

/-! ## Tables that match -/

namespace Pairs

variable {α β : Type} {related : α → β → Prop} {one : Pairs α} {other : Pairs β}

/-- The same keys in the same order, with corresponding values. -/
def Matches (related : α → β → Prop) : Pairs α → Pairs β → Prop :=
  List.Forall₂ fun here there => here.1 = there.1 ∧ related here.2 there.2

namespace Matches

theorem mono {weaker : α → β → Prop} (matched : Matches related one other)
    (weakens : ∀ {here there}, related here there → weaker here there) :
    Matches weaker one other :=
  List.Forall₂.imp (fun _ _ both => ⟨both.1, weakens both.2⟩) matched

theorem keys (matched : Matches related one other) : one.keys = other.keys := by
  induction matched with
  | nil => rfl
  | cons both _ inductionHypothesis => exact congrArg₂ List.cons both.1 inductionHypothesis

theorem exists_of_mem (matched : Matches related one other) {entry : Text × α}
    (member : entry ∈ one) : ∃ counterpart, related entry.2 counterpart := by
  induction matched with
  | nil => exact nomatch member
  | cons both _ inductionHypothesis =>
    rcases List.mem_cons.mp member with rfl | later
    · exact ⟨_, both.2⟩
    · exact inductionHypothesis later

theorem get? (matched : Matches related one other) (key : Text) :
    Option.Rel related (one.get? key) (other.get? key) := by
  induction matched with
  | nil => exact .none
  | @cons here there _ _ both _ inductionHypothesis =>
    obtain ⟨name, value⟩ := here
    obtain ⟨_, counterpart⟩ := there
    obtain ⟨rfl, values⟩ := both
    unfold Pairs.get?
    split
    · exact .some values
    · exact inductionHypothesis

theorem put (matched : Matches related one other) (key : Text) {value : α} {counterpart : β}
    (values : related value counterpart) :
    Matches related (one.put key value) (other.put key counterpart) := by
  induction matched with
  | nil => exact .cons ⟨rfl, values⟩ .nil
  | @cons here there _ _ both rest inductionHypothesis =>
    obtain ⟨name, old⟩ := here
    obtain ⟨_, oldToo⟩ := there
    obtain ⟨rfl, olds⟩ := both
    unfold Pairs.put
    split
    · exact .cons ⟨rfl, values⟩ rest
    · exact .cons ⟨rfl, olds⟩ inductionHypothesis

/-- The first entries that hold two corresponding values have one key. -/
theorem find? (matched : Matches related one other) (unique : OneToOne related)
    [DecidableEq α] [DecidableEq β] {value : α} {counterpart : β}
    (values : related value counterpart) :
    Option.Rel (fun here there => here.1 = there.1) (one.find? fun entry => entry.2 = value)
      (other.find? fun entry => entry.2 = counterpart) := by
  induction matched with
  | nil => exact .none
  | @cons here there _ _ both _ inductionHypothesis =>
    have together := unique both.2 values
    by_cases found : here.2 = value
    · rw [List.find?_cons_of_pos (by simpa using found),
        List.find?_cons_of_pos (by simpa using together.mp found)]
      exact .some both.1
    · rw [List.find?_cons_of_neg (by simpa using found),
        List.find?_cons_of_neg (by simpa using fun equal => found (together.mpr equal))]
      exact inductionHypothesis

end Matches

/-- The entries whose keys are among the chosen ones. -/
def among (pairs : Pairs α) (chosen : Text → Bool) : Pairs α :=
  pairs.filter fun entry => chosen entry.1

variable {chosen : Text → Bool} {key : Text}

theorem among_cons (name : Text) (value : α) (rest : Pairs α) :
    among ((name, value) :: rest) chosen =
      if chosen name then (name, value) :: among rest chosen else among rest chosen :=
  List.filter_cons

/-- Choosing fewer keys in two steps. -/
theorem among_among (pairs : Pairs α) {wide : Text → Bool}
    (fewer : ∀ key, chosen key = true → wide key = true) :
    (pairs.among wide).among chosen = pairs.among chosen := by
  rw [among, among, List.filter_filter]
  refine List.filter_congr fun entry _ => ?_
  cases inside : chosen entry.1 with
  | false => rfl
  | true => exact fewer entry.1 inside

theorem get?_among (pairs : Pairs α) (isChosen : chosen key = true) :
    (pairs.among chosen).get? key = pairs.get? key := by
  induction pairs with
  | nil => rfl
  | cons entry rest inductionHypothesis =>
    obtain ⟨name, value⟩ := entry
    rw [among_cons]
    by_cases same : name = key
    · rw [if_pos (same ▸ isChosen), Pairs.get?, Pairs.get?, if_pos same, if_pos same]
    · split <;> simp only [Pairs.get?, if_neg same, inductionHypothesis]

/-- An assignment to a chosen key. -/
theorem among_put (pairs : Pairs α) (isChosen : chosen key = true) (value : α) :
    (pairs.put key value).among chosen = (pairs.among chosen).put key value := by
  induction pairs with
  | nil => simp [Pairs.put, among, isChosen]
  | cons entry rest inductionHypothesis =>
    obtain ⟨name, old⟩ := entry
    by_cases same : name = key
    · have nameChosen : chosen name = true := same ▸ isChosen
      simp only [Pairs.put, if_pos same, among_cons, nameChosen, if_true]
    · rw [Pairs.put, if_neg same, among_cons, among_cons, inductionHypothesis]
      split
      · rw [Pairs.put, if_neg same]
      · rfl

/-- An assignment to another key leaves the entries of the chosen ones. -/
theorem among_put_other (pairs : Pairs α) (isOther : chosen key = false) (value : α) :
    (pairs.put key value).among chosen = pairs.among chosen := by
  induction pairs with
  | nil => simp [Pairs.put, among, isOther]
  | cons entry rest inductionHypothesis =>
    obtain ⟨name, old⟩ := entry
    by_cases same : name = key
    · have nameOther : chosen name = false := same ▸ isOther
      simp only [Pairs.put, if_pos same, among_cons, nameOther, Bool.false_eq_true, if_false]
    · rw [Pairs.put, if_neg same, among_cons, among_cons, inductionHypothesis]

end Pairs

/-- The same keys in the same order, with corresponding values. -/
def Table.Matches {α β : Type} (related : α → β → Prop) (one : Table α) (other : Table β) : Prop :=
  Pairs.Matches related one.entries other.entries

namespace Table.Matches

variable {α β : Type} {related : α → β → Prop} {one : Table α} {other : Table β}
  (matched : Table.Matches related one other)

include matched

theorem keys : one.keys = other.keys := Pairs.Matches.keys matched

theorem sortedKeys : one.sortedKeys = other.sortedKeys := congrArg Text.sort matched.keys

theorem size : one.size = other.size := List.Forall₂.length_eq matched

theorem get? (key : Text) : Option.Rel related (one.get? key) (other.get? key) :=
  Pairs.Matches.get? matched key

theorem contains (key : Text) : one.contains key = other.contains key := by
  rw [Bool.eq_iff_iff, contains_iff_mem_keys, contains_iff_mem_keys, matched.keys]

end Table.Matches

/-! ## Scripts that keep to their labels -/

/-- The label that leads to an export table. -/
def ExportsLabel.label : ExportsLabel → Text
  | .exports label | .ofHost label => label

/-- The label of what is exported. -/
def ExportLabel.label : ExportLabel → Text
  | .module label | .snapshot label => label

namespace Step

/-- The labels that a step itself uses or gives. -/
def labels : Step → List Text
  | .note _ | .print _ | .raise _ _ | .attempt _ | .loadPlugin _ _ => []
  | .newModule label _ _ _ _ | .newSnapshot label _ _ | .newExports label => [label]
  | .define module _ _ | .decorate module _ _ | .setScript module _ | .setEcho module _ => [module]
  | .attach module _ _ | .attachScript module | .invoke module _ => [module]
  | .takeSnapshot module label => [module, label]
  | .compareModules first second | .compareSnapshots first second => [first, second]
  | .sameSnapshot first second => [first, second]
  | .invokeSnapshot snapshot _ | .hasFunction snapshot _ | .viewSnapshot snapshot => [snapshot]
  | .assignField snapshot _ | .assignFunction snapshot _ => [snapshot]
  | .labelExports host label => [host, label]
  | .sameExports host exports => [host, exports]
  | .publish exports _ source => [exports.label, source.label]
  | .lookup exports _ label => exports.label :: label.toList
  | .listNames exports | .countNames exports | .containsName exports _ => [exports.label]
  | .listExports exports | .execute exports _ _ _ _ => [exports.label]
  | .newHost label exports _ _ => label :: exports.toList
  | .setReporting host _ | .attachSource host _ _ | .call host _ _ | .exit host _ => [host]
  | .run host _ _ | .current host => [host]
  | .adopt host module | .build host module _ => [host, module]
  | .exportCurrent host _ _ label | .importExport host _ label => host :: label.toList

/-- The bodies that a step holds. -/
def bodies : Step → List Body
  | .attempt body | .attachSource _ _ body => [body]
  | .define _ _ body | .decorate _ _ body | .build _ _ body | .exportCurrent _ body _ _ =>
      body.toList
  | _ => []

/-- Whether a step loads a plugin. Plugins are imported once for all scripts. -/
def isLoad : Step → Bool
  | .loadPlugin _ _ => true
  | _ => false

/-- A step uses its own labels only and loads no plugin, and the same holds of all steps that it
holds, however deep. -/
inductive KeepsTo (own : Text → Bool) : Step → Prop where
  | intro {step : Step} (labels : ∀ label ∈ step.labels, own label = true)
      (bodies : ∀ body ∈ step.bodies, ∀ entry ∈ body, KeepsTo own entry.2)
      (plain : step.isLoad = false) : KeepsTo own step

end Step

/-- All steps of a body keep to their labels. -/
def Body.KeepsTo (own : Text → Bool) (body : Body) : Prop := ∀ entry ∈ body, entry.2.KeepsTo own

namespace Step.KeepsTo

variable {own : Text → Bool} {step : Step} (keeps : step.KeepsTo own)

include keeps

theorem own_of_mem {label : Text} (used : label ∈ step.labels) : own label = true := by
  obtain ⟨labels, -, -⟩ := keeps
  exact labels label used

/-- The first label of a step is its own. -/
theorem first {label : Text} {rest : List Text} (listed : step.labels = label :: rest) :
    own label = true :=
  keeps.own_of_mem (listed ▸ List.mem_cons_self)

/-- The second label of a step is its own. -/
theorem second {label other : Text} {rest : List Text}
    (listed : step.labels = other :: label :: rest) : own label = true :=
  keeps.own_of_mem (listed ▸ List.mem_cons_of_mem other List.mem_cons_self)

/-- A label that a step may leave out is its own. -/
theorem optional {label : Option Text} {other : Text}
    (listed : step.labels = other :: label.toList) : ∀ name ∈ label, own name = true :=
  fun _ given => keeps.own_of_mem (listed ▸ List.mem_cons_of_mem other (Option.mem_toList.mpr given))

theorem inside {body : Body} (listed : step.bodies = [body]) : Body.KeepsTo own body := by
  obtain ⟨-, bodies, -⟩ := keeps
  exact bodies body (listed ▸ List.mem_singleton.mpr rfl)

/-- A body that a step may leave out keeps to the labels. -/
theorem callback {body : Option Body} (listed : step.bodies = body.toList) :
    ∀ inner ∈ body, Body.KeepsTo own inner := by
  obtain ⟨-, bodies, -⟩ := keeps
  exact fun inner given => bodies inner (listed ▸ Option.mem_toList.mpr given)

theorem not_load : step.isLoad = false := by
  obtain ⟨-, -, plain⟩ := keeps
  exact plain

end Step.KeepsTo

/-! ## Pairings -/

/-- Which things of two worlds correspond, and which identities of functions. -/
structure Pairing where
  refs : (kind : RefKind) → Ref kind → Ref kind → Prop
  natives : Nat → Nat → Prop

namespace Pairing

/-- What corresponds in the first pairing does so in the second. -/
structure Extends (pairing larger : Pairing) : Prop where
  refs : ∀ {kind here there}, pairing.refs kind here there → larger.refs kind here there
  natives : ∀ {here there}, pairing.natives here there → larger.natives here there

theorem Extends.refl (pairing : Pairing) : pairing.Extends pairing := ⟨id, id⟩

theorem Extends.trans {first second third : Pairing} (early : first.Extends second)
    (late : second.Extends third) : first.Extends third :=
  ⟨late.refs ∘ early.refs, late.natives ∘ early.natives⟩

/-- The things on the first side of a pairing. -/
def Here (pairing : Pairing) (kind : RefKind) (ref : Ref kind) : Prop :=
  ∃ there, pairing.refs kind ref there

/-- The things on the second side of a pairing. -/
def There (pairing : Pairing) (kind : RefKind) (ref : Ref kind) : Prop :=
  ∃ here, pairing.refs kind here ref

/-- The things that correspond when two more do. -/
inductive WithRef (pairing : Pairing) {kind : RefKind} (here there : Ref kind) :
    (kind : RefKind) → Ref kind → Ref kind → Prop where
  | old {other first second} (paired : pairing.refs other first second) :
      WithRef pairing here there other first second
  | new : WithRef pairing here there kind here there

/-- Two things more. -/
def addRef (pairing : Pairing) {kind : RefKind} (here there : Ref kind) : Pairing where
  refs := WithRef pairing here there
  natives := pairing.natives

/-- Two identities more. -/
def addNative (pairing : Pairing) (here there : Nat) : Pairing where
  refs := pairing.refs
  natives first second := pairing.natives first second ∨ first = here ∧ second = there

theorem refs_addRef_iff (pairing : Pairing) {kind : RefKind} (here there : Ref kind)
    {first second : Ref kind} : (pairing.addRef here there).refs kind first second ↔
      pairing.refs kind first second ∨ first = here ∧ second = there := by
  constructor
  · rintro (paired | _)
    · exact .inl paired
    · exact .inr ⟨rfl, rfl⟩
  · rintro (paired | ⟨rfl, rfl⟩)
    · exact .old paired
    · exact .new

theorem refs_addRef_other_iff (pairing : Pairing) {kind other : RefKind} (here there : Ref kind)
    (different : other ≠ kind) {first second : Ref other} :
    (pairing.addRef here there).refs other first second ↔ pairing.refs other first second := by
  constructor
  · rintro (paired | _)
    · exact paired
    · exact absurd rfl different
  · exact .old

theorem extends_addRef (pairing : Pairing) {kind : RefKind} (here there : Ref kind) :
    pairing.Extends (pairing.addRef here there) := ⟨.old, id⟩

theorem extends_addNative (pairing : Pairing) (here there : Nat) :
    pairing.Extends (pairing.addNative here there) := ⟨id, .inl⟩

end Pairing

/-! ## Contents that match -/

section

variable (own : Text → Bool) (pairing : Pairing)

/-- What functions do is the same, for scripts that keep to their labels. -/
inductive NativeAction.Matches : NativeAction → NativeAction → Prop where
  | script {body : Body} (keeps : Body.KeepsTo own body) :
      NativeAction.Matches (.script body) (.script body)
  | say (line : Text) : NativeAction.Matches (.say line) (.say line)
  | attachScript {here there : ModuleRef} (paired : pairing.refs .module here there) :
      NativeAction.Matches (.attachScript here) (.attachScript there)

/-- Functions that correspond and do the same. -/
structure Native.Matches (one other : Native) : Prop where
  identity : pairing.natives one.identity other.identity
  action : one.action.Matches own pairing other.action

/-- The same names in the same order, with matching functions. -/
def FunctionTable.Matches (one other : FunctionTable) : Prop :=
  Table.Matches (Option.Rel (Native.Matches own pairing)) one other

/-- Modules that are the same but for addresses. -/
structure Module.Matches (one other : Module) : Prop where
  name : one.name = other.name
  functions : FunctionTable.Matches own pairing one.functions other.functions
  script : one.script = other.script
  echo : one.echo = other.echo
  stream : one.stream = other.stream

/-- Snapshots that are the same but for addresses. -/
structure Snapshot.Matches (one other : Snapshot) : Prop where
  name : one.name = other.name
  functions : FunctionTable.Matches own pairing one.functions other.functions
  script : one.script = other.script

/-- Hosts that are the same but for addresses. -/
structure Host.Matches (one other : Host) : Prop where
  exports : pairing.refs .exports one.exports other.exports
  reporting : one.reporting = other.reporting
  stream : one.stream = other.stream
  current : Option.Rel (pairing.refs .module) one.current other.current

/-- What is stored at an address. -/
def Content : RefKind → Type
  | .module => Module
  | .snapshot => Snapshot
  | .exports => Exports
  | .host => Host

/-- Contents that are the same but for addresses. -/
def Content.Matches : (kind : RefKind) → Content kind → Content kind → Prop
  | .module => Module.Matches own pairing
  | .snapshot => Snapshot.Matches own pairing
  | .exports => Table.Matches (pairing.refs .snapshot)
  | .host => Host.Matches pairing

end

section

variable {own : Text → Bool} {pairing larger : Pairing} (grown : pairing.Extends larger)

include grown

theorem NativeAction.Matches.mono {one other : NativeAction}
    (matched : one.Matches own pairing other) : one.Matches own larger other := by
  cases matched with
  | script keeps => exact .script keeps
  | say line => exact .say line
  | attachScript paired => exact .attachScript (grown.refs paired)

theorem Native.Matches.mono {one other : Native} (matched : one.Matches own pairing other) :
    one.Matches own larger other :=
  ⟨grown.natives matched.identity, matched.action.mono grown⟩

theorem FunctionTable.Matches.mono {one other : FunctionTable}
    (matched : one.Matches own pairing other) : one.Matches own larger other :=
  Pairs.Matches.mono matched fun functions =>
    optionRel_mono functions fun native => native.mono grown

/-- What matches goes on to match when more things correspond. -/
theorem Content.Matches.mono {kind : RefKind} {one other : Content kind}
    (matched : Content.Matches own pairing kind one other) :
    Content.Matches own larger kind one other := by
  cases kind with
  | module =>
    have matched : Module.Matches own pairing one other := matched
    exact Module.Matches.mk matched.name (matched.functions.mono grown) matched.script matched.echo
      matched.stream
  | snapshot =>
    have matched : Snapshot.Matches own pairing one other := matched
    exact Snapshot.Matches.mk matched.name (matched.functions.mono grown) matched.script
  | exports => exact Pairs.Matches.mono matched grown.refs
  | host =>
    have matched : Host.Matches pairing one other := matched
    exact Host.Matches.mk (grown.refs matched.exports) matched.reporting matched.stream
      (optionRel_mono matched.current grown.refs)

end

/-! ## What matching contents have in common -/

section

variable {own : Text → Bool} {pairing : Pairing}

/-- The function to run is found in both tables or in neither. -/
theorem FunctionTable.Matches.function? {one other : FunctionTable}
    (matched : one.Matches own pairing other) (name : Text) :
    Option.Rel (Native.Matches own pairing) (one.function? name) (other.function? name) :=
  optionRel_join (Table.Matches.get? matched name)

/-- Matching tables are told apart by identities in one world as they are in the other. -/
theorem FunctionTable.Matches.same (unique : OneToOne pairing.natives)
    {first second one other : FunctionTable} (matched : first.Matches own pairing one)
    (matchedToo : second.Matches own pairing other) : first.same second = one.same other := by
  have identities {table counterpart : FunctionTable}
      (matched : table.Matches own pairing counterpart) (name : Text) :
      Option.Rel (Option.Rel pairing.natives) (table.identity? name)
        (counterpart.identity? name) :=
    optionRel_map (Table.Matches.get? matched name) fun function =>
      optionRel_map function Native.Matches.identity
  have named (name : Text) : (first.identity? name == second.identity? name) =
      (one.identity? name == other.identity? name) := by
    rw [Bool.eq_iff_iff, beq_iff_eq, beq_iff_eq]
    exact unique.option.option (identities matched name) (identities matchedToo name)
  unfold FunctionTable.same
  rw [Table.Matches.size matched, Table.Matches.size matchedToo, Table.Matches.keys matched]
  simp only [named]

theorem Module.Matches.same (unique : OneToOne pairing.natives) {first second one other : Module}
    (matched : first.Matches own pairing one) (matchedToo : second.Matches own pairing other) :
    first.same second = one.same other := by
  unfold Module.same
  rw [matched.functions.same unique matchedToo.functions, matched.name, matched.script,
    matched.echo, matchedToo.name, matchedToo.script, matchedToo.echo]

theorem Snapshot.Matches.same (unique : OneToOne pairing.natives)
    {first second one other : Snapshot} (matched : first.Matches own pairing one)
    (matchedToo : second.Matches own pairing other) : first.same second = one.same other := by
  unfold Snapshot.same
  rw [matched.functions.same unique matchedToo.functions, matched.name, matched.script,
    matchedToo.name, matchedToo.script]

theorem Snapshot.Matches.view {one other : Snapshot} (matched : one.Matches own pairing other) :
    one.view = other.view := by
  unfold Snapshot.view
  rw [matched.name, matched.script, Table.Matches.sortedKeys matched.functions]

/-- A snapshot of a module matches a snapshot of its counterpart. -/
theorem Module.Matches.snapshot {one other : Module} (matched : one.Matches own pairing other) :
    one.snapshot.Matches own pairing other.snapshot :=
  ⟨matched.name, matched.functions, matched.script⟩

/-- Matching functions under one name. -/
theorem Module.Matches.define {one other : Module} (matched : one.Matches own pairing other)
    (name : Text) {here there : Option Native}
    (functions : Option.Rel (Native.Matches own pairing) here there) :
    (one.define name here).Matches own pairing (other.define name there) :=
  { matched with functions := Pairs.Matches.put matched.functions name functions }

end

end Switchboard
