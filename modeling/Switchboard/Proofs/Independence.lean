import Mathlib.Logic.Function.Basic
import Switchboard.Proofs.Lockstep

/-!
# Independent hosts

Several parties work in one world, each with hosts, export tables, modules and labels of its own,
and take turns in any order. What a party does does not depend on the others: every step comes to
the record that it has when the party plays its steps alone, and in the end the part of the world
that belongs to the party is the one that it leaves alone (`parties_do_not_interfere`). `Concord`
is what every turn preserves (`Concord.play`), and by induction every session
(`Concord.playFrom`).
-/

namespace Switchboard

/-! ## Parties -/

section

variable {Party : Type} [DecidableEq Party]

/-- The labels of a party. -/
def ownLabels (owner : Text → Party) (party : Party) (label : Text) : Bool := owner label = party

/-- The steps of a party among the turns of all. -/
def turnsOf (party : Party) (turns : List (Party × Step)) : List Step :=
  (turns.filter fun turn => turn.1 = party).map Prod.snd

/-- The records of a party among the records of all turns. -/
def recordsOf (party : Party) (turns : List (Party × Step)) (records : List StepRecord) :
    List StepRecord :=
  ((turns.zip records).filter fun entry => entry.1.1 = party).map Prod.snd

/-- The things that belong to a party. -/
abbrev Territory := (kind : RefKind) → Ref kind → Prop

/-- Everything in a territory, as its own counterpart. -/
def Territory.pairing (territory : Territory) (world : World) : Pairing where
  refs kind here there := here = there ∧ territory kind here
  natives here there := here = there ∧ here < world.natives

/-- A territory is closed: things in it are in use, and each of them matches itself, so that all it
leads to is in the territory and its functions are scripts that keep to the own labels. All own
labels lead into it. -/
structure Territory.Closed (territory : Territory) (own : Text → Bool) (world : World) : Prop where
  used : ∀ {kind ref}, territory kind ref → ref.address < (world.store kind).size
  contents : ∀ {kind ref}, territory kind ref → Content.Matches own (territory.pairing world) kind
    ((world.store kind).read ref) ((world.store kind).read ref)
  labels : ∀ {kind entry}, entry ∈ (world.labelled kind).entries → own entry.1 = true →
    territory kind entry.2

/-- A world is linked with itself along a closed territory. -/
theorem Territory.Closed.linked {territory : Territory} {own : Text → Bool} {world : World}
    (closed : territory.Closed own world) : Linked own (territory.pairing world) world world where
  used := by
    rintro kind first _ ⟨rfl, inside⟩
    exact ⟨closed.used inside, closed.used inside⟩
  usedNatives := by
    rintro first _ ⟨rfl, used⟩
    exact ⟨used, used⟩
  unique := by
    rintro kind first _ second _ ⟨rfl, -⟩ ⟨rfl, -⟩
    exact Iff.rfl
  uniqueNatives := by
    rintro first _ second _ ⟨rfl, -⟩ ⟨rfl, -⟩
    exact Iff.rfl
  contents := by
    rintro kind first _ ⟨rfl, inside⟩
    exact closed.contents inside
  labels := by
    refine fun kind => List.forall₂_same.mpr fun entry member => ?_
    obtain ⟨listed, mine⟩ := List.mem_filter.mp member
    exact ⟨rfl, rfl, closed.labels listed mine⟩

/-- Every party has a territory of its own. Territories have nothing in common, snapshots apart,
which nobody can change. -/
structure Apart (owner : Text → Party) (territories : Party → Territory) (world : World) : Prop where
  closed : ∀ party, (territories party).Closed (ownLabels owner party) world
  disjoint : ∀ {party other}, party ≠ other → ∀ {kind ref}, kind ≠ .snapshot →
    territories party kind ref → ¬ territories other kind ref

/-! ## Turns -/

theorem Session.playFrom_cons (around : Surroundings) (step : Step) (rest : List Step)
    (world : World) :
    playFrom around (step :: rest) world =
      ((playStep around step world).1 :: (playFrom around rest (playStep around step world).2).1,
        (playFrom around rest (playStep around step world).2).2) := rfl

theorem turnsOf_cons (party : Party) (turn : Party × Step) (turns : List (Party × Step)) :
    turnsOf party (turn :: turns) =
      if turn.1 = party then turn.2 :: turnsOf party turns else turnsOf party turns := by
  unfold turnsOf
  rw [List.filter_cons]
  split <;> simp_all

theorem recordsOf_cons (party : Party) (turn : Party × Step) (turns : List (Party × Step))
    (record : StepRecord) (records : List StepRecord) :
    recordsOf party (turn :: turns) (record :: records) =
      if turn.1 = party then record :: recordsOf party turns records
      else recordsOf party turns records := by
  unfold recordsOf
  rw [List.zip_cons_cons, List.filter_cons]
  split <;> simp_all

section

variable {owner : Text → Party} {territories : Party → Territory} {start : World}

theorem ownLabels_other {party other : Party} (different : party ≠ other) (label : Text)
    (mine : ownLabels owner party label = true) : ownLabels owner other label = false := by
  simp only [ownLabels, decide_eq_true_eq, decide_eq_false_iff_not] at mine ⊢
  exact fun same => different (mine.symm.trans same)

/-- What lies beside a party: all that the others hold. -/
def Beside.ofOthers (owner : Text → Party) (world : World) (held : Party → Territory)
    (led : ∀ {entry}, entry ∈ (world.labelled .module).entries →
      held (owner entry.1) .module entry.2) (party : Party) : Beside (ownLabels owner party) where
  world := world
  refs kind ref := ∃ other, party ≠ other ∧ held other kind ref
  led := by
    intro entry member others
    refine ⟨owner entry.1, ?_, led member⟩
    rintro rfl
    exact absurd rfl (of_decide_eq_false others)

/-- What lies beside a party that is alone: the territories of the others. -/
def Apart.beside (apart : Apart owner territories start) (party : Party) :
    Beside (ownLabels owner party) :=
  .ofOthers owner start territories
    (fun {entry} member => (apart.closed (owner entry.1)).labels member (decide_eq_true rfl)) party

/-- A party in the common world and alone: the two worlds are linked, and alone the territories of
the others are spared. -/
structure Accord (apart : Apart owner territories start) (party : Party) (pairing : Pairing)
    (common alone : World) : Prop where
  grown : ((territories party).pairing start).Extends pairing
  linked : Linked (ownLabels owner party) pairing common alone
  spared : Spared (apart.beside party) pairing.There alone

/-- Every party is in accord with itself alone, and what it has in the common world is its own. -/
structure Concord (apart : Apart owner territories start) (pairings : Party → Pairing)
    (common : World) (alone : Party → World) : Prop where
  each : ∀ party, Accord apart party (pairings party) common (alone party)
  disjoint : ∀ {party other}, party ≠ other → ∀ {kind ref}, kind ≠ .snapshot →
    (pairings party).Here kind ref → ¬ (pairings other).Here kind ref

/-- Before the first turn all worlds are the same. -/
theorem Apart.concord (apart : Apart owner territories start) :
    Concord apart (fun party => (territories party).pairing start) start fun _ => start where
  each party :=
    { grown := .refl _
      linked := (apart.closed party).linked
      spared :=
        { used := fun ⟨other, _, held⟩ => (apart.closed other).used held
          apart := by
            rintro kind ref mutable ⟨other, different, held⟩ ⟨_, rfl, mine⟩
            exact apart.disjoint different mutable mine held
          contents := fun _ => rfl
          labels := fun _ => rfl
          natives := Nat.le_refl _ } }
  disjoint := by
    rintro party other different kind ref mutable ⟨_, -, mine⟩ ⟨_, -, held⟩
    exact apart.disjoint different mutable mine held

namespace Concord

variable {apart : Apart owner territories start} {pairings : Party → Pairing} {common : World}
  {alone : Party → World} (concord : Concord apart pairings common alone)

include concord

/-- What lies beside a party in the common world: all that the others have there. -/
def beside (party : Party) : Beside (ownLabels owner party) :=
  .ofOthers owner common (fun other => (pairings other).Here)
    (fun {entry} member => (concord.each (owner entry.1)).linked.led member (decide_eq_true rfl))
    party

/-- The common world and that of a party alone are twins. -/
theorem twins (party : Party) :
    Twins ⟨concord.beside party, apart.beside party⟩ (pairings party) common (alone party) where
  toLinked := (concord.each party).linked
  spared :=
    { used := fun ⟨other, _, _, paired⟩ => ((concord.each other).linked.used paired).1
      apart := fun mutable ⟨_, different, held⟩ mine => concord.disjoint different mutable mine held
      contents := fun _ => rfl
      labels := fun _ => rfl
      natives := Nat.le_refl _ }
  sparedToo := (concord.each party).spared

/-- A turn of one party leads to twin worlds, and all others are in accord as they were. -/
theorem advance {party : Party} {larger : Pairing} {after afterAlone : World}
    (grown : (pairings party).Extends larger)
    (twins : Twins ⟨concord.beside party, apart.beside party⟩ larger after afterAlone) :
    Concord apart (Function.update pairings party larger) after
      (Function.update alone party afterAlone) := by
  have held : ∀ {other}, other ≠ party → ∀ {kind ref}, (pairings other).Here kind ref →
      (concord.beside party).refs kind ref := fun different _ _ mine => ⟨_, Ne.symm different, mine⟩
  constructor
  case each =>
    intro other
    by_cases same : other = party
    · subst same
      rw [Function.update_self, Function.update_self]
      exact ⟨(concord.each other).grown.trans grown, twins.toLinked, twins.sparedToo⟩
    · rw [Function.update_of_ne same, Function.update_of_ne same]
      have accord := concord.each other
      exact ⟨accord.grown, accord.linked.elsewhere (ownLabels_other same) rfl (held same)
        twins.spared, accord.spared⟩
  case disjoint =>
    intro one other different kind ref mutable mine foreign
    by_cases same : one = party
    · subst same
      rw [Function.update_self] at mine
      rw [Function.update_of_ne (Ne.symm different)] at foreign
      exact twins.spared.apart mutable (held (Ne.symm different) foreign) mine
    · rw [Function.update_of_ne same] at mine
      by_cases sameToo : other = party
      · subst sameToo
        rw [Function.update_self] at foreign
        exact twins.spared.apart mutable (held different mine) foreign
      · rw [Function.update_of_ne sameToo] at foreign
        exact concord.disjoint different mutable mine foreign

/-- A step of a party comes to the record that it has alone, and concord goes on. -/
theorem play (around : Surroundings) {party : Party} {step : Step}
    (keeps : step.KeepsTo (ownLabels owner party)) :
    (Session.playStep around step common).1 = (Session.playStep around step (alone party)).1 ∧
      ∃ further, Concord apart further (Session.playStep around step common).2
        (Function.update alone party (Session.playStep around step (alone party)).2) := by
  have performs : Op.Lockstep ⟨concord.beside party, apart.beside party⟩ (pairings party) Op.Same
      (Op.performStep around (Op.runBody around Op.maxDepth) step)
      (Op.performStep around (Op.runBody around Op.maxDepth) step) :=
    Op.lockstep_performStep (Op.lockstep_runBody around Op.maxDepth) keeps
  obtain ⟨larger, grown, twins, outcome, events, shown, shownToo⟩ :=
    performs (common.withTrace []) ((alone party).withTrace [])
      ((concord.twins party).withTrace [] [])
  refine ⟨?_, _, concord.advance grown twins⟩
  have recorded : ∀ world, (Session.playStep around step world).1 =
      ⟨((Op.performStep around (Op.runBody around Op.maxDepth) step).perform
          (world.withTrace [])).1,
        Event.joinWrites ((Op.performStep around (Op.runBody around Op.maxDepth) step).perform
          (world.withTrace [])).2.trace⟩ := fun _ => rfl
  rw [recorded, recorded, outcome.eq, shown, shownToo, World.trace_withTrace,
    World.trace_withTrace]

/-- Every party comes to the records that it has alone, and concord goes on. -/
theorem playFrom (around : Surroundings) (turns : List (Party × Step))
    (keeps : ∀ turn ∈ turns, turn.2.KeepsTo (ownLabels owner turn.1)) :
    (∀ party, recordsOf party turns (Session.playFrom around (turns.map Prod.snd) common).1 =
      (Session.playFrom around (turnsOf party turns) (alone party)).1) ∧
    ∃ further, Concord apart further (Session.playFrom around (turns.map Prod.snd) common).2
      fun party => (Session.playFrom around (turnsOf party turns) (alone party)).2 := by
  induction turns generalizing pairings common alone with
  | nil => exact ⟨fun _ => rfl, pairings, concord⟩
  | cons turn rest inductionHypothesis =>
    obtain ⟨party, step⟩ := turn
    have own : step.KeepsTo (ownLabels owner party) := keeps (party, step) List.mem_cons_self
    obtain ⟨record, further, next⟩ := concord.play around own
    obtain ⟨records, furthest, last⟩ := inductionHypothesis next fun turn later =>
      keeps turn (List.mem_cons_of_mem _ later)
    have others : ∀ other, other ≠ party →
        Session.playFrom around (turnsOf other ((party, step) :: rest)) (alone other) =
          Session.playFrom around (turnsOf other rest) (alone other) := by
      intro other different
      rw [turnsOf_cons, if_neg (Ne.symm different)]
    rw [List.map_cons, Session.playFrom_cons]
    refine ⟨fun other => ?_, furthest, ?_⟩
    · have later := records other
      rw [recordsOf_cons]
      by_cases same : other = party
      · subst same
        rw [Function.update_self] at later
        rw [turnsOf_cons, if_pos rfl, if_pos rfl, Session.playFrom_cons, record, later]
      · rw [Function.update_of_ne same] at later
        rw [others other same, if_neg (Ne.symm same), later]
    · convert last using 2 with other
      by_cases same : other = party
      · subst same
        rw [turnsOf_cons, if_pos rfl, Session.playFrom_cons, Function.update_self]
      · rw [others other same, Function.update_of_ne same]

end Concord

end

/-! ## Sessions of several parties -/

/-- Parties that have nothing in common do not interfere. Let each of them have hosts, export
tables, modules and labels of its own in some world, and let them take turns in any order, with
steps that keep to the labels of the party, also in all functions and callbacks that they reach.
Then the steps of a party have the records that they have when the party plays them alone: the same
results and failures, the same text and log records. In the end its hosts have the same current
modules and exports as they have alone, and all that belongs to it is the same but for addresses:
its labels, the settings of its hosts, its export tables, snapshots and modules. -/
theorem parties_do_not_interfere (around : Surroundings) (owner : Text → Party)
    (territories : Party → Territory) (start : World) (apart : Apart owner territories start)
    (turns : List (Party × Step))
    (keeps : ∀ turn ∈ turns, turn.2.KeepsTo (ownLabels owner turn.1)) (party : Party) :
    let own := ownLabels owner party
    let together := Session.playFrom around (turns.map Prod.snd) start
    let alone := Session.playFrom around (turnsOf party turns) start
    recordsOf party turns together.1 = alone.1 ∧
    Pairs.among (Session.hosts together.2) own = Pairs.among (Session.hosts alone.2) own ∧
    ∃ pairing : Pairing, (∀ kind ref, territories party kind ref → pairing.refs kind ref ref) ∧
      Linked own pairing together.2 alone.2 := by
  intro own together alone
  obtain ⟨records, pairings, concord⟩ := apart.concord.playFrom around turns keeps
  have accord := concord.each party
  refine ⟨records party, (concord.twins party).hosts, pairings party, ?_, accord.linked⟩
  exact fun kind ref mine => accord.grown.refs ⟨rfl, mine⟩

end

/-- Two hosts, each with an export table of its own, whose modules are exported under one name. The
function of one echoes source, and the function of the other leaves with a code. -/
theorem parties_do_not_interfere_two :
    let around : Surroundings := ⟨⟨fun _ => .error .notFound⟩, ⟨[]⟩⟩
    let start := (Session.play around
      [.newHost (text "a") none {} none, .newHost (text "b") none {} (some .stderr)]).2
    let owner : Text → Bool := (text "b").isPrefixOf
    let turns : List (Bool × Step) :=
      [(false, .newModule (text "am") none [] true none),
        (true, .newModule (text "bm") none [] true none),
        (true, .define (text "bm") (text "f") (some [(none, .exit (text "b") (.int 3))])),
        (false, .define (text "am") (text "f")
          (some [(none, .attach (text "am") (text "println(\"hi\")") none)])),
        (false, .build (text "a") (text "am") (some [])),
        (true, .adopt (text "b") (text "bm")),
        (true, .exportCurrent (text "b") (some []) (text "M") none),
        (false, .exportCurrent (text "a") (some []) (text "M") none),
        (false, .call (text "a") (text "M") (text "f")),
        (true, .call (text "b") (text "M") (text "f"))]
    let territories : Bool → Territory := fun party kind ref =>
      (kind = .host ∨ kind = .exports) ∧ ref.address = party.toNat
    let together := Session.playFrom around (turns.map Prod.snd) start
    let alone := fun party => Session.playFrom around (turnsOf party turns) start
    Apart owner territories start ∧
    (∀ turn ∈ turns, turn.2.KeepsTo (ownLabels owner turn.1)) ∧
    ∀ party, recordsOf party turns together.1 = (alone party).1 ∧
      Pairs.among (Session.hosts together.2) (ownLabels owner party) =
        Pairs.among (Session.hosts (alone party).2) (ownLabels owner party) := by
  intro around start owner turns territories together alone
  have closed : ∀ party, (territories party).Closed (ownLabels owner party) start := by
    intro party
    constructor
    case used =>
      rintro _ ref ⟨rfl | rfl, address⟩
      · exact address ▸ party.toNat_lt
      · exact address ▸ party.toNat_lt
    case contents =>
      rintro _ ⟨address⟩ ⟨rfl | rfl, rfl⟩
      · cases party <;> exact Host.Matches.mk ⟨rfl, .inr rfl, rfl⟩ rfl rfl .none
      · cases party <;> exact List.Forall₂.nil
    case labels =>
      rintro (_ | _ | _ | _) entry member mine
      · exact nomatch member
      · exact nomatch member
      · exact nomatch member
      · have listed : entry ∈ [(text "a", (⟨0⟩ : HostRef)), (text "b", ⟨1⟩)] := member
        obtain rfl : owner entry.1 = party := of_decide_eq_true mine
        rcases List.mem_pair.mp listed with rfl | rfl
        · exact ⟨.inl rfl, rfl⟩
        · exact ⟨.inl rfl, rfl⟩
  have apart : Apart owner territories start := by
    refine ⟨closed, ?_⟩
    rintro party other different kind ref - ⟨-, address⟩ ⟨-, addressToo⟩
    cases party <;> cases other <;> simp_all
  have simple : ∀ party (step : Step), step.bodies.flatten = [] → step.isLoad = false →
      (∀ label ∈ step.labels, ownLabels owner party label = true) →
      step.KeepsTo (ownLabels owner party) := by
    intro party step flat plain labels
    refine ⟨labels, fun body held entry inside => ?_, plain⟩
    exact absurd (List.mem_flatten.mpr ⟨body, held, inside⟩) (flat ▸ List.not_mem_nil)
  have keeps : ∀ turn ∈ turns, turn.2.KeepsTo (ownLabels owner turn.1) := by
    intro turn member
    simp only [turns, List.mem_cons, List.not_mem_nil, or_false] at member
    rcases member with rfl | rfl | rfl | rfl | rfl | rfl | rfl | rfl | rfl | rfl
    case inr.inr.inl =>
      refine ⟨by decide, ?_, rfl⟩
      simpa [Step.bodies] using simple true _ rfl rfl (by decide)
    case inr.inr.inr.inl =>
      refine ⟨by decide, ?_, rfl⟩
      simpa [Step.bodies] using simple false _ rfl rfl (by decide)
    all_goals exact simple _ _ rfl rfl (by decide)
  refine ⟨apart, keeps, fun party => ?_⟩
  obtain ⟨records, hosts, -⟩ :=
    parties_do_not_interfere around owner territories start apart turns keeps party
  exact ⟨records, hosts⟩

end Switchboard
