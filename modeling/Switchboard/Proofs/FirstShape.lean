import Switchboard.Module.Use
import Switchboard.Proofs.Operation

/-!
# The first println shape

A shape stands at a place of a text when `println(` begins there and a parenthesis closes it
before the line ends. `argument_of_first_shape` says what the search makes of a text in terms of
the least such place: openings that are not closed on their line are no shapes and are passed
over, and an empty first shape has no argument whatever follows.
-/

namespace Switchboard.Println

/-- The parenthesis that closes a shape. -/
def closing : CodePoint := .scalar ')'

/-- A shape stands at a place: it opens there, and behind the opening a closing parenthesis comes
before any line end. -/
def ShapeAt (source : Text) (place : Nat) : Prop :=
  ∃ before inside after, source = before ++ opening ++ inside ++ closing :: after ∧
    before.length = place ∧ newline ∉ inside

/-- The text between an opening at a place and the first closing parenthesis behind it. -/
def contentAt (source : Text) (place : Nat) : Text :=
  (source.drop (place + opening.length)).takeWhile (· ≠ closing)

/-! ## Contents -/

/-- The content of a shape is what comes before the first closing parenthesis. -/
theorem content?_eq_takeWhile {source content : Text} (found : content? source = some content) :
    content = source.takeWhile (· ≠ closing) := by
  induction source generalizing content with
  | nil => simp [content?] at found
  | cons point rest inductionHypothesis =>
    simp only [content?] at found
    by_cases closes : point = .scalar ')'
    · simp_all [closing]
    · rw [if_neg closes] at found
      split at found
      · cases found
      · obtain ⟨others, foundToo, rfl⟩ := Option.map_eq_some_iff.mp found
        have differs : point ≠ closing := closes
        rw [List.takeWhile_cons_of_pos (by simpa using differs), ← inductionHypothesis foundToo]

/-- There is a content exactly when a closing parenthesis comes before any line end. -/
theorem content?_isSome_iff {source : Text} :
    (content? source).isSome ↔
      ∃ inside after, source = inside ++ closing :: after ∧ newline ∉ inside := by
  induction source with
  | nil => simp [content?]
  | cons point rest inductionHypothesis =>
    by_cases closes : point = .scalar ')'
    · have empty : ∃ inside after, point :: rest = inside ++ closing :: after ∧
          newline ∉ inside := ⟨[], rest, by rw [closes]; rfl, List.not_mem_nil⟩
      simp only [content?, closes, if_true, Option.isSome_some, true_iff]
      exact closes ▸ empty
    · -- the first point belongs to what is inside, so it must not end the line
      have behind : (∃ inside after, point :: rest = inside ++ closing :: after ∧
          newline ∉ inside) ↔ point ≠ newline ∧
            ∃ inside after, rest = inside ++ closing :: after ∧ newline ∉ inside := by
        constructor
        · rintro ⟨_ | ⟨first, inside⟩, after, shape, single⟩
          · exact absurd (List.cons.inj shape).1 closes
          · obtain ⟨rfl, rfl⟩ := List.cons.inj shape
            obtain ⟨differs, others⟩ := List.ne_and_not_mem_of_not_mem_cons single
            exact ⟨differs.symm, inside, after, rfl, others⟩
        · rintro ⟨differs, inside, after, rfl, single⟩
          exact ⟨point :: inside, after, rfl, List.not_mem_cons_of_ne_of_not_mem differs.symm single⟩
      rw [behind, ← inductionHypothesis, content?, if_neg closes]
      by_cases ends : point = newline <;> simp [ends]

/-! ## Places -/

/-- What the search finds at the beginning of a text. -/
def shapeHere? (source : Text) : Option Text := (opening.dropOpening? source).bind content?

/-- The search finds something at the beginning exactly when a shape stands there. -/
theorem shapeHere?_isSome_iff {source : Text} :
    (shapeHere? source).isSome ↔ ShapeAt source 0 := by
  constructor
  · intro found
    obtain ⟨content, found⟩ := Option.isSome_iff_exists.mp found
    obtain ⟨rest, opened, closed⟩ := Option.bind_eq_some_iff.mp found
    obtain ⟨inside, after, rfl, single⟩ :=
      content?_isSome_iff.mp (Option.isSome_iff_exists.mpr ⟨content, closed⟩)
    refine ⟨[], inside, after, ?_, rfl, single⟩
    rw [Text.dropOpening?_eq_some_iff.mp opened, List.nil_append, List.append_assoc]
  · rintro ⟨before, inside, after, rfl, start, single⟩
    obtain rfl := List.eq_nil_of_length_eq_zero start
    have opened : opening.dropOpening? ([] ++ opening ++ inside ++ closing :: after) =
        some (inside ++ closing :: after) :=
      Text.dropOpening?_eq_some_iff.mpr (by rw [List.nil_append, List.append_assoc])
    rw [shapeHere?, opened, Option.bind_some]
    exact content?_isSome_iff.mpr ⟨inside, after, rfl, single⟩

/-- What the search finds at the beginning is the content of the shape there. -/
theorem eq_contentAt_of_shapeHere? {source content : Text}
    (found : shapeHere? source = some content) : content = contentAt source 0 := by
  obtain ⟨rest, opened, closed⟩ := Option.bind_eq_some_iff.mp found
  rw [contentAt, Text.dropOpening?_eq_some_iff.mp opened, Nat.zero_add, List.drop_left]
  exact content?_eq_takeWhile closed

theorem shapeAt_cons_succ {point : CodePoint} {rest : Text} {place : Nat} :
    ShapeAt (point :: rest) (place + 1) ↔ ShapeAt rest place := by
  constructor
  · rintro ⟨_ | ⟨first, before⟩, inside, after, shape, start, single⟩
    · cases start
    · exact ⟨before, inside, after, (List.cons.inj shape).2, Nat.succ.inj start, single⟩
  · rintro ⟨before, inside, after, rfl, rfl, single⟩
    exact ⟨point :: before, inside, after, rfl, rfl, single⟩

theorem contentAt_cons_succ (point : CodePoint) (rest : Text) (place : Nat) :
    contentAt (point :: rest) (place + 1) = contentAt rest place := by
  rw [contentAt, Nat.add_right_comm, List.drop_succ_cons, contentAt]

theorem not_shapeAt_nil (place : Nat) : ¬ ShapeAt [] place := by
  rintro ⟨before, inside, after, shape, -, -⟩
  simp at shape

/-- A shape stands at a place exactly when the search finds it at the beginning of the text from
there on. -/
theorem shapeAt_iff {source : Text} {place : Nat} :
    ShapeAt source place ↔ (shapeHere? (source.drop place)).isSome := by
  induction source generalizing place with
  | nil =>
    rw [List.drop_nil, shapeHere?_isSome_iff]
    exact iff_of_false (not_shapeAt_nil place) (not_shapeAt_nil 0)
  | cons point rest inductionHypothesis =>
    cases place with
    | zero => exact shapeHere?_isSome_iff.symm
    | succ place => exact shapeAt_cons_succ.trans inductionHypothesis

instance (source : Text) (place : Nat) : Decidable (ShapeAt source place) :=
  decidable_of_iff _ shapeAt_iff.symm

/-! ## The search -/

/-- The search goes on behind a point where no shape stands. -/
theorem firstShape?_cons (point : CodePoint) (rest : Text) :
    firstShape? (point :: rest) =
      match shapeHere? (point :: rest) with
      | some content => some content
      | none => firstShape? rest := rfl

/-- Where no shape stands, none is found. -/
theorem firstShape?_eq_none {source : Text} (absent : ∀ place, ¬ ShapeAt source place) :
    firstShape? source = none := by
  induction source with
  | nil => rfl
  | cons point rest inductionHypothesis =>
    have missing : shapeHere? (point :: rest) = none := by
      rw [← Option.not_isSome_iff_eq_none, shapeHere?_isSome_iff]
      exact absent 0
    rw [firstShape?_cons, missing]
    exact inductionHypothesis fun place shape => absent (place + 1) (shapeAt_cons_succ.mpr shape)

/-- The shape that is found is the one at the least place. -/
theorem firstShape?_eq_some {source : Text} {place : Nat} (shape : ShapeAt source place)
    (least : ∀ earlier, earlier < place → ¬ ShapeAt source earlier) :
    firstShape? source = some (contentAt source place) := by
  induction source generalizing place with
  | nil => exact absurd shape (not_shapeAt_nil place)
  | cons point rest inductionHypothesis =>
    rw [firstShape?_cons]
    cases place with
    | zero =>
      obtain ⟨content, found⟩ := Option.isSome_iff_exists.mp (shapeHere?_isSome_iff.mpr shape)
      rw [found, ← eq_contentAt_of_shapeHere? found]
    | succ place =>
      have missing : shapeHere? (point :: rest) = none := by
        rw [← Option.not_isSome_iff_eq_none, shapeHere?_isSome_iff]
        exact least 0 (Nat.succ_pos place)
      have found : firstShape? rest = some (contentAt rest place) := by
        refine inductionHypothesis (shapeAt_cons_succ.mp shape) fun earlier before shapeToo => ?_
        exact least (earlier + 1) (Nat.succ_lt_succ before) (shapeAt_cons_succ.mpr shapeToo)
      rw [missing, contentAt_cons_succ]
      exact found

/-- The search looks at the least place where a shape stands and at no other. Without a shape there
is no argument; otherwise the argument is the content of that shape without its quotes, unless the
content is empty. Attaching the text to a module has the argument for its result, and it writes
the argument and one line end when there is one and the module echoes; nothing else changes. -/
theorem argument_of_first_shape (source : Text) :
    ((∀ place, ¬ ShapeAt source place) → argument? source = none) ∧
    (∀ place, ShapeAt source place → (∀ earlier, earlier < place → ¬ ShapeAt source earlier) →
      (contentAt source place = [] → argument? source = none) ∧
      (contentAt source place ≠ [] → argument? source =
        some ((contentAt source place).filter fun point =>
          point ≠ .scalar '\'' ∧ point ≠ .scalar '"'))) ∧
    ∀ (ref : ModuleRef) (stream : Option Stream) (world : World),
      let module := world.modules.read ref
      let target := (stream <|> module.stream).getD .stdout
      (Op.attach ref source stream).perform world =
        (.ok (argument? source), world.record <|
          match argument? source, module.echo with
          | some argument, true => [.wrote target (argument ++ [newline])]
          | _, _ => []) := by
  refine ⟨fun absent => ?_, fun place shape least => ⟨fun empty => ?_, fun filled => ?_⟩, ?_⟩
  · rw [argument?, firstShape?_eq_none absent]
  · rw [argument?, firstShape?_eq_some shape least, empty]
  · have quotes : ∀ point, (!isQuote point) =
        decide (point ≠ .scalar '\'' ∧ point ≠ .scalar '"') := by
      intro point
      simp [isQuote]
    rw [argument?, firstShape?_eq_some shape least]
    cases content : contentAt source place with
    | nil => exact absurd content filled
    | cons first rest => exact congrArg some (List.filter_congr fun point _ => quotes point)
  · intro ref stream world module target
    have read : (Op.readModule ref).perform world = (.ok module, world) := rfl
    rw [Op.attach, Op.perform_bind, read]
    dsimp only
    cases argument? source with
    | none => simp
    | some argument =>
      cases module.echo with
      | false => simp
      | true => rfl

/-- Two openings that are not closed on their line are passed over, an opening inside a shape
belongs to its content, and the quotes are gone. A shape with content behind an empty one is not
looked at. -/
theorem argument_of_first_shape_nested :
    argument? (text "println(1\nprintln\nprintln(println('a\")) println(b)") =
        some (text "println(a") ∧
      argument? (text "println() println(b)") = none := by
  obtain ⟨-, found, -⟩ :=
    argument_of_first_shape (text "println(1\nprintln\nprintln(println('a\")) println(b)")
  obtain ⟨-, foundToo, -⟩ := argument_of_first_shape (text "println() println(b)")
  obtain ⟨-, filled⟩ := found 18 (by decide) (by decide)
  obtain ⟨empty, -⟩ := foundToo 0 (by decide) (by decide)
  refine ⟨?_, empty (by decide)⟩
  rw [filled (by decide)]
  decide

end Switchboard.Println
