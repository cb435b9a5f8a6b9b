import Mathlib
import Switchboard.Proofs.Grammar

/-!
# The reader and the grammar

The reader takes exactly the documents that the rules derive, and gives what they denote
(`read_eq_ok_iff`). One direction says that enough fuel is enough (`complete`), the other that
nothing else is read (`sound`); both go by the fuel, with one lemma for each of the three functions
of the reader.
-/

namespace Switchboard.Json

/-! ## Beginnings -/

/-- Whether a point begins a constant or a number. -/
def opensScalar (point : CodePoint) : Bool := point ∈ text "ntfNI-" || Decimal.isDigit point

/-- Whether a point begins a value. -/
def opensValue (point : CodePoint) : Bool := point ∈ text "\"[\x7b" || opensScalar point

/-- The text begins with a point that has a property. -/
def Begins (property : CodePoint → Bool) (source : Text) : Prop :=
  ∃ first others, source = first :: others ∧ property first = true

section

variable {source : Text} {property : CodePoint → Bool}

theorem Begins.append (begins : Begins property source) (rest : Text) :
    Begins property (source ++ rest) := by
  obtain ⟨first, others, rfl, holds⟩ := begins
  exact ⟨first, others ++ rest, rfl, holds⟩

theorem Begins.past (begins : Begins property source) {other : CodePoint → Bool}
    (differ : ∀ point, property point = true → other point = false) : Past other source := by
  obtain ⟨first, others, rfl, holds⟩ := begins
  exact past_cons (differ first holds)

/-- A text that begins with a property does not begin with a point that lacks it. -/
theorem Begins.past_eq (begins : Begins property source) {point : CodePoint}
    (lacks : property point = false) : Past (· = point) source := by
  refine begins.past fun first holds => decide_eq_false fun same => ?_
  rw [same, lacks] at holds
  cases holds

end

theorem isBlank_of_opensValue {point : CodePoint} (opens : opensValue point = true) :
    isBlank point = false := by
  refine Bool.eq_false_iff.mpr fun blank => ?_
  have closes : ∀ point ∈ enders, opensValue point = false := by decide
  rw [closes point (mem_enders_of_isBlank blank)] at opens
  cases opens

theorem begins_constant {name : Text} {value : Value} (known : (name, value) ∈ constants) :
    Begins opensScalar name := by
  simp only [constants, List.mem_cons, Prod.mk.injEq, List.not_mem_nil, or_false] at known
  rcases known with ⟨rfl, -⟩ | ⟨rfl, -⟩ | ⟨rfl, -⟩ | ⟨rfl, -⟩ | ⟨rfl, -⟩ | ⟨rfl, -⟩ <;>
    exact ⟨_, _, rfl, by decide⟩

theorem Number.begins {source : Text} {value : Value} (number : Number source value) :
    Begins opensScalar source := by
  obtain ⟨_ | _, first, others, rfl, digit⟩ := number.exists_digit
  · exact ⟨first, others, rfl, by simp [opensScalar, digit]⟩
  · exact ⟨_, _, rfl, by decide⟩

theorem Begins.opensValue {source : Text} (begins : Begins opensScalar source) :
    Begins opensValue source := by
  obtain ⟨first, others, rfl, opens⟩ := begins
  exact ⟨first, others, rfl, by simp [Json.opensValue, opens]⟩

theorem Quoted.begins {source content : Text} (quoted : Quoted source content) :
    Begins opensValue source := by
  cases quoted
  exact ⟨_, _, rfl, by decide⟩

theorem Denotes.begins {source : Text} {value : Value} (denotes : Denotes source value) :
    Begins opensValue source := by
  cases denotes with
  | constant known => exact (begins_constant known).opensValue
  | number number => exact number.begins.opensValue
  | string quoted => exact quoted.begins
  | emptyArray | array | emptyObject | object => exact ⟨_, _, rfl, by decide⟩

theorem Items.begins {source : Text} {items : List Value} (listed : Items source items) :
    Begins opensValue source := by
  cases listed with
  | last denotes | more denotes => exact denotes.begins.append _

theorem Field.begins {source : Text} {field : Text × Value} (denotes : Field source field) :
    Begins opensValue source := by
  cases denotes with
  | named quoted => exact quoted.begins.append _

theorem Fields.begins {source : Text} {fields : List (Text × Value)}
    (listed : Fields source fields) : Begins opensValue source := by
  cases listed with
  | last denotes | more denotes => exact denotes.begins.append _

/-! ## Values -/

section

variable {fuel : Nat} {source rest : Text}

theorem skipBlanks_opens {blanks : Text} (blank : Blanks blanks)
    (begins : Begins opensValue source) : skipBlanks (blanks ++ source) = source :=
  skipBlanks_blanks blank (begins.past fun _ => isBlank_of_opensValue)

theorem readValue_scalar (begins : Begins opensScalar source) :
    readValue (fuel + 1) source = readScalar source := by
  rw [readValue]
  · exact ne_cons_of_past (begins.past_eq (by decide))
  · exact ne_cons_of_past (begins.past_eq (by decide))
  · exact ne_cons_of_past (begins.past_eq (by decide))

theorem readValue_string {content : Text}
    (read : readString (.scalar '"' :: source) source = .ok (content, rest)) :
    readValue (fuel + 1) (.scalar '"' :: source) = .ok (.string content, rest) := by
  rw [readValue, read]
  rfl

theorem readValue_emptyArray (closed : skipBlanks source = .scalar ']' :: rest) :
    readValue (fuel + 1) (.scalar '[' :: source) = .ok (.array [], rest) := by
  rw [readValue, closed]
  rfl

theorem readValue_array {items : List Value} (filled : Past (· = .scalar ']') (skipBlanks source))
    (read : readItems fuel (skipBlanks source) = .ok (items, rest)) :
    readValue (fuel + 1) (.scalar '[' :: source) = .ok (.array items, rest) := by
  rw [readValue]
  split
  · next closed => exact absurd closed (ne_cons_of_past filled _)
  · rw [read]
    rfl

theorem readValue_emptyObject (closed : skipBlanks source = .scalar '\x7d' :: rest) :
    readValue (fuel + 1) (.scalar '\x7b' :: source) = .ok (.object [], rest) := by
  rw [readValue, closed]
  rfl

theorem readValue_object {fields : List (Text × Value)}
    (filled : Past (· = .scalar '\x7d') (skipBlanks source))
    (read : readFields fuel (skipBlanks source) = .ok (fields, rest)) :
    readValue (fuel + 1) (.scalar '\x7b' :: source) =
      .ok (.object (Pairs.ofAssignments fields), rest) := by
  rw [readValue]
  split
  · next closed => exact absurd closed (ne_cons_of_past filled _)
  · rw [read]
    rfl

theorem readItems_last {after : Text} {item : Value}
    (read : readValue fuel source = .ok (item, after))
    (closed : skipBlanks after = .scalar ']' :: rest) :
    readItems (fuel + 1) source = .ok ([item], rest) := by
  rw [readItems, read]
  simp only [bind, Except.bind, closed]
  rfl

theorem readItems_more {after behind : Text} {item : Value} {items : List Value}
    (read : readValue fuel source = .ok (item, after))
    (comma : skipBlanks after = .scalar ',' :: behind)
    (others : readItems fuel (skipBlanks behind) = .ok (items, rest)) :
    readItems (fuel + 1) source = .ok (item :: items, rest) := by
  rw [readItems, read]
  simp only [bind, Except.bind, comma, others]
  rfl

/-- The reader comes through a field: it reads a key, finds a colon and reads a value. -/
inductive ReadsField (fuel : Nat) : Text → Text × Value → Text → Prop where
  | reads {body key middle behind after : Text} {value : Value}
      (name : readString (.scalar '"' :: body) body = .ok (key, middle))
      (colon : skipBlanks middle = .scalar ':' :: behind)
      (read : readValue fuel (skipBlanks behind) = .ok (value, after)) :
      ReadsField fuel (.scalar '"' :: body) (key, value) after

theorem readFields_last {after : Text} {field : Text × Value}
    (reads : ReadsField fuel source field after)
    (closed : skipBlanks after = .scalar '\x7d' :: rest) :
    readFields (fuel + 1) source = .ok ([field], rest) := by
  obtain ⟨name, colon, read⟩ := reads
  rw [readFields, name]
  simp only [bind, Except.bind, colon, read, closed]
  rfl

theorem readFields_more {after behind : Text} {field : Text × Value}
    {fields : List (Text × Value)} (reads : ReadsField fuel source field after)
    (comma : skipBlanks after = .scalar ',' :: behind)
    (others : readFields fuel (skipBlanks behind) = .ok (fields, rest)) :
    readFields (fuel + 1) source = .ok (field :: fields, rest) := by
  obtain ⟨name, colon, read⟩ := reads
  rw [readFields, name]
  simp only [bind, Except.bind, colon, read, comma, others]
  rfl

end

/-! ## Completeness -/

/-- With this much fuel the reader reads whatever the rules derive: twice the length is enough for
a value, and one step more for members, which begin with a value of the same length. -/
structure Complete (fuel : Nat) : Prop where
  value : ∀ {source rest value}, Denotes source value → Ends rest →
    2 * source.length + 1 ≤ fuel → readValue fuel (source ++ rest) = .ok (value, rest)
  items : ∀ {source rest items}, Items source items → 2 * source.length + 2 ≤ fuel →
    readItems fuel (source ++ rest) = .ok (items, rest)
  fields : ∀ {source rest fields}, Fields source fields → 2 * source.length + 2 ≤ fuel →
    readFields fuel (source ++ rest) = .ok (fields, rest)

namespace Complete

variable {fuel : Nat} {source rest : Text}

theorem readValue (complete : Complete fuel) {value : Value} (denotes : Denotes source value)
    (ends : Ends rest) (enough : 2 * source.length ≤ fuel) :
    Json.readValue (fuel + 1) (source ++ rest) = .ok (value, rest) := by
  cases denotes with
  | constant known =>
    rw [readValue_scalar ((begins_constant known).append rest), readScalar_constant known]
  | number number =>
    rw [readValue_scalar (number.begins.append rest), readScalar_number number ends]
  | string quoted =>
    obtain ⟨body, whole, read⟩ := quoted.readString rest
    rw [whole]
    exact readValue_string (read _)
  | @emptyArray blanks blank =>
    rw [List.cons_append]
    refine readValue_emptyArray ?_
    rw [List.append_assoc]
    exact skipBlanks_blanks blank (past_cons rfl)
  | @array blanks members items blank listed =>
    have skipped : skipBlanks (blanks ++ members ++ rest) = members ++ rest := by
      rw [List.append_assoc, skipBlanks_opens blank (listed.begins.append rest)]
    rw [List.length_cons, List.length_append] at enough
    rw [List.cons_append]
    refine readValue_array ?_ ?_ <;> rw [skipped]
    · exact (listed.begins.append rest).past_eq (by decide)
    · exact complete.items listed (by omega)
  | @emptyObject blanks blank =>
    rw [List.cons_append]
    refine readValue_emptyObject ?_
    rw [List.append_assoc]
    exact skipBlanks_blanks blank (past_cons rfl)
  | @object blanks members fields blank listed =>
    have skipped : skipBlanks (blanks ++ members ++ rest) = members ++ rest := by
      rw [List.append_assoc, skipBlanks_opens blank (listed.begins.append rest)]
    rw [List.length_cons, List.length_append] at enough
    rw [List.cons_append]
    refine readValue_object ?_ ?_ <;> rw [skipped]
    · exact (listed.begins.append rest).past_eq (by decide)
    · exact complete.fields listed (by omega)

theorem readItems (complete : Complete fuel) {items : List Value} (listed : Items source items)
    (enough : 2 * source.length + 1 ≤ fuel) :
    Json.readItems (fuel + 1) (source ++ rest) = .ok (items, rest) := by
  cases listed with
  | @last source blanks item denotes blank =>
    rw [List.length_append] at enough
    have ends : Ends (blanks ++ .scalar ']' :: rest) := ends_blanks blank (ends_cons (by decide))
    have read := complete.value denotes ends (by omega)
    have closed : skipBlanks (blanks ++ .scalar ']' :: rest) = .scalar ']' :: rest :=
      skipBlanks_blanks blank (past_cons rfl)
    rw [List.append_assoc, List.append_assoc, List.singleton_append]
    exact readItems_last read closed
  | @more source before behind members item items denotes blank blankToo others =>
    simp only [List.length_append, List.length_cons] at enough
    have ends : Ends (before ++ .scalar ',' :: (behind ++ (members ++ rest))) :=
      ends_blanks blank (ends_cons (by decide))
    have read := complete.value denotes ends (by omega)
    have comma : skipBlanks (before ++ .scalar ',' :: (behind ++ (members ++ rest))) =
        .scalar ',' :: (behind ++ (members ++ rest)) :=
      skipBlanks_blanks blank (past_cons rfl)
    have skipped := skipBlanks_opens blankToo (others.begins.append rest)
    rw [List.append_assoc, List.append_assoc, List.cons_append, List.append_assoc]
    refine readItems_more read comma ?_
    rw [skipped]
    exact complete.items others (by omega)

/-- A field is read when something can stand behind its value. -/
theorem readsField (complete : Complete fuel) {field : Text × Value} (denotes : Field source field)
    (ends : Ends rest) (enough : 2 * source.length ≤ fuel) :
    ReadsField fuel (source ++ rest) field rest := by
  cases denotes with
  | @named name key before behind source value quoted blank blankToo denotes =>
    simp only [List.length_append, List.length_cons] at enough
    obtain ⟨body, whole, read⟩ :=
      quoted.readString (before ++ .scalar ':' :: (behind ++ (source ++ rest)))
    have colon : skipBlanks (before ++ .scalar ':' :: (behind ++ (source ++ rest))) =
        .scalar ':' :: (behind ++ (source ++ rest)) :=
      skipBlanks_blanks blank (past_cons rfl)
    have skipped := skipBlanks_opens blankToo (denotes.begins.append rest)
    rw [List.append_assoc, List.append_assoc, List.cons_append, List.append_assoc, whole]
    refine .reads (read _) colon ?_
    rw [skipped]
    exact complete.value denotes ends (by omega)

theorem readFields (complete : Complete fuel) {fields : List (Text × Value)}
    (listed : Fields source fields) (enough : 2 * source.length + 1 ≤ fuel) :
    Json.readFields (fuel + 1) (source ++ rest) = .ok (fields, rest) := by
  cases listed with
  | @last source blanks field denotes blank =>
    rw [List.length_append] at enough
    have ends : Ends (blanks ++ .scalar '\x7d' :: rest) :=
      ends_blanks blank (ends_cons (by decide))
    have reads := complete.readsField denotes ends (by omega)
    have closed : skipBlanks (blanks ++ .scalar '\x7d' :: rest) = .scalar '\x7d' :: rest :=
      skipBlanks_blanks blank (past_cons rfl)
    rw [List.append_assoc, List.append_assoc, List.singleton_append]
    exact readFields_last reads closed
  | @more source before behind members field fields denotes blank blankToo others =>
    simp only [List.length_append, List.length_cons] at enough
    have ends : Ends (before ++ .scalar ',' :: (behind ++ (members ++ rest))) :=
      ends_blanks blank (ends_cons (by decide))
    have reads := complete.readsField denotes ends (by omega)
    have comma : skipBlanks (before ++ .scalar ',' :: (behind ++ (members ++ rest))) =
        .scalar ',' :: (behind ++ (members ++ rest)) :=
      skipBlanks_blanks blank (past_cons rfl)
    have skipped := skipBlanks_opens blankToo (others.begins.append rest)
    rw [List.append_assoc, List.append_assoc, List.cons_append, List.append_assoc]
    refine readFields_more reads comma ?_
    rw [skipped]
    exact complete.fields others (by omega)

end Complete

/-- Enough fuel is enough. -/
theorem complete (fuel : Nat) : Complete fuel := by
  induction fuel with
  | zero => exact ⟨nofun, nofun, nofun⟩
  | succ fuel inductionHypothesis =>
    refine ⟨fun denotes ends enough => ?_, fun listed enough => ?_, fun listed enough => ?_⟩
    · exact inductionHypothesis.readValue denotes ends (by omega)
    · exact inductionHypothesis.readItems listed (by omega)
    · exact inductionHypothesis.readFields listed (by omega)

/-! ## Soundness -/

/-- With this much fuel the reader reads nothing but what the rules derive. -/
structure Sound (fuel : Nat) : Prop where
  value : ∀ {source rest value}, readValue fuel source = .ok (value, rest) →
    ∃ taken, source = taken ++ rest ∧ Denotes taken value
  items : ∀ {source rest items}, readItems fuel source = .ok (items, rest) →
    ∃ taken, source = taken ++ rest ∧ Items taken items
  fields : ∀ {source rest fields}, readFields fuel source = .ok (fields, rest) →
    ∃ taken, source = taken ++ rest ∧ Fields taken fields

namespace Sound

variable {fuel : Nat} {source rest : Text}

theorem readValue (sound : Sound fuel) {value : Value}
    (read : Json.readValue (fuel + 1) source = .ok (value, rest)) :
    ∃ taken, source = taken ++ rest ∧ Denotes taken value := by
  rw [Json.readValue.eq_def] at read
  dsimp only at read
  split at read
  · obtain ⟨_, found, ⟨⟩⟩ := exists_of_bind_eq_ok read
    obtain ⟨taken, whole, quoted⟩ := quoted_of_readString found
    exact ⟨taken, whole, .string quoted⟩
  · next behind =>
    obtain ⟨blanks, blank, skipped⟩ := exists_blanks behind
    split at read
    · next closed =>
      cases read
      rw [closed] at skipped
      exact ⟨_, by rw [skipped]; simp, .emptyArray blank⟩
    · obtain ⟨_, found, ⟨⟩⟩ := exists_of_bind_eq_ok read
      obtain ⟨members, whole, listed⟩ := sound.items found
      rw [whole] at skipped
      exact ⟨_, by rw [skipped]; simp, .array blank listed⟩
  · next behind =>
    obtain ⟨blanks, blank, skipped⟩ := exists_blanks behind
    split at read
    · next closed =>
      cases read
      rw [closed] at skipped
      exact ⟨_, by rw [skipped]; simp, .emptyObject blank⟩
    · obtain ⟨_, found, ⟨⟩⟩ := exists_of_bind_eq_ok read
      obtain ⟨members, whole, listed⟩ := sound.fields found
      rw [whole] at skipped
      exact ⟨_, by rw [skipped]; simp, .object blank listed⟩
  · exact denotes_of_readScalar read

theorem readItems (sound : Sound fuel) {items : List Value}
    (read : Json.readItems (fuel + 1) source = .ok (items, rest)) :
    ∃ taken, source = taken ++ rest ∧ Items taken items := by
  rw [Json.readItems] at read
  obtain ⟨⟨item, after⟩, found, read⟩ := exists_of_bind_eq_ok read
  obtain ⟨taken, opened, denotes⟩ := sound.value found
  obtain ⟨before, blank, skipped⟩ := exists_blanks after
  dsimp only at read
  split at read
  · next closed =>
    cases read
    rw [closed] at skipped
    exact ⟨_, by rw [opened, skipped]; simp, .last denotes blank⟩
  · next behind comma =>
    obtain ⟨_, found, ⟨⟩⟩ := exists_of_bind_eq_ok read
    obtain ⟨members, whole, others⟩ := sound.items found
    obtain ⟨blanks, blankToo, skippedToo⟩ := exists_blanks behind
    rw [comma, skippedToo, whole] at skipped
    exact ⟨_, by rw [opened, skipped]; simp, .more denotes blank blankToo others⟩
  · cases read

/-- A field that the reader comes through is one. -/
theorem field (sound : Sound fuel) {field : Text × Value} {after : Text}
    (reads : ReadsField fuel source field after) :
    ∃ taken, source = taken ++ after ∧ Field taken field := by
  cases reads with
  | @reads body key middle behind _ value name colon read =>
    obtain ⟨quote, whole, quoted⟩ := quoted_of_readString name
    obtain ⟨before, blank, skipped⟩ := exists_blanks middle
    obtain ⟨blanks, blankToo, skippedToo⟩ := exists_blanks behind
    obtain ⟨taken, rested, denotes⟩ := sound.value read
    rw [colon, skippedToo, rested] at skipped
    exact ⟨_, by rw [whole, skipped]; simp, .named quoted blank blankToo denotes⟩

/-- The fields that are read begin with one that the reader comes through. -/
theorem exists_readsField {fields : List (Text × Value)}
    (read : Json.readFields (fuel + 1) source = .ok (fields, rest)) :
    ∃ field after, ReadsField fuel source field after ∧
      (skipBlanks after = .scalar '\x7d' :: rest ∧ fields = [field] ∨
        ∃ behind others, skipBlanks after = .scalar ',' :: behind ∧ fields = field :: others ∧
          Json.readFields fuel (skipBlanks behind) = .ok (others, rest)) := by
  rw [Json.readFields.eq_def] at read
  dsimp only at read
  split at read
  · obtain ⟨⟨key, middle⟩, name, read⟩ := exists_of_bind_eq_ok read
    dsimp only at read
    split at read
    · next behind colon =>
      obtain ⟨⟨value, after⟩, found, read⟩ := exists_of_bind_eq_ok read
      refine ⟨_, after, .reads name colon found, ?_⟩
      dsimp only at read
      split at read
      · next closed =>
        cases read
        exact .inl ⟨closed, rfl⟩
      · next comma =>
        obtain ⟨_, others, ⟨⟩⟩ := exists_of_bind_eq_ok read
        exact .inr ⟨_, _, comma, rfl, others⟩
      · cases read
    · cases read
  · cases read

theorem readFields (sound : Sound fuel) {fields : List (Text × Value)}
    (read : Json.readFields (fuel + 1) source = .ok (fields, rest)) :
    ∃ taken, source = taken ++ rest ∧ Fields taken fields := by
  obtain ⟨first, after, reads, ends⟩ := exists_readsField read
  obtain ⟨taken, rfl, denotes⟩ := sound.field reads
  obtain ⟨before, blank, skipped⟩ := exists_blanks after
  obtain ⟨closed, rfl⟩ | ⟨behind, others, comma, rfl, found⟩ := ends
  · rw [closed] at skipped
    exact ⟨_, by rw [skipped]; simp, .last denotes blank⟩
  · obtain ⟨members, whole, listed⟩ := sound.fields found
    obtain ⟨blanks, blankToo, skippedToo⟩ := exists_blanks behind
    rw [comma, skippedToo, whole] at skipped
    exact ⟨_, by rw [skipped]; simp, .more denotes blank blankToo listed⟩

end Sound

theorem sound (fuel : Nat) : Sound fuel := by
  induction fuel with
  | zero => exact ⟨nofun, nofun, nofun⟩
  | succ fuel inductionHypothesis =>
    exact ⟨inductionHypothesis.readValue, inductionHypothesis.readItems,
      inductionHypothesis.readFields⟩

/-! ## Documents -/

/-- No document begins with a byte order mark, which is neither a blank nor the first point of a
value. -/
theorem ne_byteOrderMark {before source : Text} (blank : Blanks before)
    (begins : Begins opensValue source) (rest : Text) :
    before ++ source ≠ .scalar '\ufeff' :: rest := by
  cases before with
  | nil => exact ne_cons_of_past (begins.past_eq (by decide)) rest
  | cons point before =>
    intro same
    cases same
    cases blank _ (List.mem_cons_self ..)

/-- A document is read. -/
theorem read_of_document {document : Text} {value : Value} (derived : Document document value) :
    read document = .ok value := by
  cases derived with
  | @padded before source behind _ blank denotes blankToo =>
    have begins := denotes.begins.append behind
    have ends : Ends behind := by
      rw [← List.append_nil behind]
      exact ends_blanks blankToo ends_nil
    have enough : 2 * source.length + 1 ≤ 2 * (before ++ (source ++ behind)).length + 2 := by
      simp only [List.length_append]
      omega
    have closed : skipBlanks behind = [] := by
      simpa using skipBlanks_blanks blankToo (past_nil isBlank)
    unfold read
    split
    · next marked => exact absurd marked (ne_byteOrderMark blank begins _)
    · rw [skipBlanks_opens blank begins, (complete _).value denotes ends enough]
      simp only [bind, Except.bind, closed]
      rfl

/-- What is read is a document. -/
theorem document_of_read {document : Text} {value : Value} (accepted : read document = .ok value) :
    Document document value := by
  unfold read at accepted
  split at accepted
  · cases accepted
  · obtain ⟨⟨found, rest⟩, reading, accepted⟩ := exists_of_bind_eq_ok accepted
    obtain ⟨before, blank, skipped⟩ := exists_blanks document
    obtain ⟨behind, blankToo, skippedToo⟩ := exists_blanks rest
    obtain ⟨taken, whole, denotes⟩ := (sound _).value reading
    dsimp only at accepted
    split at accepted
    · next closed =>
      cases accepted
      rw [closed, List.append_nil] at skippedToo
      rw [whole, skippedToo] at skipped
      rw [skipped]
      exact .padded blank denotes blankToo
    · cases accepted

/-- The reader takes the documents that the rules derive, and gives what they denote. -/
theorem read_eq_ok_iff {document : Text} {value : Value} :
    read document = .ok value ↔ Document document value :=
  ⟨document_of_read, read_of_document⟩

end Switchboard.Json
