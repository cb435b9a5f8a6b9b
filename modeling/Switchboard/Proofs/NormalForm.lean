import Switchboard.Proofs.Wire

/-!
# The normal form of instructions

Values that are instructions differ in the order of their fields, in nulls and in fields without a
meaning. The wire form is what remains of such a value when the known fields come first, in their
order, and the nulls are gone. `wire_form_is_normal` reads it off the value itself (`normalFields`)
and says that writing is a normalization: reading the form back loses nothing that an engine looks
at, and writing it again changes nothing.
-/

namespace Switchboard

namespace Value

/-- A field with a value under `key` when the fields have one that is not null. -/
def presentField? (fields : Pairs Value) (key : Text) : Option (Text × Value) :=
  ((fields.get? key).filter isPresent).map fun value => (key, value)

/-- Looking a field up and leaving it out if it is null. -/
theorem toList_presentField? (fields : Pairs Value) (key : Text) :
    (presentField? fields key).toList = present [(key, fieldOrNull fields key)] := by
  rw [presentField?, fieldOrNull]
  cases fields.get? key with
  | none => rfl
  | some value => cases kept : value.isPresent <;> simp [present, kept]

/-- Fields that are null are left out once. -/
theorem present_present (fields : Pairs Value) : present (present fields) = present fields := by
  simp [present]

end Value

namespace Instruction

/-- The fields of an object in normal form: the known ones in the order of writing and then the
others in the order of the object, all of them without nulls. -/
def normalFields (fields : Pairs Value) : Pairs Value :=
  knownKeys.filterMap (Value.presentField? fields) ++
    fields.filter fun field => field.2.isPresent && !knownKeys.contains field.1

/-- The wire form of an instruction that was read is the normal form of what it was read from. -/
theorem wireFields_of_accept {fields : Pairs Value} {instruction : Instruction}
    (accepted : accept (.object fields) = .ok instruction) :
    instruction.wireFields = normalFields fields := by
  obtain ⟨_, kind, ⟨⟩, readable, typed⟩ := eq_object_of_accept accepted
  rw [accept_object readable typed] at accepted
  cases accepted
  have kept : Value.string kind = Value.fieldOrNull fields (text "type") := by
    rw [Value.fieldOrNull, typed, Option.getD_some]
  have known : knownKeys.filterMap (Value.presentField? fields) =
      Value.present (knownKeys.map fun key => (key, Value.fieldOrNull fields key)) := by
    induction knownKeys with
    | nil => rfl
    | cons key rest inductionHypothesis =>
      have first := Value.toList_presentField? fields key
      rw [List.filterMap_cons, List.map_cons, ← List.singleton_append, Value.present,
        List.filter_append, ← Value.present, ← Value.present, ← first, ← inductionHypothesis]
      cases Value.presentField? fields key <;> rfl
  rw [normalFields, known, wireFields, List.filter_append, List.filter_filter, kept]
  rfl

/-- A value is read as an instruction exactly when it is an object with a string for its type,
whatever its other fields are; its keys are texts without lone surrogates. Its wire form is then
the object in normal form. The form can be read again, with the same meaning in all that is looked
at and with the same extras but for the nulls among them, and it is written as it was. -/
theorem wire_form_is_normal (raw : Value)
    (readable : ∀ fields, raw = .object fields → Readable fields) :
    ((∃ instruction, accept raw = .ok instruction) ↔
      ∃ fields kind, raw = .object fields ∧
        Pairs.get? fields (text "type") = some (.string kind)) ∧
    ∀ instruction, accept raw = .ok instruction →
      (∃ fields, raw = .object fields ∧ instruction.toWire = .object (normalFields fields)) ∧
      ∃ again, accept instruction.toWire = .ok again ∧
        again.kind = instruction.kind ∧ again.name = instruction.name ∧
        again.args = instruction.args ∧ again.code = instruction.code ∧
        again.isCall = instruction.isCall ∧ again.isExit = instruction.isExit ∧
        again.exitCode = instruction.exitCode ∧ again.reference = instruction.reference ∧
        again.extras = Value.present instruction.extras ∧
        again.toWire = instruction.toWire := by
  constructor
  · constructor
    · rintro ⟨instruction, accepted⟩
      obtain ⟨fields, kind, shape, -, typed⟩ := eq_object_of_accept accepted
      exact ⟨fields, kind, shape, typed⟩
    · rintro ⟨fields, kind, rfl, typed⟩
      exact ⟨_, accept_object (readable fields rfl) typed⟩
  · intro instruction accepted
    obtain ⟨fields, -, rfl, -, -⟩ := eq_object_of_accept accepted
    refine ⟨⟨fields, rfl, ?_⟩, _, accept_toWire ⟨_, accepted⟩, rfl, rfl, rfl, rfl, rfl, rfl, rfl,
      rfl, rfl, ?_⟩
    · rw [toWire, wireFields_of_accept accepted]
    · -- the extras that are written are those that are not null, before and after
      rw [toWire, toWire, wireFields, wireFields, List.filter_append, List.filter_append]
      exact congrArg (fun extras => Value.object (_ ++ extras))
        (Value.present_present instruction.extras)

/-- Known fields out of order, a null among them and one among the others, and a null inside a
value that is kept. An object whose type is a number is refused. -/
theorem wire_form_is_normal_mixed :
    let nested : Value := .array [.null, .object [(text "b", .null), (text "a", .bool true)]]
    let raw : Value := .object
      [(text "z", .null), (text "code", .int 3), (text "y", nested), (text "name", .null),
        (text "type", .string (text "jexit")), (text "x", .bool false)]
    (∃ instruction, accept raw = .ok instruction ∧ instruction.toWire = .object
      [(text "type", .string (text "jexit")), (text "code", .int 3), (text "y", nested),
        (text "x", .bool false)]) ∧
    ¬ ∃ instruction, accept (.object [(text "type", .int 1)]) = .ok instruction := by
  intro nested raw
  have readable : ∀ fields, raw = .object fields → Readable fields := by
    intro fields shape
    rw [← Value.object.inj shape, Readable]
    decide
  have readableToo : ∀ fields, Value.object [(text "type", .int 1)] = .object fields →
      Readable fields := by
    intro fields shape
    rw [← Value.object.inj shape, Readable]
    decide
  obtain ⟨accepts, normal⟩ := wire_form_is_normal raw readable
  obtain ⟨instruction, accepted⟩ := accepts.mpr ⟨_, text "jexit", rfl, rfl⟩
  obtain ⟨⟨fields, shape, written⟩, -⟩ := normal instruction accepted
  rw [← Value.object.inj shape] at written
  refine ⟨⟨instruction, accepted, written.trans rfl⟩, fun refused => ?_⟩
  obtain ⟨_, _, ⟨⟩, typed⟩ := (wire_form_is_normal _ readableToo).1.mp refused
  cases typed

end Instruction

end Switchboard
