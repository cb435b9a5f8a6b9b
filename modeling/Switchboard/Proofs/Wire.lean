import Switchboard.Instruction

/-!
# Reading back what was written

An instruction that was read from a value is written without its null fields and in a fixed
order. `Instruction.accept_toWire` says that reading the written form gives the instruction
back, but for the null fields among its extras.
-/

namespace Switchboard

namespace Value

theorem isPresent_eq_false {value : Value} (absent : value.isPresent = false) : value = .null := by
  cases value with
  | null => rfl
  | bool | int | float | string | array | object => cases absent

/-- The fields that are not null. -/
abbrev present (fields : Pairs Value) : Pairs Value := fields.filter fun field => field.2.isPresent

/-- A field under another key does not matter. -/
theorem fieldOrNull_present_other {name key : Text} (different : name ≠ key) (value : Value)
    (rest : Pairs Value) :
    fieldOrNull (present ((name, value) :: rest)) key = fieldOrNull (present rest) key := by
  cases kept : value.isPresent with
  | false => simp [present, kept]
  | true => simp [present, kept, fieldOrNull, Pairs.get?, different]

/-- The only field under a key can be read there, also when it was null and is left out. -/
theorem fieldOrNull_present_same {key : Text} (value : Value) {rest : Pairs Value}
    (only : fieldOrNull (present rest) key = .null) :
    fieldOrNull (present ((key, value) :: rest)) key = value := by
  cases kept : value.isPresent with
  | false =>
    rw [isPresent_eq_false kept]
    exact only
  | true => simp [present, kept, fieldOrNull, Pairs.get?]

/-- Nothing stands under a key that no field has. -/
theorem fieldOrNull_eq_null {fields : Pairs Value} {key : Text} (absent : key ∉ fields.keys) :
    fieldOrNull fields key = .null := by
  have missing : fields.get? key = none := by
    cases found : fields.get? key with
    | none => rfl
    | some value =>
      have listed := (Pairs.get?_isSome_iff fields key).mp (by rw [found]; rfl)
      exact absurd listed absent
  rw [fieldOrNull, missing, Option.getD_none]

end Value

namespace Instruction

/-- Keys that can be read: none of them has a lone surrogate in it. -/
def Readable (fields : Pairs Value) : Prop := ∀ field ∈ fields, field.1.hasSurrogate = false

theorem any_hasSurrogate_eq_false {fields : Pairs Value} (readable : Readable fields) :
    (fields.any fun field => field.1.hasSurrogate) = false := by
  simpa [Readable, List.any_eq_false] using readable

/-- An object with readable keys and a string for its type is accepted, whatever its other
fields are. -/
theorem accept_object {fields : Pairs Value} {kind : Text} (readable : Readable fields)
    (typed : fields.get? (text "type") = some (.string kind)) :
    accept (.object fields) = .ok
      { kind
        name := Value.fieldOrNull fields (text "name")
        args := Value.fieldOrNull fields (text "args")
        code := Value.fieldOrNull fields (text "code")
        extras := fields.filter fun field => !knownKeys.contains field.1 } := by
  have unspoiled := any_hasSurrogate_eq_false readable
  simp only [accept, unspoiled, typed, Bool.false_eq_true, if_false]

/-- Nothing else is accepted. -/
theorem eq_object_of_accept {value : Value} {instruction : Instruction}
    (accepted : accept value = .ok instruction) :
    ∃ fields kind, value = .object fields ∧ Readable fields ∧
      Pairs.get? fields (text "type") = some (.string kind) := by
  cases value with
  | object fields =>
    simp only [accept] at accepted
    split at accepted
    · cases accepted
    · next spoiled =>
      have readable : Readable fields := by
        simpa only [Readable, List.any_eq_true, not_exists, not_and, Bool.not_eq_true] using spoiled
      split at accepted
      · cases accepted
      · next kind typed => exact ⟨fields, kind, rfl, readable, typed⟩
      · cases accepted
  | null | bool | int | float | string | array => cases accepted

/-- An instruction that was read from some value. -/
def Genuine (instruction : Instruction) : Prop := ∃ value, accept value = .ok instruction

/-- The extras of an instruction that was read have readable keys, and none that is known. -/
theorem Genuine.extras {instruction : Instruction} (genuine : instruction.Genuine) :
    Readable instruction.extras ∧ ∀ key ∈ knownKeys, key ∉ instruction.extras.keys := by
  obtain ⟨value, accepted⟩ := genuine
  obtain ⟨fields, kind, rfl, readable, typed⟩ := eq_object_of_accept accepted
  rw [accept_object readable typed] at accepted
  cases accepted
  constructor
  · intro field member
    exact readable field (List.mem_filter.mp member).1
  · intro key known listed
    obtain ⟨field, member, rfl⟩ := List.mem_map.mp listed
    have unknown := (List.mem_filter.mp member).2
    rw [List.contains_iff_mem.mpr known] at unknown
    cases unknown

/-- What is written can be read back, and only the null extras are gone. -/
theorem accept_toWire {instruction : Instruction} (genuine : instruction.Genuine) :
    accept instruction.toWire =
      .ok { instruction with extras := Value.present instruction.extras } := by
  obtain ⟨readable, unknown⟩ := genuine.extras
  have written : Readable instruction.wireFields := by
    intro field member
    have among := (List.mem_filter.mp member).1
    simp only [List.mem_append, List.mem_cons, List.not_mem_nil, or_false] at among
    rcases among with (rfl | rfl | rfl | rfl) | extra
    · rfl
    · rfl
    · rfl
    · rfl
    · exact readable field extra
  have typed : instruction.wireFields.get? (text "type") = some (.string instruction.kind) := rfl
  have unread : ∀ key ∈ knownKeys,
      Value.fieldOrNull (Value.present instruction.extras) key = .null := by
    intro key known
    refine Value.fieldOrNull_eq_null fun listed => unknown key known ?_
    obtain ⟨field, member, rfl⟩ := List.mem_map.mp listed
    exact List.mem_map_of_mem (List.mem_filter.mp member).1
  have name : Value.fieldOrNull instruction.wireFields (text "name") = instruction.name := by
    refine (Value.fieldOrNull_present_other (by decide) _ _).trans ?_
    refine Value.fieldOrNull_present_same _ ?_
    refine (Value.fieldOrNull_present_other (by decide) _ _).trans ?_
    refine (Value.fieldOrNull_present_other (by decide) _ _).trans ?_
    exact unread _ (by decide)
  have args : Value.fieldOrNull instruction.wireFields (text "args") = instruction.args := by
    refine (Value.fieldOrNull_present_other (by decide) _ _).trans ?_
    refine (Value.fieldOrNull_present_other (by decide) _ _).trans ?_
    refine Value.fieldOrNull_present_same _ ?_
    refine (Value.fieldOrNull_present_other (by decide) _ _).trans ?_
    exact unread _ (by decide)
  have code : Value.fieldOrNull instruction.wireFields (text "code") = instruction.code := by
    refine (Value.fieldOrNull_present_other (by decide) _ _).trans ?_
    refine (Value.fieldOrNull_present_other (by decide) _ _).trans ?_
    refine (Value.fieldOrNull_present_other (by decide) _ _).trans ?_
    exact Value.fieldOrNull_present_same _ (unread _ (by decide))
  have extras : (instruction.wireFields.filter fun field => !knownKeys.contains field.1) =
      Value.present instruction.extras := by
    rw [wireFields, List.filter_filter, List.filter_append]
    refine (List.nil_append _).trans (List.filter_congr fun field member => ?_)
    have other : knownKeys.contains field.1 = false := by
      rw [← Bool.not_eq_true, List.contains_iff_mem]
      exact fun known => unknown _ known (List.mem_map_of_mem member)
    rw [other, Bool.not_false, Bool.true_and]
  rw [toWire, accept_object written typed, name, args, code, extras]

end Instruction

end Switchboard
