import Switchboard.Text

/-!
# Insertion-ordered tables

`Pairs` is an association list in which a key keeps the place of its first assignment and
the value of its last. `Table` adds the fact that no key occurs twice; `keys_put` says what
an assignment does to the keys, and the table's invariant is read off it.
-/

namespace Switchboard

/-- Values under text keys, in order. -/
abbrev Pairs (α : Type) := List (Text × α)

namespace Pairs

variable {α : Type}

/-- The keys, in order. -/
def keys (pairs : Pairs α) : List Text := pairs.map Prod.fst

/-- The value under `key`. -/
def get? : Pairs α → Text → Option α
  | [], _ => none
  | (name, value) :: rest, key => if name = key then some value else get? rest key

/-- Replace the value under `key` where it stands, or add the key at the end. -/
def put : Pairs α → Text → α → Pairs α
  | [], key, value => [(key, value)]
  | (name, old) :: rest, key, value =>
      if name = key then (name, value) :: rest else (name, old) :: put rest key value

/-- The pairs that repeated assignment leaves: the last value of each key at the place of
its first. -/
def ofAssignments (assignments : List (Text × α)) : Pairs α :=
  assignments.foldl (fun pairs entry => pairs.put entry.1 entry.2) []

/-- Reading after an assignment: the assigned key has the new value, every other key the old
one. -/
theorem get?_put (pairs : Pairs α) (key other : Text) (value : α) :
    (pairs.put key value).get? other = if key = other then some value else pairs.get? other := by
  induction pairs with
  | nil => simp [put, get?]
  | cons entry rest inductionHypothesis =>
    obtain ⟨name, old⟩ := entry
    by_cases same : name = key
    · subst same
      by_cases found : name = other <;> simp [put, get?, found]
    · by_cases found : name = other
      · subst found
        have missed : ¬ key = name := fun equal => same equal.symm
        simp only [put, get?, same, missed, if_false, if_true]
      · simp only [put, get?, same, found, if_false, inductionHypothesis]

/-- A key has a value exactly when it is listed. -/
theorem get?_isSome_iff (pairs : Pairs α) (key : Text) :
    (pairs.get? key).isSome ↔ key ∈ pairs.keys := by
  induction pairs with
  | nil => simp [get?, keys]
  | cons entry rest inductionHypothesis =>
    obtain ⟨name, value⟩ := entry
    by_cases same : name = key
    · simp [get?, keys, same]
    · have other : ¬ key = name := fun equal => same equal.symm
      simp only [keys] at inductionHypothesis
      simp only [get?, keys, same, if_false, List.map_cons, List.mem_cons, other, false_or]
      exact inductionHypothesis

/-- An assignment adds its key at the end unless it is listed. -/
theorem keys_put (pairs : Pairs α) (key : Text) (value : α) :
    (pairs.put key value).keys =
      if key ∈ pairs.keys then pairs.keys else pairs.keys ++ [key] := by
  induction pairs with
  | nil => simp [put, keys]
  | cons entry rest inductionHypothesis =>
    obtain ⟨name, old⟩ := entry
    by_cases same : name = key
    · simp [put, keys, same]
    · have other : ¬ key = name := fun equal => same equal.symm
      have tail : List.map Prod.fst (put rest key value) =
          if key ∈ List.map Prod.fst rest then List.map Prod.fst rest
          else List.map Prod.fst rest ++ [key] := inductionHypothesis
      by_cases inside : key ∈ List.map Prod.fst rest
      · simp only [put, same, keys, if_false, List.map_cons, tail, inside, if_true,
          List.mem_cons, or_true]
      · simp only [put, same, keys, if_false, List.map_cons, tail, inside,
          List.mem_cons, other, or_self, List.cons_append]

/-- An assignment keeps the keys distinct. -/
theorem nodup_keys_put {pairs : Pairs α} (distinct : pairs.keys.Nodup) (key : Text)
    (value : α) : (pairs.put key value).keys.Nodup := by
  rw [keys_put]
  split
  · exact distinct
  · next fresh =>
    refine List.nodup_append.mpr ⟨distinct, by simp, ?_⟩
    intro a inside b single equal
    simp only [List.mem_singleton] at single
    exact fresh (single ▸ equal ▸ inside)

end Pairs

/-- A finite map from texts, in order of first assignment. -/
structure Table (α : Type) where
  entries : Pairs α
  distinct : entries.keys.Nodup

namespace Table

variable {α : Type}

/-- The table without entries. -/
def empty : Table α := ⟨[], List.nodup_nil⟩

instance : Inhabited (Table α) := ⟨empty⟩

/-- The value under `key`. -/
def get? (table : Table α) (key : Text) : Option α := table.entries.get? key

/-- Assign `value` to `key`; a key that is present keeps its place. -/
def put (table : Table α) (key : Text) (value : α) : Table α :=
  ⟨table.entries.put key value, Pairs.nodup_keys_put table.distinct key value⟩

/-- The keys, in order of first assignment. -/
def keys (table : Table α) : List Text := table.entries.keys

/-- The keys, in code point order. -/
def sortedKeys (table : Table α) : List Text := Text.sort table.keys

/-- Whether `key` has a value. -/
def contains (table : Table α) (key : Text) : Bool := (table.get? key).isSome

/-- The number of keys. -/
def size (table : Table α) : Nat := table.entries.length

@[simp] theorem get?_empty (key : Text) : (empty : Table α).get? key = none := rfl

theorem get?_put (table : Table α) (key other : Text) (value : α) :
    (table.put key value).get? other = if key = other then some value else table.get? other :=
  Pairs.get?_put table.entries key other value

theorem contains_iff_mem_keys (table : Table α) (key : Text) :
    table.contains key = true ↔ key ∈ table.keys :=
  Pairs.get?_isSome_iff table.entries key

end Table

end Switchboard
