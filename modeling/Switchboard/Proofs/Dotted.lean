import Mathlib.Data.List.TakeWhile
import Switchboard.Reference

/-!
# Names with dots

A name is split at its dots. `Reference.split_plain` is about names without a dot, and
`Reference.split_dotted` about all others: the first two segments count, and what follows them
is passed over.
-/

namespace Switchboard.Reference

variable {first second name : Text}

/-! ## Segments -/

theorem ne_dot_of_plain (plain : dot ∉ first) :
    ∀ point ∈ first, decide (point ≠ dot) = true := by
  intro point member
  rw [decide_eq_true_eq]
  rintro rfl
  exact plain member

/-- A segment ends at the end of the name or at a dot. -/
theorem segment_append (plain : dot ∉ first) {tail : Text}
    (ends : ∀ point ∈ tail.head?, point = dot) : segment (first ++ tail) = first := by
  rw [segment, List.takeWhile_append_of_pos (ne_dot_of_plain plain)]
  cases tail with
  | nil => exact List.append_nil first
  | cons point rest => rw [ends point rfl, List.takeWhile_cons_of_neg (by simp), List.append_nil]

/-- Nothing follows a segment that is the whole name. -/
theorem afterDot?_plain (plain : dot ∉ name) : afterDot? name = none := by
  rw [afterDot?, List.dropWhile_eq_nil_iff.mpr (ne_dot_of_plain plain)]

/-- The rest of a name begins behind its first dot. -/
theorem afterDot?_dotted (plain : dot ∉ first) (rest : Text) :
    afterDot? (first ++ dot :: rest) = some rest := by
  rw [afterDot?, List.dropWhile_append_of_pos (ne_dot_of_plain plain),
    List.dropWhile_cons_of_neg (by simp)]

/-! ## Splitting -/

/-- A name without a dot has no function part. -/
theorem split_plain (plain : dot ∉ name) : split name = (name, none) := by
  have whole : segment (name ++ []) = name := segment_append plain nofun
  rw [List.append_nil] at whole
  rw [split, whole, afterDot?_plain plain, Option.map_none]

/-- A name with a dot has both parts, whatever stands behind the second dot. -/
theorem split_dotted (plain : dot ∉ first) (plainToo : dot ∉ second) {tail : Text}
    (ends : ∀ point ∈ tail.head?, point = dot) :
    split (first ++ dot :: (second ++ tail)) = (first, some second) := by
  have before : segment (first ++ dot :: (second ++ tail)) = first :=
    segment_append plain fun point here => (Option.mem_some_iff.mp here).symm
  rw [split, before, afterDot?_dotted plain, Option.map_some, segment_append plainToo ends]

/-- A name has a function part exactly when there is a dot in it. -/
theorem split_of_mem (dotted : dot ∈ name) :
    ∃ function, split name = (name.takeWhile (· ≠ dot), some function) := by
  obtain ⟨before, rest, rfl, plain⟩ := List.eq_append_cons_of_mem dotted
  refine ⟨segment rest, ?_⟩
  rw [split, afterDot?_dotted plain, Option.map_some]
  rfl

end Switchboard.Reference
