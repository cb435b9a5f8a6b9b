import Switchboard.Text

/-!
# Suggestions

A misspelt name is answered with the known names that resemble it. Resemblance is measured by
matching blocks: the longest common stretch of two words, then in the same way the parts
before it and the parts after it. Two words are close when twice the matched length is at
least six tenths of both lengths together.
-/

namespace Switchboard.CommandLine

/-- The length of the common beginning of two words. -/
def commonLength : Text → Text → Nat
  | a :: as, b :: bs => if a = b then commonLength as bs + 1 else 0
  | _, _ => 0

/-- A stretch that two words share: where it begins in each, and its length. -/
structure Block where
  first : Nat
  second : Nat
  length : Nat

/-- The longest shared stretch; of equally long ones the earliest in the first word, and then
in the second. -/
def longestBlock (a b : Text) : Block :=
  let starts := (List.range a.length).flatMap fun i => (List.range b.length).map fun j => (i, j)
  starts.foldl (fun best (i, j) =>
    let length := commonLength (a.drop i) (b.drop j)
    if best.length < length then ⟨i, j, length⟩ else best) ⟨0, 0, 0⟩

/-- The total length of the matching blocks; `fuel` bounds their number. -/
def matchedLength : (fuel : Nat) → Text → Text → Nat
  | 0, _, _ => 0
  | fuel + 1, a, b =>
      let block := longestBlock a b
      if block.length = 0 then 0
      else
        matchedLength fuel (a.take block.first) (b.take block.second) + block.length +
          matchedLength fuel (a.drop (block.first + block.length))
            (b.drop (block.second + block.length))

/-- A known name and how well it matches: matched and total length. -/
structure Candidate where
  name : Text
  matched : Nat
  total : Nat

/-- Compare a known name with a word. -/
def Candidate.of (word name : Text) : Candidate :=
  ⟨name, matchedLength (name.length + 1) name word, name.length + word.length⟩

/-- Whether the name is close to the word. -/
def Candidate.isClose (candidate : Candidate) : Bool :=
  3 * candidate.total ≤ 10 * candidate.matched

/-- Whether a candidate comes before another: the better match, then the later name. -/
def Candidate.precedes (first second : Candidate) : Bool :=
  let left := first.matched * second.total
  let right := second.matched * first.total
  right < left || (left == right && Text.le second.name first.name)

/-- The best three of the names that are close to a word, in code point order. -/
def suggestions (word : Text) (names : List Text) : List Text :=
  let close := (names.map (Candidate.of word)).filter Candidate.isClose
  Text.sort (((close.mergeSort Candidate.precedes).take 3).map Candidate.name)

end Switchboard.CommandLine
