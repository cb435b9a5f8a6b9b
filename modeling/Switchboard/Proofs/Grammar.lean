import Mathlib
import Switchboard.Json.Reader

/-!
# The grammar of documents

`Document` says which texts are JSON documents and what they denote, by rules that mention no
reader. The rest of this module is about single numbers, strings and constants: the reader takes
them exactly as the rules have them, when what stands behind a number does not continue it.
-/

namespace Switchboard.Json

/-! ## Rules -/

/-- Blanks and nothing else. -/
def Blanks (source : Text) : Prop := ∀ point ∈ source, isBlank point = true

/-- One digit or more. -/
structure Digits (source : Text) : Prop where
  nonempty : source ≠ []
  each : ∀ point ∈ source, Decimal.isDigit point = true

/-- The digits before a point: a zero alone, or digits that begin with another. -/
inductive Whole : Text → Prop where
  | zero : Whole [.scalar '0']
  | digits {source : Text} (digits : Digits source)
      (leading : source.head? ≠ some (.scalar '0')) : Whole source

/-- A fraction, which may be absent, and its digits. -/
inductive Fraction : Text → Text → Prop where
  | absent : Fraction [] []
  | present {digits : Text} (some : Digits digits) : Fraction (.scalar '.' :: digits) digits

/-- The sign of an exponent, and whether it is negative. -/
inductive ExponentSign : Text → Bool → Prop where
  | none : ExponentSign [] false
  | plus : ExponentSign [.scalar '+'] false
  | minus : ExponentSign [.scalar '-'] true

/-- An exponent, which may be absent, and its value. -/
inductive Exponent : Text → Int → Prop where
  | absent : Exponent [] 0
  | present {letter : Char} {sign digits : Text} {negative : Bool}
      (marked : letter = 'e' ∨ letter = 'E') (signed : ExponentSign sign negative)
      (some : Digits digits) :
      Exponent (.scalar letter :: (sign ++ digits))
        (if negative then -(Decimal.value digits : Int) else Decimal.value digits)

/-- The sign before a number. -/
def minus (negative : Bool) : Text := if negative then [.scalar '-'] else []

/-- A number and its value. Without fraction and exponent it is whole, and then the number of its
digits is limited. -/
inductive Number : Text → Value → Prop where
  | whole {negative : Bool} {digits : Text} (integral : Whole digits)
      (short : digits.length ≤ maxIntegerDigits) :
      Number (minus negative ++ digits)
        (.int (if negative then -(Decimal.value digits : Int) else Decimal.value digits))
  | real {negative : Bool} {whole fraction digits exponent : Text} {power : Int}
      (integral : Whole whole) (fractional : Fraction fraction digits)
      (scaled : Exponent exponent power) (either : fraction ≠ [] ∨ exponent ≠ []) :
      Number (minus negative ++ (whole ++ (fraction ++ exponent)))
        (.float
          (if negative then
            -Decimal.toFloat (Decimal.value (whole ++ digits)) (power - digits.length)
          else Decimal.toFloat (Decimal.value (whole ++ digits)) (power - digits.length)))

/-- What stands between the quotes of a string, and the pieces that it spells. -/
inductive Spells : Text → List Piece → Prop where
  | nil : Spells [] []
  | plain {point : CodePoint} {rest : Text} {pieces : List Piece}
      (quote : point ≠ .scalar '"') (backslash : point ≠ .scalar '\\')
      (printing : 0x20 ≤ point.code) (others : Spells rest pieces) :
      Spells (point :: rest) (.point point :: pieces)
  | letter {letter point : CodePoint} {rest : Text} {pieces : List Piece}
      (escapes : plainEscape? letter = some point) (others : Spells rest pieces) :
      Spells (.scalar '\\' :: letter :: rest) (.point point :: pieces)
  | number {a b c d : CodePoint} {unit : Nat} {rest : Text} {pieces : List Piece}
      (denotes : unit? a b c d = some unit) (others : Spells rest pieces) :
      Spells (.scalar '\\' :: .scalar 'u' :: a :: b :: c :: d :: rest) (.unit unit :: pieces)

/-- A string in quotes, and what it denotes. -/
inductive Quoted : Text → Text → Prop where
  | string {body : Text} {pieces : List Piece} (spells : Spells body pieces) :
      Quoted (.scalar '"' :: (body ++ [.scalar '"'])) (joinPieces pieces)

mutual

/-- A text that denotes a value. -/
inductive Denotes : Text → Value → Prop where
  | constant {name : Text} {value : Value} (known : (name, value) ∈ constants) :
      Denotes name value
  | number {source : Text} {value : Value} (number : Number source value) : Denotes source value
  | string {source content : Text} (quoted : Quoted source content) :
      Denotes source (.string content)
  | emptyArray {blanks : Text} (blank : Blanks blanks) :
      Denotes (.scalar '[' :: (blanks ++ [.scalar ']'])) (.array [])
  | array {blanks members : Text} {items : List Value} (blank : Blanks blanks)
      (listed : Items members items) : Denotes (.scalar '[' :: (blanks ++ members)) (.array items)
  | emptyObject {blanks : Text} (blank : Blanks blanks) :
      Denotes (.scalar '\x7b' :: (blanks ++ [.scalar '\x7d'])) (.object [])
  | object {blanks members : Text} {fields : List (Text × Value)} (blank : Blanks blanks)
      (listed : Fields members fields) :
      Denotes (.scalar '\x7b' :: (blanks ++ members)) (.object (Pairs.ofAssignments fields))

/-- The items of an array with its closing bracket. -/
inductive Items : Text → List Value → Prop where
  | last {source blanks : Text} {item : Value} (denotes : Denotes source item)
      (blank : Blanks blanks) : Items (source ++ (blanks ++ [.scalar ']'])) [item]
  | more {source before behind members : Text} {item : Value} {items : List Value}
      (denotes : Denotes source item) (blank : Blanks before) (blankToo : Blanks behind)
      (others : Items members items) :
      Items (source ++ (before ++ .scalar ',' :: (behind ++ members))) (item :: items)

/-- A field of an object: its key, a colon and its value. -/
inductive Field : Text → Text × Value → Prop where
  | named {name key before behind source : Text} {value : Value} (quoted : Quoted name key)
      (blank : Blanks before) (blankToo : Blanks behind) (denotes : Denotes source value) :
      Field (name ++ (before ++ .scalar ':' :: (behind ++ source))) (key, value)

/-- The fields of an object with its closing brace. -/
inductive Fields : Text → List (Text × Value) → Prop where
  | last {source blanks : Text} {field : Text × Value} (denotes : Field source field)
      (blank : Blanks blanks) : Fields (source ++ (blanks ++ [.scalar '\x7d'])) [field]
  | more {source before behind members : Text} {field : Text × Value}
      {fields : List (Text × Value)} (denotes : Field source field) (blank : Blanks before)
      (blankToo : Blanks behind) (others : Fields members fields) :
      Fields (source ++ (before ++ .scalar ',' :: (behind ++ members))) (field :: fields)

end

/-- A whole document: a value with blanks around it. -/
inductive Document : Text → Value → Prop where
  | padded {before source behind : Text} {value : Value} (blank : Blanks before)
      (denotes : Denotes source value) (blankToo : Blanks behind) :
      Document (before ++ (source ++ behind)) value

/-! ## Blanks and digits -/

/-- The text goes on with none of the points that have a property. -/
def Past (property : CodePoint → Bool) (rest : Text) : Prop :=
  ∀ point, rest.head? = some point → property point = false

theorem past_nil (property : CodePoint → Bool) : Past property [] := nofun

theorem past_cons {property : CodePoint → Bool} {point : CodePoint} {rest : Text}
    (differs : property point = false) : Past property (point :: rest) := by
  rintro _ ⟨⟩
  exact differs

/-- A run of points with a property is taken as a whole when the text goes on with others. -/
theorem takeWhile_run {property : CodePoint → Bool} {run rest : Text}
    (each : ∀ point ∈ run, property point = true) (past : Past property rest) :
    (run ++ rest).takeWhile property = run := by
  induction run with
  | nil =>
    cases rest with
    | nil => rfl
    | cons point rest => simp [past point rfl]
  | cons point run inductionHypothesis =>
    rw [List.cons_append, List.takeWhile_cons_of_pos (each point (by simp)),
      inductionHypothesis fun other member => each other (by simp [member])]

theorem dropWhile_run {property : CodePoint → Bool} {run rest : Text}
    (each : ∀ point ∈ run, property point = true) (past : Past property rest) :
    (run ++ rest).dropWhile property = rest := by
  have whole := List.takeWhile_append_dropWhile (p := property) (l := run ++ rest)
  rw [takeWhile_run each past] at whole
  exact List.append_cancel_left whole

theorem skipBlanks_blanks {blanks rest : Text} (blank : Blanks blanks) (past : Past isBlank rest) :
    skipBlanks (blanks ++ rest) = rest :=
  dropWhile_run blank past

/-- What is skipped are blanks. -/
theorem exists_blanks (source : Text) :
    ∃ blanks, Blanks blanks ∧ source = blanks ++ skipBlanks source :=
  ⟨source.takeWhile isBlank, fun _ => List.mem_takeWhile_imp,
    List.takeWhile_append_dropWhile.symm⟩

theorem spanDigits_digits {digits rest : Text} (some : Digits digits)
    (past : Past Decimal.isDigit rest) : spanDigits (digits ++ rest) = (digits, rest) := by
  rw [spanDigits, takeWhile_run some.each past, dropWhile_run some.each past]

/-- A text begins with digits or it does not. -/
theorem spanDigits_cases (source : Text) :
    (∃ rest, spanDigits source = ([], rest)) ∨
      ∃ first others rest, spanDigits source = (first :: others, rest) ∧
        source = first :: others ++ rest ∧ Digits (first :: others) := by
  have whole := List.takeWhile_append_dropWhile (p := Decimal.isDigit) (l := source)
  have each : ∀ point ∈ source.takeWhile Decimal.isDigit, Decimal.isDigit point = true :=
    fun _ => List.mem_takeWhile_imp
  rw [spanDigits]
  cases digits : source.takeWhile Decimal.isDigit with
  | nil => exact .inl ⟨_, rfl⟩
  | cons first others =>
    rw [digits] at whole each
    exact .inr ⟨first, others, _, rfl, whole.symm, by simp, each⟩

/-! ## Numbers -/

/-- The points that can stand behind a value. -/
def enders : List CodePoint :=
  [.scalar ' ', .scalar '\t', .scalar '\n', .scalar '\r', .scalar ',', .scalar ']', .scalar '\x7d']

/-- A value can end before this text. -/
def Ends (rest : Text) : Prop := ∀ point, rest.head? = some point → point ∈ enders

theorem Ends.past {rest : Text} (ends : Ends rest) {property : CodePoint → Bool}
    (differ : ∀ point ∈ enders, property point = false) : Past property rest :=
  fun point first => differ point (ends point first)

theorem ends_nil : Ends [] := nofun

theorem ends_cons {point : CodePoint} {rest : Text} (member : point ∈ enders) :
    Ends (point :: rest) := by
  rintro _ ⟨⟩
  exact member

theorem mem_enders_of_isBlank {point : CodePoint} (blank : isBlank point = true) :
    point ∈ enders := by
  unfold isBlank at blank
  split at blank <;> simp_all [enders]

/-- A value can end before blanks and a point that can stand behind it. -/
theorem ends_blanks {blanks rest : Text} (blank : Blanks blanks) (ends : Ends rest) :
    Ends (blanks ++ rest) := by
  cases blanks with
  | nil => exact ends
  | cons point blanks => exact ends_cons (mem_enders_of_isBlank (blank point (by simp)))

theorem Digits.exists_cons {digits : Text} (some : Digits digits) :
    ∃ first others, digits = first :: others ∧ Decimal.isDigit first = true := by
  cases digits with
  | nil => exact absurd rfl some.nonempty
  | cons first others => exact ⟨first, others, rfl, some.each first (by simp)⟩

theorem Whole.some {digits : Text} (whole : Whole digits) : Digits digits := by
  cases whole with
  | zero => exact ⟨by simp, by decide⟩
  | digits some => exact some

/-- The point `expected` does not begin a text that goes on past it. -/
theorem ne_cons_of_past {expected : CodePoint} {rest : Text}
    (past : Past (· = expected) rest) (others : Text) : rest ≠ expected :: others := by
  rintro rfl
  simpa using past expected rfl

theorem splitSign_minus {negative : Bool} {digits : Text} (some : Digits digits) (rest : Text) :
    splitSign (minus negative ++ (digits ++ rest)) = (negative, digits ++ rest) := by
  cases negative with
  | true => rfl
  | false =>
    obtain ⟨first, others, rfl, digit⟩ := some.exists_cons
    change splitSign (first :: (others ++ rest)) = _
    unfold splitSign
    split
    · next head => cases head; cases digit
    · rfl

theorem integerPart?_whole {digits rest : Text} (whole : Whole digits)
    (past : Past Decimal.isDigit rest) : integerPart? (digits ++ rest) = some (digits, rest) := by
  cases whole with
  | zero => rfl
  | digits some leading =>
    have spanned := spanDigits_digits some past
    obtain ⟨first, others, rfl, digit⟩ := some.exists_cons
    unfold integerPart?
    split
    · next head =>
      cases head
      exact absurd rfl leading
    · rw [spanned]

theorem fractionPart?_absent {rest : Text} (past : Past (· = .scalar '.') rest) :
    fractionPart? rest = none := by
  unfold fractionPart?
  split
  · exact absurd rfl (ne_cons_of_past past _)
  · rfl

theorem fractionPart?_present {digits rest : Text} (some : Digits digits)
    (past : Past Decimal.isDigit rest) :
    fractionPart? (.scalar '.' :: (digits ++ rest)) = .some (digits, rest) := by
  have spanned := spanDigits_digits some past
  obtain ⟨first, others, rfl, digit⟩ := some.exists_cons
  simp only [fractionPart?, spanned]

/-- Whether a point begins an exponent. -/
def marksExponent (point : CodePoint) : Bool := point = .scalar 'e' || point = .scalar 'E'

theorem exponentSign_signed {sign digits : Text} {negative : Bool}
    (signed : ExponentSign sign negative) (some : Digits digits) (rest : Text) :
    exponentSign (sign ++ (digits ++ rest)) = (negative, digits ++ rest) := by
  cases signed with
  | plus | minus => rfl
  | none =>
    obtain ⟨first, others, rfl, digit⟩ := some.exists_cons
    change exponentSign (first :: (others ++ rest)) = _
    unfold exponentSign
    split
    · next head => cases head; cases digit
    · next head => cases head; cases digit
    · rfl

theorem exponentPart?_absent {rest : Text} (past : Past marksExponent rest) :
    exponentPart? rest = none := by
  unfold exponentPart?
  split
  · next letter others =>
    have other := past _ rfl
    simp only [marksExponent, CodePoint.scalar.injEq, Bool.or_eq_false_iff,
      decide_eq_false_iff_not] at other
    rw [if_neg (by simpa using other)]
  · rfl

theorem exponentPart?_present {letter : Char} {sign digits rest : Text} {negative : Bool}
    (marked : letter = 'e' ∨ letter = 'E') (signed : ExponentSign sign negative)
    (some : Digits digits) (past : Past Decimal.isDigit rest) :
    exponentPart? (.scalar letter :: (sign ++ (digits ++ rest))) =
      .some (if negative then -(Decimal.value digits : Int) else Decimal.value digits, rest) := by
  have spanned := spanDigits_digits some past
  have split := exponentSign_signed signed some rest
  obtain ⟨first, others, rfl, digit⟩ := some.exists_cons
  simp only [exponentPart?, if_pos marked, split, spanned]

/-- What follows a number goes on with none of the points that would continue it. -/
theorem Exponent.past {exponent rest : Text} {power : Int} (scaled : Exponent exponent power)
    (ends : Ends rest) {property : CodePoint → Bool}
    (differ : ∀ point ∈ .scalar 'e' :: .scalar 'E' :: enders, property point = false) :
    Past property (exponent ++ rest) := by
  cases scaled with
  | absent => exact ends.past fun point member => differ point (by simp [member])
  | present marked =>
    rcases marked with rfl | rfl
    · exact past_cons (differ _ (by simp))
    · exact past_cons (differ _ (by simp))

theorem Fraction.past {fraction digits exponent rest : Text} {power : Int}
    (fractional : Fraction fraction digits) (scaled : Exponent exponent power) (ends : Ends rest) :
    Past Decimal.isDigit (fraction ++ (exponent ++ rest)) := by
  cases fractional with
  | absent => exact scaled.past ends (by decide)
  | present => exact past_cons rfl

/-- The fraction is read with its digits, or it is absent. -/
theorem Fraction.fractionPart? {fraction digits exponent rest : Text} {power : Int}
    (fractional : Fraction fraction digits) (scaled : Exponent exponent power) (ends : Ends rest) :
    Json.fractionPart? (fraction ++ (exponent ++ rest)) =
      if fraction = [] then none else some (digits, exponent ++ rest) := by
  cases fractional with
  | absent => exact fractionPart?_absent (scaled.past ends (by decide))
  | present some => exact fractionPart?_present some (scaled.past ends (by decide))

theorem Exponent.exponentPart? {exponent rest : Text} {power : Int}
    (scaled : Exponent exponent power) (ends : Ends rest) :
    Json.exponentPart? (exponent ++ rest) =
      if exponent = [] then none else some (power, rest) := by
  cases scaled with
  | absent => exact exponentPart?_absent (ends.past (by decide))
  | present marked signed some =>
    rw [List.cons_append, List.append_assoc,
      exponentPart?_present marked signed some (ends.past (by decide))]
    rfl

/-- Numbers are read. -/
theorem Number.readNumber {source rest : Text} {value : Value} (number : Number source value)
    (ends : Ends rest) : Json.readNumber (source ++ rest) = .ok (value, rest) := by
  cases number with
  | @whole negative digits integral short =>
    have exponent : Json.exponentPart? rest = none := Exponent.absent.exponentPart? ends
    have fraction : Json.fractionPart? rest = none :=
      Fraction.absent.fractionPart? Exponent.absent ends
    rw [List.append_assoc]
    simp only [Json.readNumber, splitSign_minus integral.some,
      integerPart?_whole integral (ends.past (by decide)), fraction, Option.elim_none, exponent,
      if_neg (Nat.not_lt.mpr short)]
  | @real negative whole fraction digits exponent power integral fractional scaled either =>
    have exponentRead := scaled.exponentPart? ends
    have fractionRead := fractional.fractionPart? scaled ends
    rw [List.append_assoc, List.append_assoc, List.append_assoc]
    simp only [Json.readNumber, splitSign_minus integral.some,
      integerPart?_whole integral (fractional.past scaled ends), fractionRead]
    by_cases unfractioned : fraction = []
    · cases fractional with
      | present => cases unfractioned
      | absent =>
        have given : exponent ≠ [] := either.resolve_left fun other => other rfl
        rw [if_neg given] at exponentRead
        simp [exponentRead]
    · rw [if_neg unfractioned]
      by_cases unscaled : exponent = []
      · cases scaled with
        | present => cases unscaled
        | absent =>
          rw [if_pos rfl, List.nil_append] at exponentRead
          simp [exponentRead]
      · rw [if_neg unscaled] at exponentRead
        simp [exponentRead]

theorem splitSign_eq {source unsigned : Text} {negative : Bool}
    (signed : splitSign source = (negative, unsigned)) : source = minus negative ++ unsigned := by
  unfold splitSign at signed
  split at signed <;> cases signed <;> rfl

theorem integerPart?_eq_some {source whole rest : Text}
    (found : integerPart? source = some (whole, rest)) : source = whole ++ rest ∧ Whole whole := by
  unfold integerPart? at found
  split at found
  · cases found
    exact ⟨rfl, .zero⟩
  · next other =>
    obtain ⟨rest, spanned⟩ | ⟨first, others, rest, spanned, rfl, some⟩ := spanDigits_cases source
    · rw [spanned] at found
      cases found
    · rw [spanned] at found
      cases found
      refine ⟨rfl, .digits some fun zero => ?_⟩
      cases zero
      exact other _ rfl

/-- The fraction at the beginning of a text, with what is read of it. -/
theorem exists_fraction (source : Text) :
    ∃ fraction, source = fraction ++ (fractionPart? source).elim source Prod.snd ∧
      Fraction fraction (((fractionPart? source).map Prod.fst).getD []) ∧
      (fraction = [] → fractionPart? source = none) := by
  cases found : fractionPart? source with
  | none => exact ⟨[], rfl, .absent, fun _ => rfl⟩
  | some part =>
    unfold fractionPart? at found
    split at found
    · next behind =>
      obtain ⟨rest, spanned⟩ | ⟨first, others, rest, spanned, rfl, some⟩ :=
        spanDigits_cases behind
      · rw [spanned] at found
        cases found
      · rw [spanned] at found
        cases found
        exact ⟨_, rfl, .present some, nofun⟩
    · cases found

theorem exponentSign_eq (source : Text) :
    ∃ sign, source = sign ++ (exponentSign source).2 ∧
      ExponentSign sign (exponentSign source).1 := by
  unfold exponentSign
  split
  · exact ⟨[.scalar '-'], rfl, .minus⟩
  · exact ⟨[.scalar '+'], rfl, .plus⟩
  · exact ⟨[], rfl, .none⟩

/-- The exponent at the beginning of a text, with what is read of it. -/
theorem exists_exponent (source : Text) :
    ∃ exponent, source = exponent ++ (exponentPart? source).elim source Prod.snd ∧
      Exponent exponent (((exponentPart? source).map Prod.fst).getD 0) ∧
      (exponent = [] → exponentPart? source = none) := by
  cases found : exponentPart? source with
  | none => exact ⟨[], rfl, .absent, fun _ => rfl⟩
  | some part =>
    unfold exponentPart? at found
    split at found
    · next letter behind =>
      split at found
      · next marked =>
        obtain ⟨sign, whole, signed⟩ := exponentSign_eq behind
        obtain ⟨rest, spanned⟩ | ⟨first, others, rest, spanned, digits, some⟩ :=
          spanDigits_cases (exponentSign behind).2
        · simp only [spanned] at found
          cases found
        · simp only [spanned] at found
          cases found
          refine ⟨.scalar letter :: (sign ++ first :: others), ?_, .present marked signed some,
            nofun⟩
          rw [Option.elim_some, List.cons_append, List.append_assoc, ← digits, ← whole]
      · cases found
    · cases found

/-- What is read as a number is one. -/
theorem number_of_readNumber {source rest : Text} {value : Value}
    (read : readNumber source = .ok (value, rest)) :
    ∃ taken, source = taken ++ rest ∧ Number taken value := by
  rcases signed : splitSign source with ⟨negative, unsigned⟩
  simp only [readNumber, signed] at read
  cases integral : integerPart? unsigned with
  | none =>
    rw [integral] at read
    cases read
  | some part =>
    obtain ⟨whole, behind⟩ := part
    obtain ⟨rfl, wholes⟩ := integerPart?_eq_some integral
    obtain ⟨fraction, fractioned, fractional, unfractioned⟩ := exists_fraction behind
    obtain ⟨exponent, powered, scaled, unscaled⟩ :=
      exists_exponent ((fractionPart? behind).elim behind Prod.snd)
    simp only [integral] at read
    rw [splitSign_eq signed]
    split at read
    · split at read
      · cases read
      · next short =>
        cases read
        refine ⟨minus negative ++ whole, (List.append_assoc _ _ _).symm, .whole wholes ?_⟩
        exact Nat.not_lt.mp short
    · next other =>
      cases read
      refine ⟨minus negative ++ (whole ++ (fraction ++ exponent)), ?_,
        .real wholes fractional scaled ?_⟩
      · rw [List.append_assoc, List.append_assoc, List.append_assoc, ← powered, ← fractioned]
      · by_contra neither
        rw [not_or, not_not, not_not] at neither
        exact other (unfractioned neither.1) (unscaled neither.2)

/-! ## Strings -/

/-- A sequence of readings that succeeds does so in both parts. -/
theorem exists_of_bind_eq_ok {α β : Type} {first : Except Fault α} {next : α → Except Fault β}
    {value : β} (read : first >>= next = .ok value) :
    ∃ middle, first = .ok middle ∧ next middle = .ok value := by
  cases first with
  | error fault => cases read
  | ok middle => exact ⟨middle, rfl, read⟩

/-- Reading goes on behind a piece. -/
theorem readPieces_plain {opening rest : Text} {point : CodePoint} (quote : point ≠ .scalar '"')
    (backslash : point ≠ .scalar '\\') (printing : 0x20 ≤ point.code) :
    readPieces opening (point :: rest) =
      (readPieces opening rest).map fun read => (.point point :: read.1, read.2) := by
  rw [readPieces.eq_def]
  dsimp only
  rw [if_neg quote, if_neg backslash, if_neg (Nat.not_lt.mpr printing)]
  cases readPieces opening rest <;> rfl

theorem readPieces_letter {opening rest : Text} {letter point : CodePoint}
    (escapes : plainEscape? letter = some point) :
    readPieces opening (.scalar '\\' :: letter :: rest) =
      (readPieces opening rest).map fun read => (.point point :: read.1, read.2) := by
  rw [readPieces.eq_def]
  dsimp only
  rw [if_neg (by decide), if_pos rfl]
  split
  · next head => cases head
  · next head => cases head; cases escapes
  · next head => cases head; cases escapes
  · next head =>
    cases head
    rw [escapes]
    cases readPieces opening rest <;> rfl

theorem readPieces_number {opening rest : Text} {a b c d : CodePoint} {unit : Nat}
    (denotes : unit? a b c d = some unit) (nonempty : rest ≠ []) :
    readPieces opening (.scalar '\\' :: .scalar 'u' :: a :: b :: c :: d :: rest) =
      (readPieces opening rest).map fun read => (.unit unit :: read.1, read.2) := by
  have filled : rest.isEmpty = false := by simpa using nonempty
  rw [readPieces.eq_def]
  dsimp only
  rw [if_neg (by decide), if_pos rfl]
  simp only [denotes, filled]
  cases readPieces opening rest <;> rfl

/-- What spells pieces is read up to the closing quote. -/
theorem Spells.readPieces {body : Text} {pieces : List Piece} (spells : Spells body pieces)
    (opening rest : Text) :
    Json.readPieces opening (body ++ .scalar '"' :: rest) = .ok (pieces, rest) := by
  induction spells with
  | nil =>
    rw [List.nil_append, Json.readPieces.eq_def]
    rfl
  | plain quote backslash printing _ inductionHypothesis =>
    rw [List.cons_append, readPieces_plain quote backslash printing, inductionHypothesis]
    rfl
  | letter escapes _ inductionHypothesis =>
    rw [List.cons_append, List.cons_append, readPieces_letter escapes, inductionHypothesis]
    rfl
  | number denotes _ inductionHypothesis =>
    rw [List.cons_append, List.cons_append, List.cons_append, List.cons_append, List.cons_append,
      List.cons_append, readPieces_number denotes (by simp), inductionHypothesis]
    rfl

/-- What is read spells its pieces and is closed by a quote. -/
theorem spells_of_readPieces {opening source rest : Text} {pieces : List Piece}
    (read : readPieces opening source = .ok (pieces, rest)) :
    ∃ body, source = body ++ .scalar '"' :: rest ∧ Spells body pieces := by
  fun_induction readPieces opening source generalizing pieces rest with
  | case2 =>
    cases read
    exact ⟨[], rfl, .nil⟩
  | case4 after a b c d unit _ denotes _ inductionHypothesis =>
    obtain ⟨_, others, ⟨⟩⟩ := exists_of_bind_eq_ok read
    obtain ⟨body, rfl, spells⟩ := inductionHypothesis others
    exact ⟨_, rfl, .number denotes spells⟩
  | case8 letter after _ _ point escapes _ inductionHypothesis =>
    obtain ⟨_, others, ⟨⟩⟩ := exists_of_bind_eq_ok read
    obtain ⟨body, rfl, spells⟩ := inductionHypothesis others
    exact ⟨_, rfl, .letter escapes spells⟩
  | case10 point after quote backslash printing inductionHypothesis =>
    obtain ⟨_, others, ⟨⟩⟩ := exists_of_bind_eq_ok read
    obtain ⟨body, rfl, spells⟩ := inductionHypothesis others
    exact ⟨_, rfl, .plain quote backslash (Nat.not_lt.mp printing) spells⟩
  | case1 | case3 | case5 | case6 | case7 | case9 => cases read

/-- A string is read behind its opening quote. -/
theorem Quoted.readString {source content : Text} (quoted : Quoted source content) (rest : Text) :
    ∃ body, source ++ rest = .scalar '"' :: body ∧
      ∀ opening, Json.readString opening body = .ok (content, rest) := by
  cases quoted with
  | @string body pieces spells =>
    refine ⟨body ++ .scalar '"' :: rest, by simp, fun opening => ?_⟩
    rw [Json.readString, spells.readPieces opening rest]
    rfl

/-- What is read behind a quote is a string. -/
theorem quoted_of_readString {opening source rest content : Text}
    (read : readString opening source = .ok (content, rest)) :
    ∃ taken, .scalar '"' :: source = taken ++ rest ∧ Quoted taken content := by
  obtain ⟨⟨pieces, after⟩, found, ⟨⟩⟩ := exists_of_bind_eq_ok read
  obtain ⟨body, rfl, spells⟩ := spells_of_readPieces found
  exact ⟨_, by simp, .string spells⟩

/-! ## Constants and numbers together -/

/-- A number begins with a digit behind its sign. -/
theorem Number.exists_digit {source : Text} {value : Value} (number : Number source value) :
    ∃ negative first others, source = minus negative ++ first :: others ∧
      Decimal.isDigit first = true := by
  cases number with
  | @whole negative digits integral =>
    obtain ⟨first, others, rfl, digit⟩ := integral.some.exists_cons
    exact ⟨negative, first, others, rfl, digit⟩
  | @real negative whole fraction _ exponent _ integral =>
    obtain ⟨first, others, rfl, digit⟩ := integral.some.exists_cons
    exact ⟨negative, first, others ++ (fraction ++ exponent), rfl, digit⟩

/-- No constant begins a number. -/
theorem not_constant {name rest others : Text} {value : Value} {negative : Bool}
    {first : CodePoint} (known : (name, value) ∈ constants) (digit : Decimal.isDigit first = true) :
    minus negative ++ first :: others ≠ name ++ rest := by
  intro same
  simp only [constants, List.mem_cons, Prod.mk.injEq, List.not_mem_nil, or_false] at known
  rcases known with ⟨rfl, -⟩ | ⟨rfl, -⟩ | ⟨rfl, -⟩ | ⟨rfl, -⟩ | ⟨rfl, -⟩ | ⟨rfl, -⟩ <;>
    cases negative <;> cases same <;> cases digit

theorem readScalar_constant {name : Text} {value : Value} (known : (name, value) ∈ constants)
    (rest : Text) : readScalar (name ++ rest) = .ok (value, rest) := by
  simp only [constants, List.mem_cons, Prod.mk.injEq, List.not_mem_nil, or_false] at known
  rcases known with ⟨rfl, rfl⟩ | ⟨rfl, rfl⟩ | ⟨rfl, rfl⟩ | ⟨rfl, rfl⟩ | ⟨rfl, rfl⟩ | ⟨rfl, rfl⟩ <;>
    rfl

/-- What begins like a number is read as one. -/
theorem readScalar_eq_readNumber {negative : Bool} {first : CodePoint}
    (digit : Decimal.isDigit first = true) (others : Text) :
    readScalar (minus negative ++ first :: others) =
      readNumber (minus negative ++ first :: others) := by
  have unknown : (constants.findSome? fun entry =>
      (entry.1.dropOpening? (minus negative ++ first :: others)).map
        fun rest => (entry.2, rest)) = none := by
    rw [List.findSome?_eq_none_iff]
    rintro ⟨name, value⟩ known
    cases found : name.dropOpening? (minus negative ++ first :: others) with
    | none => rfl
    | some behind =>
      exact absurd (Text.dropOpening?_eq_some_iff.mp found) (not_constant known digit)
  rw [readScalar, unknown]

theorem readScalar_number {source rest : Text} {value : Value} (number : Number source value)
    (ends : Ends rest) : readScalar (source ++ rest) = .ok (value, rest) := by
  have read := number.readNumber ends
  obtain ⟨negative, first, others, rfl, digit⟩ := number.exists_digit
  rw [List.append_assoc, List.cons_append] at read ⊢
  rw [readScalar_eq_readNumber digit, read]

/-- What is read as a scalar is a constant or a number. -/
theorem denotes_of_readScalar {source rest : Text} {value : Value}
    (read : readScalar source = .ok (value, rest)) :
    ∃ taken, source = taken ++ rest ∧ Denotes taken value := by
  simp only [readScalar] at read
  split at read
  · next reading found =>
    cases read
    obtain ⟨⟨name, constant⟩, known, dropped⟩ := List.exists_of_findSome?_eq_some found
    obtain ⟨behind, opened, ⟨⟩⟩ := Option.map_eq_some_iff.mp dropped
    exact ⟨name, Text.dropOpening?_eq_some_iff.mp opened, .constant known⟩
  · obtain ⟨taken, whole, number⟩ := number_of_readNumber read
    exact ⟨taken, whole, .number number⟩

end Switchboard.Json
