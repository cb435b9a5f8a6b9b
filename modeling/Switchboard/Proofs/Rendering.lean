import Mathlib
import Switchboard.Json.Writer
import Switchboard.Proofs.Reading
import Switchboard.Text.Newline

/-!
# Reading undoes writing

`Value.Plain` is the data that documents are made of: whole numbers of limited length, text without
lone surrogates, and objects in which no key occurs twice. What is written of plain data denotes it
by the rules of the grammar (`denotes_writeValue`), and so the reader gives it back (`read_write`);
and nothing on the way from a file to the reader changes what is written, since it holds neither
surrogates nor carriage returns (`steady_writeValue`).
-/

namespace Switchboard

/-! ## Plain data -/

/-- Data without fractions, as a document can hold it. -/
inductive Value.Plain : Value → Prop where
  | null : Plain .null
  | bool (flag : Bool) : Plain (.bool flag)
  | int {number : Int}
      (short : (Decimal.ofNat number.natAbs).length ≤ Json.maxIntegerDigits) : Plain (.int number)
  | string {content : Text} (scalars : content.hasSurrogate = false) : Plain (.string content)
  | array {items : List Value} (each : ∀ item ∈ items, Plain item) : Plain (.array items)
  | object {fields : Pairs Value} (distinct : fields.keys.Nodup)
      (named : ∀ field ∈ fields, field.1.hasSurrogate = false)
      (each : ∀ field ∈ fields, Plain field.2) : Plain (.object fields)

/-- A code point is the one with its number. -/
theorem CodePoint.ofCode_code (point : CodePoint) : ofCode point.code = point := by
  cases point with
  | scalar value =>
    have valid : value.toNat.isValidChar := value.valid
    have outside : ¬ (0xD800 ≤ value.toNat ∧ value.toNat < 0xE000) := by
      simp only [Nat.isValidChar] at valid
      omega
    rw [code, ofCode, dif_neg outside, Char.ofNat_toNat]
  | surrogate offset =>
    have inside : 0xD800 ≤ 0xD800 + offset.val ∧ 0xD800 + offset.val < 0xE000 := by omega
    rw [code, ofCode, dif_pos inside]
    simp

namespace Pairs

variable {α : Type}

/-- A new key is added at the end. -/
theorem put_of_notMem {pairs : Pairs α} {key : Text} (fresh : key ∉ pairs.keys) (value : α) :
    pairs.put key value = pairs ++ [(key, value)] := by
  induction pairs with
  | nil => rfl
  | cons entry rest inductionHypothesis =>
    rw [keys, List.map_cons, List.mem_cons, not_or] at fresh
    rw [put, if_neg (Ne.symm fresh.1), inductionHypothesis fresh.2]
    rfl

/-- Assignments to further keys add their pairs in order. -/
theorem foldl_put_of_nodup {pairs others : Pairs α} (distinct : (pairs ++ others).keys.Nodup) :
    others.foldl (fun pairs entry => pairs.put entry.1 entry.2) pairs = pairs ++ others := by
  induction others generalizing pairs with
  | nil => simp
  | cons entry others inductionHypothesis =>
    have fresh : entry.1 ∉ pairs.keys := by
      rw [keys, List.map_append, List.nodup_append] at distinct
      exact fun member => distinct.2.2 _ member entry.1 (by simp) rfl
    rw [List.append_cons] at distinct
    rw [List.foldl_cons, put_of_notMem fresh, inductionHypothesis distinct, ← List.append_cons]

/-- Assignments to distinct keys leave every pair as it is. -/
theorem ofAssignments_of_nodup {fields : Pairs α} (distinct : fields.keys.Nodup) :
    ofAssignments fields = fields :=
  @foldl_put_of_nodup α [] fields distinct

end Pairs

namespace Json

/-! ## Numbers -/

/-- A numeral denotes its number. -/
theorem value_ofNat (number : Nat) : Decimal.value (Decimal.ofNat number) = number := by
  have folded : Decimal.value (Decimal.ofNat number) =
      Nat.ofDigitChars 10 (Nat.toDigits 10 number) 0 := by
    simp only [Decimal.value, Decimal.ofNat, Text.ofChars, List.foldl_map, Nat.ofDigitChars,
      Decimal.digitValue, CodePoint.code, Nat.mul_comm 10]
    rfl
  rw [folded, Nat.ofDigitChars_toDigits (by decide) (by decide)]

theorem digits_ofNat (number : Nat) : Digits (Decimal.ofNat number) where
  nonempty := by
    obtain ⟨first, rest, digits, -⟩ := Decimal.ofNat_eq_cons number
    simp [digits]
  each := by
    intro point member
    obtain ⟨digit, inside, rfl⟩ := List.mem_map.mp member
    exact Nat.isDigit_of_mem_toDigits (by decide) (by decide) inside

/-- The numeral of a positive number does not begin with a zero. -/
theorem head?_toDigits {number : Nat} (positive : 0 < number) :
    (Nat.toDigits 10 number).head? ≠ some '0' := by
  induction number using Nat.strongRecOn with
  | ind number inductionHypothesis =>
    by_cases small : number < 10
    · have each : ∀ digit < 10, 0 < digit → (some digit.digitChar) ≠ some '0' := by decide
      rw [Nat.toDigits_of_lt_base small]
      exact each number small positive
    · rw [Nat.toDigits_of_base_le (by decide) (by omega), List.head?_append_of_ne_nil _
        Nat.toDigits_ne_nil]
      exact inductionHypothesis _ (by omega) (by omega)

theorem whole_ofNat (number : Nat) : Whole (Decimal.ofNat number) := by
  cases number with
  | zero => exact .zero
  | succ number =>
    refine .digits (digits_ofNat _) fun zero => ?_
    rw [Decimal.ofNat, Text.ofChars, List.head?_map, Option.map_eq_some_iff] at zero
    obtain ⟨first, found, ⟨⟩⟩ := zero
    exact head?_toDigits (Nat.succ_pos number) found

/-- A numeral is a number in the grammar. -/
theorem number_ofInt {number : Int}
    (short : (Decimal.ofNat number.natAbs).length ≤ maxIntegerDigits) :
    Number (Decimal.ofInt number) (.int number) := by
  cases number with
  | ofNat number =>
    have derived := @Number.whole false _ (whole_ofNat number) short
    rw [value_ofNat] at derived
    exact derived
  | negSucc number =>
    have derived := @Number.whole true _ (whole_ofNat (number + 1)) short
    rw [value_ofNat] at derived
    exact derived

/-! ## Strings -/

theorem value?_digit {value : Nat} (small : value < 16) :
    Text.Hex.value? (.scalar (Text.Hex.digit value)) = some value := by
  have each : ∀ value < 16, Text.Hex.value? (.scalar (Text.Hex.digit value)) = some value := by
    decide
  exact each value small

/-- An escape by number spells its number. -/
theorem spells_unicodeEscape {unit : Nat} (small : unit < 0x10000) {rest : Text}
    {pieces : List Piece} (others : Spells rest pieces) :
    Spells (unicodeEscape unit ++ rest) (.unit unit :: pieces) := by
  have denotes : unit? (.scalar (Text.Hex.digit (unit / 16 / 16 / 16 % 16)))
      (.scalar (Text.Hex.digit (unit / 16 / 16 % 16))) (.scalar (Text.Hex.digit (unit / 16 % 16)))
      (.scalar (Text.Hex.digit (unit % 16))) = some unit := by
    simp only [unit?, value?_digit (Nat.mod_lt _ (by decide : 0 < 16)), bind, Option.bind]
    refine congrArg some ?_
    omega
  exact .number denotes others

theorem joinPieces_unit {unit : Nat} (single : isHigh unit = false) (pieces : List Piece) :
    joinPieces (.unit unit :: pieces) = .ofCode unit :: joinPieces pieces := by
  cases pieces with
  | nil => rfl
  | cons piece pieces =>
    cases piece with
    | point => rfl
    | unit second => rw [joinPieces, single, Bool.false_and, if_neg Bool.false_ne_true]

theorem joinPieces_pair {high low : Nat} (isHigh : isHigh high = true) (isLow : isLow low = true)
    (pieces : List Piece) :
    joinPieces (.unit high :: .unit low :: pieces) = joinPair high low :: joinPieces pieces := by
  rw [joinPieces, isHigh, isLow]
  rfl

/-- A text in a string spells a point and then what the text behind it spells. -/
def SpellsBefore (written : Text) (point : CodePoint) : Prop :=
  ∀ rest pieces, Spells rest pieces →
    ∃ more, Spells (written ++ rest) more ∧ joinPieces more = point :: joinPieces pieces

theorem spellsBefore_letter {letter point : CodePoint} (escapes : plainEscape? letter = some point) :
    SpellsBefore [.scalar '\\', letter] point :=
  fun _ _ others => ⟨_, .letter escapes others, rfl⟩

theorem spellsBefore_plain {point : CodePoint} (quote : point ≠ .scalar '"')
    (backslash : point ≠ .scalar '\\') (printing : 0x20 ≤ point.code) :
    SpellsBefore [point] point :=
  fun _ _ others => ⟨_, .plain quote backslash printing others, rfl⟩

/-- A character of the first plane is spelt by its own number. -/
theorem spellsBefore_basic {value : Char} (basic : value.toNat < 0x10000) :
    SpellsBefore (unicodeEscape value.toNat) (.scalar value) := by
  intro rest pieces others
  have valid : value.toNat.isValidChar := value.valid
  have single : isHigh value.toNat = false := by
    simp only [Nat.isValidChar] at valid
    simp only [isHigh, Bool.and_eq_false_iff, decide_eq_false_iff_not]
    omega
  have same : CodePoint.ofCode value.toNat = .scalar value := CodePoint.ofCode_code (.scalar value)
  refine ⟨_, spells_unicodeEscape basic others, ?_⟩
  rw [joinPieces_unit single, same]

/-- A character beyond the first plane is spelt by the two halves of its pair. -/
theorem spellsBefore_pair {value : Char} (beyond : 0x10000 ≤ value.toNat) :
    SpellsBefore (unicodeEscape (0xD800 + (value.toNat - 0x10000) / 0x400) ++
      unicodeEscape (0xDC00 + (value.toNat - 0x10000) % 0x400)) (.scalar value) := by
  intro rest pieces others
  have valid : value.toNat.isValidChar := value.valid
  simp only [Nat.isValidChar] at valid
  have high : isHigh (0xD800 + (value.toNat - 0x10000) / 0x400) = true := by
    simp only [isHigh, Bool.and_eq_true, decide_eq_true_eq]
    omega
  have low : isLow (0xDC00 + (value.toNat - 0x10000) % 0x400) = true := by
    simp only [isLow, Bool.and_eq_true, decide_eq_true_eq]
    omega
  have joined : joinPair (0xD800 + (value.toNat - 0x10000) / 0x400)
      (0xDC00 + (value.toNat - 0x10000) % 0x400) = .scalar value := by
    have number : 0x10000 + (0xD800 + (value.toNat - 0x10000) / 0x400 - 0xD800) * 0x400 +
        (0xDC00 + (value.toNat - 0x10000) % 0x400 - 0xDC00) = value.toNat := by omega
    rw [joinPair, number, Char.ofNat_toNat]
  rw [List.append_assoc]
  refine ⟨_, spells_unicodeEscape (by omega) (spells_unicodeEscape (by omega) others), ?_⟩
  rw [joinPieces_pair high low, joined]

/-- What is written of a scalar spells it, whatever follows. -/
theorem spellsBefore_escapePoint {point : CodePoint} (scalar : point.isSurrogate = false) :
    SpellsBefore (escapePoint point) point := by
  by_cases quote : point = .scalar '"'
  · rw [quote]
    exact @spellsBefore_letter (.scalar '"') _ rfl
  by_cases backslash : point = .scalar '\\'
  · rw [backslash]
    exact @spellsBefore_letter (.scalar '\\') _ rfl
  by_cases lineFeed : point = .scalar '\n'
  · rw [lineFeed]
    exact @spellsBefore_letter (.scalar 'n') _ rfl
  by_cases carriageReturn : point = .scalar '\r'
  · rw [carriageReturn]
    exact @spellsBefore_letter (.scalar 'r') _ rfl
  by_cases tab : point = .scalar '\t'
  · rw [tab]
    exact @spellsBefore_letter (.scalar 't') _ rfl
  by_cases backspace : point = .scalar '\x08'
  · rw [backspace]
    exact @spellsBefore_letter (.scalar 'b') _ rfl
  by_cases formFeed : point = .scalar '\x0c'
  · rw [formFeed]
    exact @spellsBefore_letter (.scalar 'f') _ rfl
  rw [escapePoint, if_neg quote, if_neg backslash, if_neg lineFeed, if_neg carriageReturn,
    if_neg tab, if_neg backspace, if_neg formFeed]
  split
  · next printing => exact spellsBefore_plain quote backslash printing.1
  · cases point with
    | surrogate => cases scalar
    | scalar value =>
      split
      · next basic => exact spellsBefore_basic basic
      · next beyond => exact spellsBefore_pair (Nat.not_lt.mp beyond)

/-- A written string denotes its content. -/
theorem quoted_writeString {content : Text} (scalars : content.hasSurrogate = false) :
    Quoted (writeString content) content := by
  have spelled : ∃ pieces, Spells (content.flatMap escapePoint) pieces ∧
      joinPieces pieces = content := by
    induction content with
    | nil => exact ⟨[], .nil, rfl⟩
    | cons point content inductionHypothesis =>
      rw [Text.hasSurrogate, List.any_cons, Bool.or_eq_false_iff] at scalars
      obtain ⟨pieces, spells, joined⟩ := inductionHypothesis scalars.2
      obtain ⟨more, spellsToo, joinedToo⟩ := spellsBefore_escapePoint scalars.1 _ _ spells
      exact ⟨more, spellsToo, by rw [joinedToo, joined]⟩
  obtain ⟨pieces, spells, joined⟩ := spelled
  have derived := Quoted.string spells
  rw [joined] at derived
  exact derived

/-! ## Layout -/

theorem blanks_nil : Blanks [] := nofun

theorem blanks_space : Blanks [.scalar ' '] := by simp [Blanks, isBlank]

theorem blanks_lineBreak (level : Nat) : Blanks (lineBreak level) := by
  intro point member
  rcases List.mem_cons.mp member with rfl | space
  · rfl
  · rw [List.eq_of_mem_replicate space]
    rfl

/-- Items that denote themselves where they stand are the items of an array. -/
theorem items_written {level : Nat} (outer : Nat) {item : Value} {rest : List Value}
    (each : ∀ other ∈ item :: rest, Denotes (writeValue level other) other) :
    Items (writeValue level item ++ (writeItems level rest ++ (lineBreak outer ++ text "]")))
      (item :: rest) := by
  induction rest generalizing item with
  | nil =>
    rw [writeItems]
    exact .last (each item (by simp)) (blanks_lineBreak outer)
  | cons next rest inductionHypothesis =>
    have others := inductionHypothesis fun other member => each other (.tail _ member)
    have derived := Items.more (each item (by simp)) blanks_nil (blanks_lineBreak level) others
    rw [writeItems]
    simpa [text] using derived

/-- A field is written as its key, a colon and its value. -/
theorem field_written {level : Nat} {key : Text} {value : Value}
    (named : key.hasSurrogate = false) (denotes : Denotes (writeValue level value) value) :
    Field (writeString key ++ (text ": " ++ writeValue level value)) (key, value) :=
  .named (quoted_writeString named) blanks_nil blanks_space denotes

theorem fields_written {level : Nat} (outer : Nat) {field : Text × Value} {rest : Pairs Value}
    (each : ∀ other ∈ field :: rest,
      Field (writeString other.1 ++ (text ": " ++ writeValue level other.2)) other) :
    Fields (writeString field.1 ++ (text ": " ++ writeValue level field.2) ++
      (writeFields level rest ++ (lineBreak outer ++ text "\x7d"))) (field :: rest) := by
  induction rest generalizing field with
  | nil =>
    rw [writeFields]
    exact .last (each field (by simp)) (blanks_lineBreak outer)
  | cons next rest inductionHypothesis =>
    have others := inductionHypothesis fun other member => each other (.tail _ member)
    have derived := Fields.more (each field (by simp)) blanks_nil (blanks_lineBreak level) others
    rw [writeFields]
    simpa [text] using derived

/-- What is written of plain data denotes it, at whatever level it stands. -/
theorem denotes_writeValue {value : Value} (plain : value.Plain) (level : Nat) :
    Denotes (writeValue level value) value := by
  -- members stand one level below, so the level has to be arbitrary
  induction plain generalizing level with
  | null => exact .constant (by simp [constants, writeValue])
  | bool flag => cases flag <;> exact .constant (by simp [constants, writeValue])
  | int short => exact .number (number_ofInt short)
  | string scalars => exact .string (quoted_writeString scalars)
  | @array items _ inductionHypothesis =>
    cases items with
    | nil => exact .emptyArray blanks_nil
    | cons item rest =>
      have listed := items_written level
        fun other member => inductionHypothesis other member (level + 1)
      have derived := Denotes.array (blanks_lineBreak (level + 1)) listed
      simpa [writeValue, text] using derived
  | @object fields distinct named _ inductionHypothesis =>
    cases fields with
    | nil => exact .emptyObject blanks_nil
    | cons field rest =>
      have listed := fields_written level
        fun other member => field_written (named other member)
          (inductionHypothesis other member (level + 1))
      have derived := Denotes.object (blanks_lineBreak (level + 1)) listed
      rw [Pairs.ofAssignments_of_nodup distinct] at derived
      simpa [writeValue, text] using derived

/-- A document of plain data is read back, with or without blanks behind it. -/
theorem read_write {value : Value} (plain : value.Plain) {rest : Text} (blank : Blanks rest) :
    read (write value ++ rest) = .ok value :=
  read_of_document (.padded blanks_nil (denotes_writeValue plain 0) blank)

/-! ## From the file to the reader -/

/-- Whether a code point comes unchanged from a file: no surrogate, and no carriage return. -/
def isSteady : CodePoint → Bool
  | .scalar value => value ≠ '\r'
  | .surrogate _ => false

theorem foldNewlines_steady {source : Text} (steady : source.all isSteady = true) :
    source.foldNewlines = source := by
  fun_induction Text.foldNewlines source with
  | case1 | case2 => cases steady
  | case3 point rest _ _ inductionHypothesis =>
    rw [List.all_cons, Bool.and_eq_true] at steady
    rw [inductionHypothesis steady.2]
  | case4 => rfl

theorem hasSurrogate_steady {source : Text} (steady : source.all isSteady = true) :
    source.hasSurrogate = false := by
  rw [Text.hasSurrogate, List.any_eq_false]
  intro point member
  cases point with
  | scalar => exact Bool.false_ne_true
  | surrogate => cases List.all_eq_true.mp steady _ member

theorem steady_digits {source : Text} (digits : Digits source) : source.all isSteady = true := by
  rw [List.all_eq_true]
  intro point member
  have digit := digits.each point member
  cases point with
  | surrogate => cases digit
  | scalar value =>
    refine decide_eq_true fun same => ?_
    subst same
    cases digit

theorem steady_ofInt (number : Int) : (Decimal.ofInt number).all isSteady = true := by
  cases number with
  | ofNat number => exact steady_digits (digits_ofNat number)
  | negSucc number =>
    rw [Decimal.ofInt, List.all_cons, steady_digits (digits_ofNat (number + 1))]
    rfl

theorem steady_unicodeEscape (unit : Nat) : (unicodeEscape unit).all isSteady = true := by
  have each : ∀ value < 16, Text.Hex.digit value ≠ '\r' := by decide
  have digit (value : Nat) := each (value % 16) (Nat.mod_lt _ (by decide))
  simp [unicodeEscape, Text.Hex.digits, text, isSteady, digit]

theorem steady_escapePoint (point : CodePoint) : (escapePoint point).all isSteady = true := by
  unfold escapePoint
  -- the seven escapes by letter, then a point as it is, then escapes by number
  iterate 7
    split
    · rfl
  split
  · next printing =>
    rw [List.all_cons, List.all_nil, Bool.and_true]
    cases point with
    | scalar value =>
      refine decide_eq_true fun same => ?_
      subst same
      exact absurd printing.1 (by decide)
    | surrogate offset =>
      rw [CodePoint.code] at printing
      omega
  · split
    · exact steady_unicodeEscape _
    · simp [steady_unicodeEscape]

theorem steady_writeString (content : Text) : (writeString content).all isSteady = true := by
  have body : (content.flatMap escapePoint).all isSteady = true := by
    rw [List.all_eq_true]
    intro point member
    obtain ⟨source, -, written⟩ := List.mem_flatMap.mp member
    exact List.all_eq_true.mp (steady_escapePoint source) point written
  simp only [writeString, List.all_append, body]
  rfl

theorem steady_lineBreak (level : Nat) : (lineBreak level).all isSteady = true := by
  simp [lineBreak, newline, isSteady]

theorem steady_writeItems {level : Nat} {items : List Value}
    (each : ∀ item ∈ items, (writeValue level item).all isSteady = true) :
    (writeItems level items).all isSteady = true := by
  induction items with
  | nil => rfl
  | cons item rest inductionHypothesis =>
    have others := inductionHypothesis fun other member => each other (.tail _ member)
    simp only [writeItems, List.all_append, steady_lineBreak, each item (by simp), others]
    rfl

theorem steady_writeFields {level : Nat} {fields : List (Text × Value)}
    (each : ∀ field ∈ fields, (writeValue level field.2).all isSteady = true) :
    (writeFields level fields).all isSteady = true := by
  induction fields with
  | nil => rfl
  | cons field rest inductionHypothesis =>
    have others := inductionHypothesis fun other member => each other (.tail _ member)
    simp only [writeFields, List.all_append, steady_lineBreak, steady_writeString,
      each field (by simp), others]
    rfl

/-- Plain data is written without surrogates and carriage returns. -/
theorem steady_writeValue {value : Value} (plain : value.Plain) (level : Nat) :
    (writeValue level value).all isSteady = true := by
  induction plain generalizing level with
  | null => rfl
  | bool flag => cases flag <;> rfl
  | int => exact steady_ofInt _
  | string => exact steady_writeString _
  | @array items _ inductionHypothesis =>
    cases items with
    | nil => rfl
    | cons item rest =>
      have first := inductionHypothesis item (by simp) (level + 1)
      have others := steady_writeItems fun other member =>
        inductionHypothesis other (.tail _ member) (level + 1)
      simp only [writeValue, List.all_append, steady_lineBreak, first, others]
      rfl
  | @object fields _ _ _ inductionHypothesis =>
    cases fields with
    | nil => rfl
    | cons field rest =>
      have first := inductionHypothesis field (by simp) (level + 1)
      have others := steady_writeFields fun other member =>
        inductionHypothesis other (.tail _ member) (level + 1)
      simp only [writeValue, List.all_append, steady_lineBreak, steady_writeString, first, others]
      rfl

end Json

end Switchboard
