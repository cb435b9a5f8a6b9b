import Mathlib
import Switchboard.Proofs.Listing
import Switchboard.Text.Utf8

/-!
# Decoding is the inverse of encoding

`decode` accepts a sequence of octets exactly when it is the encoding of a text without lone
surrogates, and then it gives that text (`decode_eq_ok_iff`). `Sequence` stands between the two: the
octets of one number, in as few octets as its size allows. The decoder reads sequences and nothing
else, and the sequence of a number is its encoding.
-/

namespace Switchboard.Text.Utf8

/-! ## Lead octets -/

section

variable {lead : UInt8}

theorem followers?_two (low : 0xC2 ≤ lead.toNat) (high : lead.toNat ≤ 0xDF) :
    followers? lead = some (1, 0x80, 0xBF) := by
  have inside : 0xC2 ≤ lead ∧ lead ≤ 0xDF := by
    simpa [UInt8.le_iff_toNat_le] using And.intro low high
  rw [followers?, if_pos inside]

/-- Behind the least lead octet of three the range excludes overlong forms, and behind `0xED` it
excludes surrogates. -/
theorem followers?_three (low : 0xE0 ≤ lead.toNat) (high : lead.toNat ≤ 0xEF) :
    followers? lead = some (2, if lead.toNat = 0xE0 then 0xA0 else 0x80,
      if lead.toNat = 0xED then 0x9F else 0xBF) := by
  simp only [followers?, UInt8.le_iff_toNat_le, ← UInt8.toNat_inj, UInt8.reduceToNat]
  rw [if_neg (by omega)]
  split
  · next least => rw [least]; rfl
  · split
    · rfl
    · rw [if_pos (by omega)]

/-- Behind the least lead octet of four the range excludes overlong forms, and behind the greatest
it excludes numbers beyond Unicode. -/
theorem followers?_four (low : 0xF0 ≤ lead.toNat) (high : lead.toNat ≤ 0xF4) :
    followers? lead = some (3, if lead.toNat = 0xF0 then 0x90 else 0x80,
      if lead.toNat = 0xF4 then 0x8F else 0xBF) := by
  simp only [followers?, UInt8.le_iff_toNat_le, ← UInt8.toNat_inj, UInt8.reduceToNat]
  rw [if_neg (by omega), if_neg (by omega), if_neg (by omega), if_neg (by omega)]
  split
  · next least => rw [least]; rfl
  · split
    · rw [if_neg (by omega)]
    · rw [if_pos (by omega), if_pos (by omega)]

/-- No other octet leads a sequence. -/
theorem lead_of_followers? {sequence : Nat × UInt8 × UInt8}
    (known : followers? lead = some sequence) : 0xC2 ≤ lead.toNat ∧ lead.toNat ≤ 0xF4 := by
  simp only [followers?, UInt8.le_iff_toNat_le, ← UInt8.toNat_inj, UInt8.reduceToNat] at known
  by_contra outside
  rw [if_neg (by omega), if_neg (by omega), if_neg (by omega), if_neg (by omega),
    if_neg (by omega), if_neg (by omega), if_neg (by omega)] at known
  cases known

end

/-! ## Sequences -/

/-- An octet that goes on with a sequence. -/
def Tail (octet : UInt8) : Prop := 0x80 ≤ octet.toNat ∧ octet.toNat ≤ 0xBF

/-- The octets of a number. A number is never spread over more octets than it needs, and numbers of
surrogates and numbers beyond Unicode have no octets. -/
inductive Sequence : List UInt8 → Nat → Prop where
  | one {lead : UInt8} {number : Nat} (denotes : number = lead.toNat) (least : number < 0x80) :
      Sequence [lead] number
  | two {lead second : UInt8} {number : Nat}
      (leads : 0xC0 ≤ lead.toNat ∧ lead.toNat ≤ 0xDF) (goesOn : Tail second)
      (denotes : number = (lead.toNat % 32) * 64 + payload second)
      (least : 0x80 ≤ number) :
      Sequence [lead, second] number
  | three {lead second third : UInt8} {number : Nat}
      (leads : 0xE0 ≤ lead.toNat ∧ lead.toNat ≤ 0xEF) (goesOn : Tail second ∧ Tail third)
      (denotes : number = ((lead.toNat % 16) * 64 + payload second) * 64 + payload third)
      (least : 0x800 ≤ number) (notSurrogate : number < 0xD800 ∨ 0xDFFF < number) :
      Sequence [lead, second, third] number
  | four {lead second third fourth : UInt8} {number : Nat}
      (leads : 0xF0 ≤ lead.toNat ∧ lead.toNat ≤ 0xF7)
      (goesOn : Tail second ∧ Tail third ∧ Tail fourth)
      (denotes : number = (((lead.toNat % 8) * 64 + payload second) * 64 + payload third) * 64 +
        payload fourth)
      (least : 0x10000 ≤ number) (greatest : number < 0x110000) :
      Sequence [lead, second, third, fourth] number

/-- What stands for a character has a sequence. -/
theorem Sequence.valid {octets : List UInt8} {number : Nat} (sequence : Sequence octets number) :
    number.isValidChar := by
  cases sequence with
  | one denotes least => exact .inl (by omega)
  | @two lead second _ leads goesOn denotes least =>
    refine .inl ?_
    rw [payload] at denotes
    omega
  | @three lead second third _ leads goesOn denotes least notSurrogate =>
    rw [payload, payload] at denotes
    refine notSurrogate.imp id fun above => ⟨above, ?_⟩
    omega
  | four _ _ _ least greatest => exact .inr ⟨by omega, greatest⟩

theorem isContinuation_iff {octet : UInt8} : isContinuation octet = true ↔ Tail octet := by
  simp [isContinuation, Tail, UInt8.le_iff_toNat_le]

theorem mapped (point : CodePoint) (decoded : Except Fault Text) :
    (do return point :: (← decoded)) = decoded.map (point :: ·) := by
  cases decoded <;> rfl

theorem not_ascii_of_le {lead : UInt8} (large : 0x80 ≤ lead.toNat) : ¬ lead < 0x80 := by
  simpa [UInt8.lt_iff_toNat_lt] using large

/-- Decoding begins with the number of the first sequence and goes on behind it. -/
theorem Sequence.decodeFrom {octets : List UInt8} {number : Nat} (sequence : Sequence octets number)
    (offset : Nat) (rest : List UInt8) :
    Utf8.decodeFrom offset (octets ++ rest) =
      (Utf8.decodeFrom (offset + octets.length) rest).map (scalar number :: ·) := by
  cases sequence with
  | @one lead _ denotes least =>
    have ascii : lead < 0x80 := UInt8.lt_iff_toNat_lt.mpr (denotes ▸ least)
    rw [List.singleton_append, Utf8.decodeFrom, if_pos ascii, mapped, denotes]
    rfl
  | @two lead second _ leads goesOn denotes least =>
    rw [payload] at denotes
    rw [Tail] at goesOn
    have high : ¬ lead < 0x80 := not_ascii_of_le (by omega)
    have inside : ¬ (second < 0x80 || 0xBF < second) = true := by
      simp only [Bool.or_eq_true, decide_eq_true_eq, UInt8.lt_iff_toNat_lt, UInt8.reduceToNat]
      omega
    rw [List.cons_append, List.singleton_append, Utf8.decodeFrom, if_neg high,
      followers?_two (by omega) leads.2]
    dsimp only
    rw [if_neg inside, if_pos rfl, mapped, denotes, payload]
    rfl
  | @three lead second third _ leads goesOn denotes least notSurrogate =>
    rw [payload, payload] at denotes
    obtain ⟨goesOn, isTail⟩ := goesOn
    have high : ¬ lead < 0x80 := not_ascii_of_le (by omega)
    have inside : ¬ (second < (if lead.toNat = 0xE0 then 0xA0 else 0x80) ||
        (if lead.toNat = 0xED then 0x9F else 0xBF) < second) = true := by
      rw [Tail] at goesOn isTail
      simp only [Bool.or_eq_true, decide_eq_true_eq, UInt8.lt_iff_toNat_lt]
      split <;> split <;> simp only [UInt8.reduceToNat] <;> omega
    rw [List.cons_append, List.cons_append, List.singleton_append, Utf8.decodeFrom, if_neg high,
      followers?_three leads.1 leads.2]
    dsimp only
    rw [if_neg inside, if_neg (by decide), isContinuation_iff.mpr isTail, if_neg (by decide),
      if_pos rfl, mapped, denotes, payload, payload]
    rfl
  | @four lead second third fourth _ leads goesOn denotes least greatest =>
    rw [payload, payload, payload] at denotes
    obtain ⟨goesOn, isTail, isTailToo⟩ := goesOn
    have high : ¬ lead < 0x80 := not_ascii_of_le (by omega)
    have inside : ¬ (second < (if lead.toNat = 0xF0 then 0x90 else 0x80) ||
        (if lead.toNat = 0xF4 then 0x8F else 0xBF) < second) = true := by
      rw [Tail] at goesOn isTail isTailToo
      simp only [Bool.or_eq_true, decide_eq_true_eq, UInt8.lt_iff_toNat_lt]
      split <;> split <;> simp only [UInt8.reduceToNat] <;> omega
    rw [List.cons_append, List.cons_append, List.cons_append, List.singleton_append,
      Utf8.decodeFrom, if_neg high, followers?_four leads.1 (by omega)]
    dsimp only
    rw [if_neg inside, if_neg (by decide), isContinuation_iff.mpr isTail, if_neg (by decide),
      if_neg (by decide), isContinuation_iff.mpr isTailToo, if_neg (by decide), mapped, denotes,
      payload, payload, payload]
    rfl

section

variable {offset : Nat} {lead : UInt8} {rest : List UInt8} {content : Text}

/-- Behind a lead octet of two one octet is decoded. -/
theorem exists_two (low : 0xC2 ≤ lead.toNat) (high : lead.toNat ≤ 0xDF)
    (decoded : decodeFrom offset (lead :: rest) = .ok content) :
    ∃ second number after, rest = second :: after ∧ Sequence [lead, second] number := by
  rw [decodeFrom, if_neg (not_ascii_of_le (by omega)), followers?_two low high] at decoded
  cases rest with
  | nil => cases decoded
  | cons second rest =>
    dsimp only at decoded
    split at decoded
    · cases decoded
    · next inside =>
      simp only [Bool.or_eq_true, decide_eq_true_eq, UInt8.lt_iff_toNat_lt,
        UInt8.reduceToNat] at inside
      refine ⟨second, _, rest, rfl, .two ⟨by omega, high⟩ ?_ rfl ?_⟩
      · rw [Tail]
        omega
      · rw [payload]
        omega

/-- Behind a lead octet of three two octets are decoded. -/
theorem exists_three (low : 0xE0 ≤ lead.toNat) (high : lead.toNat ≤ 0xEF)
    (decoded : decodeFrom offset (lead :: rest) = .ok content) :
    ∃ second third number after, rest = second :: third :: after ∧
      Sequence [lead, second, third] number := by
  rw [decodeFrom, if_neg (not_ascii_of_le (by omega)), followers?_three low high] at decoded
  generalize bottom : (if lead.toNat = 0xE0 then (0xA0 : UInt8) else 0x80) = least at decoded
  generalize top : (if lead.toNat = 0xED then (0x9F : UInt8) else 0xBF) = greatest at decoded
  rcases rest with _ | ⟨second, _ | ⟨third, rest⟩⟩
  · cases decoded
  · dsimp only at decoded
    split at decoded <;> cases decoded
  · dsimp only at decoded
    split at decoded
    · cases decoded
    · next inside =>
      rw [if_neg (by decide)] at decoded
      split at decoded
      · cases decoded
      · next goesOn =>
        simp only [Bool.or_eq_true, decide_eq_true_eq, UInt8.lt_iff_toNat_lt, ← bottom, ← top]
          at inside
        rw [Bool.not_eq_true', Bool.not_eq_false, isContinuation_iff] at goesOn
        refine ⟨second, third, _, rest, rfl, .three ⟨low, high⟩ ⟨?_, goesOn⟩ rfl ?_ ?_⟩
        all_goals
          simp only [payload, Tail] at goesOn ⊢
          split at inside <;> split at inside <;> simp only [UInt8.reduceToNat] at inside <;> omega

/-- Behind a lead octet of four three octets are decoded. -/
theorem exists_four (low : 0xF0 ≤ lead.toNat) (high : lead.toNat ≤ 0xF4)
    (decoded : decodeFrom offset (lead :: rest) = .ok content) :
    ∃ second third fourth number after, rest = second :: third :: fourth :: after ∧
      Sequence [lead, second, third, fourth] number := by
  rw [decodeFrom, if_neg (not_ascii_of_le (by omega)), followers?_four low high] at decoded
  generalize bottom : (if lead.toNat = 0xF0 then (0x90 : UInt8) else 0x80) = least at decoded
  generalize top : (if lead.toNat = 0xF4 then (0x8F : UInt8) else 0xBF) = greatest at decoded
  rcases rest with _ | ⟨second, _ | ⟨third, _ | ⟨fourth, rest⟩⟩⟩
  · cases decoded
  · dsimp only at decoded
    split at decoded <;> cases decoded
  · dsimp only at decoded
    split at decoded
    · cases decoded
    · rw [if_neg (by decide)] at decoded
      split at decoded <;> cases decoded
  · dsimp only at decoded
    split at decoded
    · cases decoded
    · next inside =>
      rw [if_neg (by decide)] at decoded
      split at decoded
      · cases decoded
      · next goesOn =>
        rw [if_neg (by decide)] at decoded
        split at decoded
        · cases decoded
        · next goesOnToo =>
          simp only [Bool.or_eq_true, decide_eq_true_eq, UInt8.lt_iff_toNat_lt, ← bottom, ← top]
            at inside
          rw [Bool.not_eq_true', Bool.not_eq_false, isContinuation_iff] at goesOn goesOnToo
          refine ⟨second, third, fourth, _, rest, rfl,
            .four ⟨low, by omega⟩ ⟨?_, goesOn, goesOnToo⟩ rfl ?_ ?_⟩
          all_goals
            simp only [payload, Tail] at goesOn goesOnToo ⊢
            split at inside <;> split at inside <;>
              simp only [UInt8.reduceToNat] at inside <;> omega

/-- An octet that is decoded is ASCII or leads a sequence. -/
theorem lead_cases (decoded : decodeFrom offset (lead :: rest) = .ok content) :
    lead.toNat < 0x80 ∨ 0xC2 ≤ lead.toNat ∧ lead.toNat ≤ 0xF4 := by
  rw [decodeFrom] at decoded
  split at decoded
  · next small => exact .inl (UInt8.lt_iff_toNat_lt.mp small)
  · split at decoded
    · cases decoded
    · next known => exact .inr (lead_of_followers? known)

/-- What is decoded begins with a sequence. -/
theorem exists_sequence (decoded : decodeFrom offset (lead :: rest) = .ok content) :
    ∃ sequence number after, lead :: rest = sequence ++ after ∧ Sequence sequence number := by
  rcases lead_cases decoded with small | ⟨low, high⟩
  · exact ⟨[lead], _, rest, rfl, .one rfl small⟩
  · by_cases two : lead.toNat ≤ 0xDF
    · obtain ⟨second, number, after, rfl, sequence⟩ := exists_two low two decoded
      exact ⟨_, number, after, rfl, sequence⟩
    · by_cases three : lead.toNat ≤ 0xEF
      · obtain ⟨second, third, number, after, rfl, sequence⟩ :=
          exists_three (by omega) three decoded
        exact ⟨_, number, after, rfl, sequence⟩
      · obtain ⟨second, third, fourth, number, after, rfl, sequence⟩ :=
          exists_four (by omega) high decoded
        exact ⟨_, number, after, rfl, sequence⟩

end

/-! ## Encodings -/

/-- The octet with a number below 256. -/
theorem toNat_toUInt8 (number : Nat) (small : number < 256) : number.toUInt8.toNat = number := by
  simp [Nat.mod_eq_of_lt small]

theorem eq_toUInt8 {octet : UInt8} {number : Nat} (same : octet.toNat = number) :
    octet = number.toUInt8 := by
  rw [← same, Nat.toUInt8_eq, UInt8.ofNat_toNat]

/-- The encoding of a code point is a sequence, unless it is a surrogate. -/
theorem sequence_encodePoint {point : CodePoint} (valid : point.code.isValidChar) :
    Sequence (encodePoint point) point.code := by
  simp only [Nat.isValidChar] at valid
  simp only [encodePoint]
  split
  · exact .one (toNat_toUInt8 _ (by omega)).symm (by omega)
  · split
    · have lead := toNat_toUInt8 (0xC0 + point.code / 64) (by omega)
      have second := toNat_toUInt8 (0x80 + point.code / 1 % 64) (by omega)
      refine .two ⟨?_, ?_⟩ ⟨?_, ?_⟩ ?_ (by omega) <;> simp only [payload, lead, second] <;> omega
    · split
      · have lead := toNat_toUInt8 (0xE0 + point.code / 4096) (by omega)
        have second := toNat_toUInt8 (0x80 + point.code / 64 % 64) (by omega)
        have third := toNat_toUInt8 (0x80 + point.code / 1 % 64) (by omega)
        refine .three ⟨?_, ?_⟩ ⟨⟨?_, ?_⟩, ?_, ?_⟩ ?_ (by omega) (by omega) <;>
          simp only [payload, lead, second, third] <;> omega
      · have lead := toNat_toUInt8 (0xF0 + point.code / 262144) (by omega)
        have second := toNat_toUInt8 (0x80 + point.code / 4096 % 64) (by omega)
        have third := toNat_toUInt8 (0x80 + point.code / 64 % 64) (by omega)
        have fourth := toNat_toUInt8 (0x80 + point.code / 1 % 64) (by omega)
        refine .four ⟨?_, ?_⟩ ⟨⟨?_, ?_⟩, ⟨?_, ?_⟩, ?_, ?_⟩ ?_ (by omega) (by omega) <;>
          simp only [payload, lead, second, third, fourth] <;> omega

/-- A code point has no other sequence: its size tells how many octets there are, and these hold
its digits. -/
theorem Sequence.eq_encodePoint {octets : List UInt8} {point : CodePoint}
    (sequence : Sequence octets point.code) : octets = encodePoint point := by
  simp only [encodePoint]
  cases sequence with
  | one denotes least => rw [if_pos least, ← eq_toUInt8 denotes.symm]
  | two leads goesOn denotes least =>
    simp only [payload, Tail] at denotes goesOn
    rw [if_neg (by omega), if_pos (by omega)]
    simp only [List.cons.injEq, and_true]
    exact ⟨eq_toUInt8 (by omega), eq_toUInt8 (by omega)⟩
  | three leads goesOn denotes least notSurrogate =>
    simp only [payload, Tail] at denotes goesOn
    rw [if_neg (by omega), if_neg (by omega), if_pos (by omega)]
    simp only [List.cons.injEq, and_true]
    exact ⟨eq_toUInt8 (by omega), eq_toUInt8 (by omega), eq_toUInt8 (by omega)⟩
  | four leads goesOn denotes least greatest =>
    simp only [payload, Tail] at denotes goesOn
    rw [if_neg (by omega), if_neg (by omega), if_neg (by omega)]
    simp only [List.cons.injEq, and_true]
    exact ⟨eq_toUInt8 (by omega), eq_toUInt8 (by omega), eq_toUInt8 (by omega),
      eq_toUInt8 (by omega)⟩

/-! ## Texts -/

/-- The octets of a text without surrogates are decoded to it. -/
theorem decodeFrom_encode {content : Text} (scalars : content.hasSurrogate = false)
    (offset : Nat) : decodeFrom offset (encode content) = .ok content := by
  induction content generalizing offset with
  | nil => rfl
  | cons point rest inductionHypothesis =>
    rw [hasSurrogate, List.any_cons, Bool.or_eq_false_iff] at scalars
    obtain ⟨first, others⟩ := scalars
    cases point with
    | surrogate => cases first
    | scalar value =>
      have sequence : Sequence (encodePoint (.scalar value)) (CodePoint.scalar value).code :=
        sequence_encodePoint value.valid
      have same : scalar (CodePoint.scalar value).code = .scalar value :=
        congrArg CodePoint.scalar (Char.ofNat_toNat value)
      rw [encode, List.flatMap_cons, ← encode, sequence.decodeFrom, inductionHypothesis others,
        same]
      rfl

/-- Octets that are decoded are the octets of a text without surrogates. -/
theorem encode_of_decodeFrom {offset : Nat} {octets : List UInt8} {content : Text}
    (decoded : decodeFrom offset octets = .ok content) :
    content.hasSurrogate = false ∧ octets = encode content := by
  cases octets with
  | nil =>
    cases decoded
    exact ⟨rfl, rfl⟩
  | cons lead rest =>
    obtain ⟨octets, number, after, whole, sequence⟩ := exists_sequence decoded
    have shorter : after.length < (lead :: rest).length := by
      have lengths := congrArg List.length whole
      rw [List.length_append] at lengths
      have some : 0 < octets.length := by cases sequence <;> exact Nat.succ_pos _
      omega
    rw [whole, sequence.decodeFrom] at decoded
    cases others : decodeFrom (offset + octets.length) after with
    | error fault =>
      rw [others] at decoded
      cases decoded
    | ok later =>
      rw [others] at decoded
      cases decoded
      obtain ⟨scalars, encoded⟩ := encode_of_decodeFrom others
      have code : (scalar number).code = number := by
        rw [scalar, CodePoint.code, Char.toNat_ofNat, if_pos sequence.valid]
      refine ⟨scalars, ?_⟩
      rw [whole, encode, List.flatMap_cons, ← encode, ← encoded,
        ← Sequence.eq_encodePoint (code ▸ sequence)]
termination_by octets.length

/-- Octets are decoded exactly when they encode a text without surrogates, and to that text. -/
theorem decode_eq_ok_iff {octets : List UInt8} {content : Text} :
    decode octets = .ok content ↔ content.hasSurrogate = false ∧ octets = encode content := by
  constructor
  · exact encode_of_decodeFrom
  · rintro ⟨scalars, rfl⟩
    exact decodeFrom_encode scalars 0

end Switchboard.Text.Utf8
