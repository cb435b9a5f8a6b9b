import Switchboard.Decimal
import Switchboard.Text.Hex

/-!
# UTF-8

Program files are UTF-8. `decode` accepts exactly the well-formed sequences and otherwise
reports the offset of the first octet that no well-formed text can contain, together with
the octets that were accepted before it as the beginning of a sequence.
-/

namespace Switchboard.Text.Utf8

/-- Why a sequence of octets is not UTF-8. -/
inductive Reason where
  | invalidStart
  | invalidContinuation
  | unexpectedEnd
  deriving DecidableEq

/-- A decoding fault: the offset and value of the lead octet, the number of octets the
fault covers, and what is wrong. -/
structure Fault where
  offset : Nat
  lead : UInt8
  width : Nat
  reason : Reason
  deriving DecidableEq

/-- Whether an octet continues a sequence. -/
def isContinuation (octet : UInt8) : Bool := 0x80 ≤ octet && octet ≤ 0xBF

/-- The number of octets that follow a lead octet, and the range of the first of them. The
range excludes overlong forms, surrogates and numbers beyond U+10FFFF. -/
def followers? (lead : UInt8) : Option (Nat × UInt8 × UInt8) :=
  if 0xC2 ≤ lead ∧ lead ≤ 0xDF then some (1, 0x80, 0xBF)
  else if lead = 0xE0 then some (2, 0xA0, 0xBF)
  else if lead = 0xED then some (2, 0x80, 0x9F)
  else if 0xE1 ≤ lead ∧ lead ≤ 0xEF then some (2, 0x80, 0xBF)
  else if lead = 0xF0 then some (3, 0x90, 0xBF)
  else if 0xF1 ≤ lead ∧ lead ≤ 0xF3 then some (3, 0x80, 0xBF)
  else if lead = 0xF4 then some (3, 0x80, 0x8F)
  else none

/-- The six low bits of a continuation octet. -/
def payload (octet : UInt8) : Nat := octet.toNat % 64

/-- The scalar with a given number. -/
def scalar (number : Nat) : CodePoint := .scalar (Char.ofNat number)

/-- Decode the octets from `offset` on. -/
def decodeFrom (offset : Nat) : List UInt8 → Except Fault Text
  | [] => .ok []
  | lead :: rest =>
      if lead < 0x80 then do
        return scalar lead.toNat :: (← decodeFrom (offset + 1) rest)
      else
        match followers? lead with
        | none => .error ⟨offset, lead, 1, .invalidStart⟩
        | some (count, low, high) =>
          match rest with
          | [] => .error ⟨offset, lead, 1, .unexpectedEnd⟩
          | second :: rest =>
            if second < low || high < second then
              .error ⟨offset, lead, 1, .invalidContinuation⟩
            else if count = 1 then do
              return scalar ((lead.toNat % 32) * 64 + payload second) ::
                (← decodeFrom (offset + 2) rest)
            else
              match rest with
              | [] => .error ⟨offset, lead, 2, .unexpectedEnd⟩
              | third :: rest =>
                if !isContinuation third then
                  .error ⟨offset, lead, 2, .invalidContinuation⟩
                else if count = 2 then do
                  return scalar (((lead.toNat % 16) * 64 + payload second) * 64 + payload third) ::
                    (← decodeFrom (offset + 3) rest)
                else
                  match rest with
                  | [] => .error ⟨offset, lead, 3, .unexpectedEnd⟩
                  | fourth :: rest =>
                    if !isContinuation fourth then
                      .error ⟨offset, lead, 3, .invalidContinuation⟩
                    else do
                      let number := ((((lead.toNat % 8) * 64 + payload second) * 64 +
                        payload third) * 64 + payload fourth)
                      return scalar number :: (← decodeFrom (offset + 4) rest)

/-- Decode a whole file. -/
def decode (octets : List UInt8) : Except Fault Text := decodeFrom 0 octets

/-- The octets of one code point. -/
def encodePoint (point : CodePoint) : List UInt8 :=
  let code := point.code
  let tail (shift : Nat) : UInt8 := (0x80 + code / shift % 64).toUInt8
  if code < 0x80 then [code.toUInt8]
  else if code < 0x800 then [(0xC0 + code / 64).toUInt8, tail 1]
  else if code < 0x10000 then [(0xE0 + code / 4096).toUInt8, tail 64, tail 1]
  else [(0xF0 + code / 262144).toUInt8, tail 4096, tail 64, tail 1]

/-- The octets of a text. -/
def encode (source : Text) : List UInt8 := source.flatMap encodePoint

/-- What is wrong, in words. -/
def Reason.message : Reason → Text
  | .invalidStart => text "invalid start byte"
  | .invalidContinuation => text "invalid continuation byte"
  | .unexpectedEnd => text "unexpected end of data"

/-- The octets a fault covers and what is wrong with them. -/
def Fault.message (fault : Fault) : Text :=
  let place :=
    if fault.width = 1 then
      text "byte 0x" ++ Hex.digits 2 fault.lead.toNat ++ text " in position " ++
        Decimal.ofNat fault.offset
    else
      text "bytes in position " ++ Decimal.ofNat fault.offset ++ text "-" ++
        Decimal.ofNat (fault.offset + fault.width - 1)
  text "'utf-8' codec can't decode " ++ place ++ text ": " ++ fault.reason.message

end Switchboard.Text.Utf8
