import DecimalMachine.Text.Quoted

/-!
# Faults in encoded text

Bytes are decoded as UTF-8. Where they are no encoding of a text, the first fault is named: a byte
that begins no character, a byte that cannot continue the character begun, or the end of the bytes
inside a character.
-/

namespace DecimalMachine.Text.Utf8

/-- What is wrong with a sequence of bytes. -/
inductive Reason where
  | startByte
  | continuation
  | endOfData
  deriving DecidableEq, Repr

/-- The first bytes that are no character: from `start` up to but excluding `stop`. -/
structure Fault where
  start : Nat
  stop : Nat
  lead : UInt8
  reason : Reason
  deriving DecidableEq, Repr

/-- The words for a reason. -/
def Reason.text : Reason → String
  | startByte => "invalid start byte"
  | continuation => "invalid continuation byte"
  | endOfData => "unexpected end of data"

/-- How a fault is reported: a single byte with its value, several with their positions. -/
def Fault.message (f : Fault) : String :=
  let place :=
    if f.stop = f.start + 1 then
      "byte 0x" ++ String.ofList (hex 2 f.lead.toNat) ++ " in position " ++ toString f.start
    else "bytes in position " ++ toString f.start ++ "-" ++ toString (f.stop - 1)
  "'utf-8' codec can't decode " ++ place ++ ": " ++ f.reason.text

/-- The ranges of the bytes that follow a first byte; `none` for a byte that begins no character. -/
def follow? (b : UInt8) : Option (List (UInt8 × UInt8)) :=
  let any := ((0x80 : UInt8), (0xBF : UInt8))
  if b < 0x80 then some []
  else if b < 0xC2 then none
  else if b < 0xE0 then some [any]
  else if b = 0xE0 then some [(0xA0, 0xBF), any]
  else if b = 0xED then some [(0x80, 0x9F), any]
  else if b < 0xF0 then some [any, any]
  else if b = 0xF0 then some [(0x90, 0xBF), any, any]
  else if b < 0xF4 then some [any, any, any]
  else if b = 0xF4 then some [(0x80, 0x8F), any, any]
  else none

/-- The first fault from position `pos` on, inside a character that began at `start` with the byte
`lead` and still lacks bytes in the ranges `pending`. -/
def firstFault (start : Nat) (lead : UInt8) (pending : List (UInt8 × UInt8)) (pos : Nat) :
    List UInt8 → Option Fault
  | [] => if pending.isEmpty then none else some ⟨start, pos, lead, .endOfData⟩
  | b :: bs =>
    match pending with
    | [] =>
      match follow? b with
      | none => some ⟨pos, pos + 1, b, .startByte⟩
      | some next => firstFault pos b next (pos + 1) bs
    | (low, high) :: rest =>
      if low ≤ b ∧ b ≤ high then firstFault start lead rest (pos + 1) bs
      else some ⟨start, pos, lead, .continuation⟩

/-- The text that bytes encode, or the first fault in them. -/
def decode (bytes : ByteArray) : Except Fault String :=
  match String.fromUTF8? bytes with
  | some s => .ok s
  | none => .error ((firstFault 0 0 [] 0 bytes.data.toList).getD ⟨0, 0, 0, .endOfData⟩)

/-- The encoding of a text decodes to the text. -/
theorem decode_toUTF8 (s : String) : decode s.toUTF8 = .ok s := by
  have read : String.fromUTF8? s.toUTF8 = some s := by
    have valid : s.toUTF8.IsValidUTF8 := s.isValidUTF8
    rw [String.fromUTF8?, dif_pos valid]
    rfl
  rw [decode, read]

end DecimalMachine.Text.Utf8
