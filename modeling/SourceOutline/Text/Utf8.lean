/-!
Decoding of UTF-8 that never fails: each maximal part of the bytes that begins a character and
does not complete it, and each byte that begins none, is read as one replacement character.
-/

namespace SourceOutline.Utf8

def replacement : Char := '�'

/-- A character of which some bytes have been read: `need` more are to come, the next of them
between `low` and `high`, and `code` holds the bits read so far. -/
structure Pending where
  need : Nat
  low : UInt8
  high : UInt8
  code : Nat
  deriving DecidableEq, Repr

inductive Start where
  | single (c : Char)
  | lead (p : Pending)
  | stray
  deriving DecidableEq, Repr

/-- The second byte is narrower after `E0`, `ED`, `F0` and `F4`, so that no character has an
overlong form and none is a surrogate or lies beyond the last code point. -/
def start (b : UInt8) : Start :=
  let n := b.toNat
  if n < 0x80 then .single (Char.ofNat n)
  else if n < 0xC2 then .stray
  else if n < 0xE0 then .lead ⟨1, 0x80, 0xBF, n - 0xC0⟩
  else if n = 0xE0 then .lead ⟨2, 0xA0, 0xBF, 0⟩
  else if n = 0xED then .lead ⟨2, 0x80, 0x9F, 0xD⟩
  else if n < 0xF0 then .lead ⟨2, 0x80, 0xBF, n - 0xE0⟩
  else if n = 0xF0 then .lead ⟨3, 0x90, 0xBF, 0⟩
  else if n < 0xF4 then .lead ⟨3, 0x80, 0xBF, n - 0xF0⟩
  else if n = 0xF4 then .lead ⟨3, 0x80, 0x8F, 4⟩
  else .stray

def Pending.push (p : Pending) (b : UInt8) : Pending :=
  ⟨p.need - 1, 0x80, 0xBF, p.code * 64 + (b.toNat - 0x80)⟩

def decodeFrom : Option Pending → List UInt8 → List Char
  | none, [] => []
  | some _, [] => [replacement]
  | none, b :: bs =>
    match start b with
    | .single c => c :: decodeFrom none bs
    | .lead p => decodeFrom (some p) bs
    | .stray => replacement :: decodeFrom none bs
  | some p, b :: bs =>
    if p.low ≤ b ∧ b ≤ p.high then
      if p.need ≤ 1 then Char.ofNat (p.push b).code :: decodeFrom none bs
      else decodeFrom (some (p.push b)) bs
    else
      match start b with
      | .single c => replacement :: c :: decodeFrom none bs
      | .lead q => replacement :: decodeFrom (some q) bs
      | .stray => replacement :: replacement :: decodeFrom none bs

def decode (bytes : List UInt8) : List Char :=
  decodeFrom none bytes

def encode (text : String) : List UInt8 :=
  text.toUTF8.data.toList

def text? (bytes : List UInt8) : Option String :=
  String.fromUTF8? ⟨bytes.toArray⟩

def lossyText (bytes : List UInt8) : String :=
  String.ofList (decode bytes)

end SourceOutline.Utf8
