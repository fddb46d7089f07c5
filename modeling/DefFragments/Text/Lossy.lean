/-!
# Bytes read as text

A source file is read as UTF-8. Where its bytes are no UTF-8, every longest beginning of a sequence
that cannot be completed is read as one replacement character, and reading goes on with the byte
that broke it.
-/

namespace DefFragments.Text

def replacement : Char := '\ufffd'

/-- A character of several bytes that is still being read. -/
structure Pending where
  /-- How many bytes are missing. -/
  missing : Nat
  /-- The least value of the next byte. -/
  least : UInt8
  /-- The greatest value of the next byte. -/
  greatest : UInt8
  /-- The bits that were read so far, as a number. -/
  bits : Nat
  deriving DecidableEq

/-- The character that a byte beyond ASCII begins. The narrower ranges for the byte after it exclude
longer forms than needed, surrogates and numbers beyond the last code point. -/
def pendingAfter? (b : UInt8) : Option Pending :=
  let n := b.toNat
  if n < 0xC2 then none
  else if n < 0xE0 then some ⟨1, 0x80, 0xBF, n - 0xC0⟩
  else if n = 0xE0 then some ⟨2, 0xA0, 0xBF, 0⟩
  else if n = 0xED then some ⟨2, 0x80, 0x9F, 0xD⟩
  else if n < 0xF0 then some ⟨2, 0x80, 0xBF, n - 0xE0⟩
  else if n = 0xF0 then some ⟨3, 0x90, 0xBF, 0⟩
  else if n < 0xF4 then some ⟨3, 0x80, 0xBF, n - 0xF0⟩
  else if n = 0xF4 then some ⟨3, 0x80, 0x8F, 4⟩
  else none

def firstByte (b : UInt8) : List Char × Option Pending :=
  if b < 0x80 then ([Char.ofNat b.toNat], none)
  else match pendingAfter? b with
    | none => ([replacement], none)
    | some p => ([], some p)

def nextByte (pending : Option Pending) (b : UInt8) : List Char × Option Pending :=
  match pending with
  | none => firstByte b
  | some p =>
    if p.least ≤ b && b ≤ p.greatest then
      let bits := p.bits * 64 + b.toNat % 64
      if p.missing = 1 then ([Char.ofNat bits], none)
      else ([], some ⟨p.missing - 1, 0x80, 0xBF, bits⟩)
    else
      let (chars, pending) := firstByte b
      (replacement :: chars, pending)

def decodeFrom : Option Pending → List UInt8 → List Char
  | none, [] => []
  | some _, [] => [replacement]
  | pending, b :: bytes =>
    let (chars, pending) := nextByte pending b
    chars ++ decodeFrom pending bytes

/-- Bytes read as text, with replacement characters where they are none. -/
def decodeLossy (bytes : ByteArray) : String :=
  match String.fromUTF8? bytes with
  | some text => text
  | none => String.ofList (decodeFrom none bytes.data.toList)

example : decodeFrom none [0x41, 0xC3, 0xA9, 0xF0, 0x9F, 0x98, 0x80] = ['A', 'é', '😀'] := by decide

example : decodeFrom none [0xE2, 0x82, 0x41, 0xFF] = [replacement, 'A', replacement] := by decide

end DefFragments.Text
