set_option autoImplicit false

/-! # UTF-8 text

The characters of a list of bytes. Bytes that are no text do not stop the reading: every longest piece
that begins a character without completing it, and every byte that can begin none, is replaced by
one U+FFFD.

The reader is a machine with two states: between characters, or inside one (`Partial`). Which byte
may come next inside a character depends on its first byte only for the second byte. -/

namespace Bookkeeping.Text.Utf8

/-- What stands for bytes that are no text. -/
def replacement : Char := Char.ofNat 0xFFFD

/-- The part of a character that is read: its bits so far, how many bytes are still to come, and the
    range of the next one. -/
structure Partial where
  bits : Nat
  remaining : Nat
  low : Nat := 0x80
  high : Nat := 0xBF
  deriving DecidableEq, Repr

/-- What the first byte of a character tells. -/
inductive Lead where
  /-- The byte is a whole character. -/
  | whole (c : Char)
  /-- More bytes must follow. -/
  | start (p : Partial)
  /-- No character begins with the byte. -/
  | invalid
  deriving DecidableEq, Repr

/-- Look at a byte that should begin a character. Overlong forms, surrogates and numbers beyond the last
    character are excluded by the range of the second byte. -/
def lead (b : Nat) : Lead :=
  if b < 0x80 then .whole (Char.ofNat b)
  else if b < 0xC2 then .invalid
  else if b < 0xE0 then .start { bits := b - 0xC0, remaining := 1 }
  else if b = 0xE0 then .start { bits := 0, remaining := 2, low := 0xA0 }
  else if b = 0xED then .start { bits := 13, remaining := 2, high := 0x9F }
  else if b < 0xF0 then .start { bits := b - 0xE0, remaining := 2 }
  else if b = 0xF0 then .start { bits := 0, remaining := 3, low := 0x90 }
  else if b < 0xF4 then .start { bits := b - 0xF0, remaining := 3 }
  else if b = 0xF4 then .start { bits := 4, remaining := 3, high := 0x8F }
  else .invalid

/-- Add a byte to a part of a character. -/
def Partial.push (p : Partial) (b : Nat) : Lead :=
  let bits := p.bits * 64 + (b - 0x80)
  if p.remaining ≤ 1 then .whole (Char.ofNat bits) else .start { bits, remaining := p.remaining - 1 }

/-- Read bytes, possibly inside a character. -/
def decodeFrom : Option Partial → List UInt8 → List Char
  | none, [] => []
  | some _, [] => [replacement]
  | state, b :: rest =>
      let n := b.toNat
      let (lost, next) : List Char × Lead :=
        match state with
        | none => ([], lead n)
        | some p => if p.low ≤ n ∧ n ≤ p.high then ([], p.push n) else ([replacement], lead n)
      match next with
      | .whole c => lost ++ c :: decodeFrom none rest
      | .start p => lost ++ decodeFrom (some p) rest
      | .invalid => lost ++ replacement :: decodeFrom none rest

/-- The characters of a list of bytes. -/
def decode (bytes : List UInt8) : List Char := decodeFrom none bytes

/-- The bytes of a list of characters. -/
def encode (cs : List Char) : List UInt8 := cs.flatMap String.utf8EncodeChar

/-- The characters of which the bytes are the encoding, if there are such. -/
def decode? (bytes : List UInt8) : Option (List Char) :=
  if encode (decode bytes) = bytes then some (decode bytes) else none

/-- A text that is read from bytes is written as these bytes. -/
theorem encode_of_decode? {bytes : List UInt8} {cs : List Char} (h : decode? bytes = some cs) :
    encode cs = bytes := by
  unfold decode? at h
  split at h
  · next he =>
      cases h
      exact he
  · cases h

/-- Bytes below 128 are the characters of these numbers. -/
theorem decode_of_ascii {bytes : List UInt8} (h : ∀ b ∈ bytes, b.toNat < 0x80) :
    decode bytes = bytes.map fun b => Char.ofNat b.toNat := by
  unfold decode
  induction bytes with
  | nil => rfl
  | cons b rest ih =>
      have hb : b.toNat < 0x80 := h b (by simp)
      have hr := ih fun x hx => h x (by simp [hx])
      simp [decodeFrom, lead, hb, hr]

end Bookkeeping.Text.Utf8
