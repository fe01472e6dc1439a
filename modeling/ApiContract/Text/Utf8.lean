import ApiContract.Number.Power

/-!
# Text as bytes

Text travels as UTF-8.  This module writes it, reads it, and reads it with every
malformed piece replaced by the replacement character.
-/

namespace ApiContract.Text

/-- The bytes of a text. -/
def utf8Bytes (text : String) : List UInt8 :=
  text.toUTF8.toList

/-- The number of bytes of a text. -/
def utf8Length (text : String) : Nat :=
  text.utf8ByteSize

/-- The text of well-formed bytes. -/
def ofUtf8? (bytes : List UInt8) : Option String :=
  String.fromUTF8? ⟨bytes.toArray⟩

/-- The character that stands for malformed bytes. -/
def replacementChar : Char := Char.ofNat 0xFFFD

/-- The lead byte of a character tells how many bytes follow and between which
bounds the first of them lies. -/
def leadByte? (byte : Nat) : Option (Nat × Nat × Nat) :=
  if 0xC2 ≤ byte ∧ byte ≤ 0xDF then some (1, 0x80, 0xBF)
  else if byte = 0xE0 then some (2, 0xA0, 0xBF)
  else if byte = 0xED then some (2, 0x80, 0x9F)
  else if 0xE1 ≤ byte ∧ byte ≤ 0xEF then some (2, 0x80, 0xBF)
  else if byte = 0xF0 then some (3, 0x90, 0xBF)
  else if 0xF1 ≤ byte ∧ byte ≤ 0xF3 then some (3, 0x80, 0xBF)
  else if byte = 0xF4 then some (3, 0x80, 0x8F)
  else none

/-- Takes up to a number of continuation bytes, the first between bounds. The
result tells how many were taken and their value. -/
def takeContinuation (lower upper : Nat) : Nat → Nat → List UInt8 → Nat × Nat
  | 0, value, _ => (0, value)
  | _, value, [] => (0, value)
  | count + 1, value, byte :: rest =>
      if lower ≤ byte.toNat ∧ byte.toNat ≤ upper then
        let (taken, value) :=
          takeContinuation 0x80 0xBF count (value * 64 + byte.toNat % 64) rest
        (taken + 1, value)
      else (0, value)

/-- The characters of bytes after some that are passed, a replacement character for
every malformed piece. A piece is as long as it could have been the start of a
character. -/
def lossyChars : Nat → List UInt8 → List Char
  | _, [] => []
  | passed + 1, _ :: rest => lossyChars passed rest
  | 0, byte :: rest =>
      if byte.toNat < 0x80 then Char.ofNat byte.toNat :: lossyChars 0 rest
      else
        match leadByte? byte.toNat with
        | none => replacementChar :: lossyChars 0 rest
        | some (following, lower, upper) =>
            let start := byte.toNat % twoTo (6 - following)
            let (taken, value) := takeContinuation lower upper following start rest
            if taken = following then Char.ofNat value :: lossyChars taken rest
            else replacementChar :: lossyChars taken rest

/-- The text of bytes, a replacement character for every malformed piece. -/
def ofUtf8Lossy (bytes : List UInt8) : String :=
  String.ofList (lossyChars 0 bytes)

end ApiContract.Text
