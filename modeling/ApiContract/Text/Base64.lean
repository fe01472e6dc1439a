/-!
# Base64

This module reads bytes from base64 text with canonical padding: four characters
for three bytes, and unused bits that are zero.
-/

namespace ApiContract.Text

/-- The value of a base64 character. -/
def base64Value? (char : Char) : Option Nat :=
  if 'A' ≤ char ∧ char ≤ 'Z' then some (char.toNat - 'A'.toNat)
  else if 'a' ≤ char ∧ char ≤ 'z' then some (char.toNat - 'a'.toNat + 26)
  else if '0' ≤ char ∧ char ≤ '9' then some (char.toNat - '0'.toNat + 52)
  else if char = '+' then some 62
  else if char = '/' then some 63
  else none

/-- Reads bytes from base64 text. -/
def readBase64 : List Char → Option (List UInt8)
  | [] => some []
  | [first, second, '=', '='] => do
      let first ← base64Value? first
      let second ← base64Value? second
      if second % 16 = 0 then some [UInt8.ofNat (first * 4 + second / 16)] else none
  | [first, second, third, '='] => do
      let first ← base64Value? first
      let second ← base64Value? second
      let third ← base64Value? third
      if third % 4 = 0 then
        some [UInt8.ofNat (first * 4 + second / 16),
          UInt8.ofNat (second % 16 * 16 + third / 4)]
      else none
  | first :: second :: third :: fourth :: rest => do
      let first ← base64Value? first
      let second ← base64Value? second
      let third ← base64Value? third
      let fourth ← base64Value? fourth
      let bytes ← readBase64 rest
      some (UInt8.ofNat (first * 4 + second / 16) ::
        UInt8.ofNat (second % 16 * 16 + third / 4) ::
        UInt8.ofNat (third % 4 * 64 + fourth) :: bytes)
  | _ => none

end ApiContract.Text
