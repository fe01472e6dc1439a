import ApiContract.Number.Power
import ApiContract.Text.Ascii
import ApiContract.Text.Utf8

/-!
# SHA-256

This module computes the SHA-256 digest of bytes.  A message is padded to blocks of
sixteen words; every block is stretched to sixty-four words and mixed into a state
of eight words.
-/

namespace ApiContract.Text.Sha256

/-- The constants of the sixty-four rounds. -/
def roundConstants : List UInt32 :=
  [0x428a2f98, 0x71374491, 0xb5c0fbcf, 0xe9b5dba5, 0x3956c25b, 0x59f111f1, 0x923f82a4,
    0xab1c5ed5, 0xd807aa98, 0x12835b01, 0x243185be, 0x550c7dc3, 0x72be5d74, 0x80deb1fe,
    0x9bdc06a7, 0xc19bf174, 0xe49b69c1, 0xefbe4786, 0x0fc19dc6, 0x240ca1cc, 0x2de92c6f,
    0x4a7484aa, 0x5cb0a9dc, 0x76f988da, 0x983e5152, 0xa831c66d, 0xb00327c8, 0xbf597fc7,
    0xc6e00bf3, 0xd5a79147, 0x06ca6351, 0x14292967, 0x27b70a85, 0x2e1b2138, 0x4d2c6dfc,
    0x53380d13, 0x650a7354, 0x766a0abb, 0x81c2c92e, 0x92722c85, 0xa2bfe8a1, 0xa81a664b,
    0xc24b8b70, 0xc76c51a3, 0xd192e819, 0xd6990624, 0xf40e3585, 0x106aa070, 0x19a4c116,
    0x1e376c08, 0x2748774c, 0x34b0bcb5, 0x391c0cb3, 0x4ed8aa4a, 0x5b9cca4f, 0x682e6ff3,
    0x748f82ee, 0x78a5636f, 0x84c87814, 0x8cc70208, 0x90befffa, 0xa4506ceb, 0xbef9a3f7,
    0xc67178f2]

/-- The eight words that a digest is made of. -/
structure State where
  a : UInt32
  b : UInt32
  c : UInt32
  d : UInt32
  e : UInt32
  f : UInt32
  g : UInt32
  h : UInt32

/-- The state before the first block. -/
def State.initial : State where
  a := 0x6a09e667
  b := 0xbb67ae85
  c := 0x3c6ef372
  d := 0xa54ff53a
  e := 0x510e527f
  f := 0x9b05688c
  g := 0x1f83d9ab
  h := 0x5be0cd19

/-- The words of a state in order. -/
def State.words (state : State) : List UInt32 :=
  [state.a, state.b, state.c, state.d, state.e, state.f, state.g, state.h]

/-- The sum of two states, word by word. -/
def State.add (left right : State) : State where
  a := left.a + right.a
  b := left.b + right.b
  c := left.c + right.c
  d := left.d + right.d
  e := left.e + right.e
  f := left.f + right.f
  g := left.g + right.g
  h := left.h + right.h

/-- A word rotated to the right. -/
def rotated (word : UInt32) (places : UInt32) : UInt32 :=
  (word >>> places) ||| (word <<< (32 - places))

/-- The state after one round with a constant and a word of the block. -/
def round (state : State) (constantAndWord : UInt32 × UInt32) : State :=
  let mixedE := rotated state.e 6 ^^^ rotated state.e 11 ^^^ rotated state.e 25
  let choice := (state.e &&& state.f) ^^^ ((~~~state.e) &&& state.g)
  let first := state.h + mixedE + choice + constantAndWord.1 + constantAndWord.2
  let mixedA := rotated state.a 2 ^^^ rotated state.a 13 ^^^ rotated state.a 22
  let majority := (state.a &&& state.b) ^^^ (state.a &&& state.c) ^^^ (state.b &&& state.c)
  { a := first + (mixedA + majority), b := state.a, c := state.b, d := state.c,
    e := state.d + first, f := state.e, g := state.f, h := state.g }

/-- The next word of a stretched block, given the last sixteen in order. -/
def nextWord (last : List UInt32) : UInt32 :=
  let word (index : Nat) : UInt32 := last.getD index 0
  let low := rotated (word 1) 7 ^^^ rotated (word 1) 18 ^^^ (word 1 >>> 3)
  let high := rotated (word 14) 17 ^^^ rotated (word 14) 19 ^^^ (word 14 >>> 10)
  word 0 + low + word 9 + high

/-- Further words of a stretched block, given the last sixteen in order. -/
def stretch : Nat → List UInt32 → List UInt32
  | 0, _ => []
  | count + 1, last =>
      let next := nextWord last
      next :: stretch count (last.drop 1 ++ [next])

/-- The state after a block of sixteen words. -/
def mixBlock (state : State) (block : List UInt32) : State :=
  state.add ((roundConstants.zip (block ++ stretch 48 block)).foldl round state)

/-- The bytes of a number, the highest first. -/
def bigEndian : Nat → Nat → List UInt8
  | 0, _ => []
  | count + 1, value => UInt8.ofNat (value / twoTo (8 * count)) :: bigEndian count value

/-- The message with a mark, zeros up to a block's end, and its length in bits. -/
def padded (message : List UInt8) : List UInt8 :=
  let zeros := (119 - message.length % 64) % 64
  message ++ 0x80 :: List.replicate zeros 0 ++ bigEndian 8 (8 * message.length)

/-- The words that bytes make up, the highest byte first. -/
def words : List UInt8 → List UInt32
  | first :: second :: third :: fourth :: rest =>
      ((first.toUInt32 <<< 24) ||| (second.toUInt32 <<< 16) ||| (third.toUInt32 <<< 8) |||
        fourth.toUInt32) :: words rest
  | _ => []

/-- The state after all blocks of a padded message. The first argument counts them. -/
def mixAll : Nat → State → List UInt32 → State
  | 0, state, _ => state
  | count + 1, state, words => mixAll count (mixBlock state (words.take 16)) (words.drop 16)

/-- The digest of bytes, in hexadecimal. -/
def digest (message : List UInt8) : String :=
  let words := words (padded message)
  let state := mixAll (words.length / 16) .initial words
  String.ofList (state.words.flatMap fun word => padLeft 8 '0' (hexText word.toNat))

end ApiContract.Text.Sha256
