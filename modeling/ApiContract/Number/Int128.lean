import ApiContract.Number.Binary64

/-!
# Integers of 128 bits

The big integers of the wire are signed integers of 128 bits.  The range is part
of the type, so that an operation that could leave it says what it does there.
-/

namespace ApiContract

/-- A signed integer of 128 bits. -/
structure Int128 where
  toInt : Int
  lower : -twoTo 127 ≤ toInt
  upper : toInt < twoTo 127
  deriving DecidableEq

namespace Int128

/-- The integer, if it fits. -/
def ofInt? (integer : Int) : Option Int128 :=
  if inRange : -twoTo 127 ≤ integer ∧ integer < twoTo 127 then
    some ⟨integer, inRange.1, inRange.2⟩
  else
    none

/-- The integer of the range that lies nearest. -/
def saturate (integer : Int) : Int128 where
  toInt := max (-twoTo 127) (min (twoTo 127 - 1) integer)
  lower := by omega
  upper := by
    have positive := twoTo_pos 127
    omega

/-- A float rounded toward zero, with values beyond the range at its nearer end
and a NaN at zero. -/
def ofBinary64 (number : Binary64) : Int128 :=
  saturate (number.clampToInt (-twoTo 127) (twoTo 127 - 1))

/-- The nearest binary64 number. -/
def toBinary64 (integer : Int128) : Binary64 :=
  .ofInt integer.toInt

@[simp] theorem ofInt?_toInt (integer : Int128) : ofInt? integer.toInt = some integer :=
  dif_pos ⟨integer.lower, integer.upper⟩

end Int128

end ApiContract
