/-!
# Powers of two and of ten

Ranges of machine words are bounded by powers of two, and digits are scaled by powers
of ten.
-/

namespace ApiContract

/-- A power of two. -/
def twoTo (exponent : Nat) : Nat :=
  Nat.pow 2 exponent

/-- A power of ten. -/
def tenTo (exponent : Nat) : Nat :=
  Nat.pow 10 exponent

theorem twoTo_pos (exponent : Nat) : 0 < twoTo exponent :=
  Nat.pow_pos (by decide)

end ApiContract
