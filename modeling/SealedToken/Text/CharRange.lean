/-! # Ranges of code points

Properties of characters are tables of ranges, both ends included. -/

namespace SealedToken

abbrev CharRange := Nat × Nat

namespace CharRange

def covers (v : Nat) (r : CharRange) : Bool := r.1 ≤ v && v ≤ r.2

/-- Whether a character lies in one of the ranges. -/
def anyCovers (rs : List CharRange) (c : Char) : Bool := rs.any (covers c.toNat)

end CharRange

end SealedToken
