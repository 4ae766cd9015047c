/-!
# Stretches of code points

A set of code points as the bounds where its stretches begin and end, in rising order.
-/

namespace PowerGrant.Text

/-- Whether `n` lies in the set whose bounds are given, where `member` tells whether the code points
before the first bound do. -/
def alternates (n : Nat) : Bool → List Nat → Bool
  | member, [] => member
  | member, b :: bs => if b ≤ n then alternates n (!member) bs else member

end PowerGrant.Text
