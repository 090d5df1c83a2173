/-!
Sets of code points given by their turns: the points at which membership changes, in order, from the first member on.
-/

namespace CaptureSieve.Text

def isWithin (turns : List Nat) (c : Char) : Bool := (turns.takeWhile (· ≤ c.toNat)).length % 2 == 1

end CaptureSieve.Text
