/-!
White space in the sense of Unicode, and its removal from both ends of a text.
-/

namespace CaptureSieve.Text

def blankCodes : List (Nat × Nat) :=
  [(0x09, 0x0d), (0x20, 0x20), (0x85, 0x85), (0xa0, 0xa0), (0x1680, 0x1680), (0x2000, 0x200a), (0x2028, 0x2029),
   (0x202f, 0x202f), (0x205f, 0x205f), (0x3000, 0x3000)]

def isBlank (c : Char) : Bool := blankCodes.any fun (first, last) => first ≤ c.toNat && c.toNat ≤ last

def trim (s : List Char) : List Char := ((s.dropWhile isBlank).reverse.dropWhile isBlank).reverse

end CaptureSieve.Text
