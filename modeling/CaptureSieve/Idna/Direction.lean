import CaptureSieve.Idna.Mark

/-!
Writing directions: when a name holds characters written from right to left, each of its labels keeps to one direction.
-/

namespace CaptureSieve.Idna

inductive Direction where
  | left
  | right
  | arabicNumber
  | europeanNumber
  | nonspacing
  | neutral
  | blank
  deriving DecidableEq, Repr

def rightTurns : List Nat :=
  [1470, 1471, 1472, 1473, 1475, 1476, 1478, 1479, 1488, 1542, 1544, 1545, 1547, 1548, 1549, 1550, 1563, 1611, 1645,
   1648, 1649, 1750, 1765, 1767, 1774, 1776, 1786, 1809, 1810, 1840, 1869, 1958, 1969, 2027, 2036, 2038, 2042, 2045,
   2046, 2070, 2074, 2075, 2084, 2085, 2088, 2089, 2096, 2137, 2142, 2199, 2208, 2250, 64434, 64451, 65139, 65536,
   67584, 67871, 67872, 68097, 68112, 68152, 68160, 68325, 68331, 68409, 68416, 68900, 68928, 68969, 68975, 69216,
   69248, 69291, 69293, 69329, 69376, 69446, 69457, 69506, 69510, 69632, 124928, 125136, 125218, 125252, 125259,
   126704]

def arabicNumberTurns : List Nat :=
  [1632, 1642, 1643, 1645, 68912, 68928, 69216, 69248]

def europeanNumberTurns : List Nat :=
  [1776, 1786, 66273, 66304]

def neutralTurns : List Nat :=
  [161, 223, 247, 248, 697, 699, 706, 720, 722, 750, 751, 768, 885, 887, 1014, 1016, 1418, 1425, 1542, 1544, 1545,
   1547, 1548, 1549, 1550, 1552, 1642, 1643, 1758, 1759, 1769, 1770, 2038, 2042, 2546, 2548, 2555, 2556, 2801, 2809,
   3059, 3072, 3192, 3199, 3647, 3648, 3898, 3902, 5008, 5024, 5120, 5121, 5787, 5792, 6107, 6108, 6128, 6160, 6464,
   6470, 6622, 6656, 8204, 8400, 8452, 8526, 8586, 9014, 9083, 9109, 9110, 9900, 9901, 10240, 10496, 11312, 11493,
   11500, 11513, 11520, 11776, 12293, 12296, 12321, 12336, 12337, 12343, 12347, 12349, 12353, 12448, 12449, 12539,
   12540, 12736, 12784, 19904, 19968, 42128, 42192, 42509, 42512, 42611, 42612, 42622, 42625, 42752, 42787, 42888,
   42889, 43048, 43052, 43064, 43072, 43124, 43136, 43882, 43968, 64451, 65056, 65093, 65139, 65793, 65794, 65856,
   65933, 65936, 66000, 67871, 67872, 68409, 68416, 68974, 68975, 69329, 69370, 69714, 69734, 71264, 71296, 73685,
   73727, 94178, 94179, 117760, 118528, 119273, 119362, 119365, 119488, 119552, 119648, 123647, 124112, 126704, 127312,
   127341, 127344, 127405, 127462, 127584, 131072]

def leftMarks : List Nat := [0xcbf, 0xcc6, 0x11a07, 0x11a08, 0x11c3f]

namespace Direction

def ofAscii (c : Char) : Direction :=
  if c.isAlpha then left
  else if c.isDigit then europeanNumber
  else if (9 ≤ c.toNat ∧ c.toNat ≤ 13) ∨ (28 ≤ c.toNat ∧ c.toNat ≤ 32) then blank
  else neutral

def ofChar (c : Char) : Direction :=
  if c.toNat < 128 then ofAscii c
  else if Text.isWithin rightTurns c then right
  else if Text.isWithin arabicNumberTurns c then arabicNumber
  else if Text.isWithin europeanNumberTurns c then europeanNumber
  else if Text.isWithin neutralTurns c then neutral
  else if isNonspacing c && !leftMarks.contains c.toNat then nonspacing
  else left

def keepsLeft (s : List Direction) : Bool :=
  s.all (· ∈ [left, europeanNumber, nonspacing, neutral]) &&
    (s.reverse.dropWhile (· == nonspacing)).head?.all (· ∈ [left, europeanNumber])

def keepsRight (s : List Direction) : Bool :=
  s.all (· ∈ [right, arabicNumber, europeanNumber, nonspacing, neutral]) &&
    !(s.contains arabicNumber && s.contains europeanNumber) &&
    (s.reverse.dropWhile (· == nonspacing)).head?.all (· ∈ [right, arabicNumber, europeanNumber])

def keepsOne : List Direction → Bool
  | [] => true
  | left :: rest => keepsLeft rest
  | right :: rest => keepsRight rest
  | _ :: _ => false

end Direction

def directionsFit (labels : List (List Char)) : Bool :=
  let directions := labels.map (·.map Direction.ofChar)
  !(directions.any (·.any (· ∈ [.right, .arabicNumber]))) || directions.all Direction.keepsOne

end CaptureSieve.Idna
