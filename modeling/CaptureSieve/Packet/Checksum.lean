import CaptureSieve.ByteOrder

/-!
The Internet checksum: the complement of the ones' complement sum of 16-bit words.
-/

namespace CaptureSieve.Checksum

def addWords (total : Nat) : List UInt8 → Nat
  | [] => total
  | [high] => total + 256 * high.toNat
  | high :: low :: rest => addWords (total + (256 * high.toNat + low.toNat)) rest

/-- Brings the carries of a plain sum around into its low 16 bits. Zero is kept for the empty sum alone. -/
def carryAround (total : Nat) : Nat := if total = 0 then 0 else (total - 1) % 65535 + 1

/-- The checksum of several parts, each filled up to whole words. It is zero over bytes that hold their own
checksum. -/
def internet (parts : List (List UInt8)) : Nat := 65535 - carryAround (parts.foldl addWords 0)

def pseudoHeader (source destination : List UInt8) (protocol : UInt8) (length : Nat) : List UInt8 :=
  source ++ destination ++ [0, protocol] ++ ByteOrder.big.bytes16 length

end CaptureSieve.Checksum
