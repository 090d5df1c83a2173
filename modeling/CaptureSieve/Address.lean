import CaptureSieve.ByteOrder

/-!
IP addresses, their order and their text.
-/

namespace CaptureSieve

structure Ipv4Address where
  bits : BitVec 32
  deriving DecidableEq, Repr

namespace Ipv4Address

def ofOctets (a b c d : Nat) : Ipv4Address := ⟨BitVec.ofNat 32 (((a * 256 + b) * 256 + c) * 256 + d)⟩

def ofBytes (bytes : List UInt8) (i : Nat) : Ipv4Address := ⟨BitVec.ofNat 32 (ByteOrder.big.word32 bytes i)⟩

def value (a : Ipv4Address) : Nat := a.bits.toNat

def bytes (a : Ipv4Address) : List UInt8 := ByteOrder.big.bytes32 a.value

def text (a : Ipv4Address) : String := ".".intercalate (a.bytes.map fun b => toString b.toNat)

def octet? (digits : List Char) : Option Nat :=
  if digits.isEmpty ∨ !digits.all Char.isDigit ∨ (digits.length > 1 ∧ digits.head? = some '0') then none
  else
    let n := digits.foldl (fun n c => 10 * n + (c.toNat - 48)) 0
    if n < 256 then some n else none

def ofText? (text : String) : Option Ipv4Address :=
  match text.splitOn "." with
  | [a, b, c, d] => do
    return ofOctets (← octet? a.toList) (← octet? b.toList) (← octet? c.toList) (← octet? d.toList)
  | _ => none

end Ipv4Address

structure Ipv6Address where
  bits : BitVec 128
  deriving DecidableEq, Repr

namespace Ipv6Address

def value (a : Ipv6Address) : Nat := a.bits.toNat

def ofGroups (groups : List Nat) : Ipv6Address := ⟨BitVec.ofNat 128 (groups.foldl (fun n g => 65536 * n + g) 0)⟩

def groups (a : Ipv6Address) : List Nat :=
  [7, 6, 5, 4, 3, 2, 1, 0].map fun i => (a.value >>> (16 * i)) % 65536

def hexText (n : Nat) : String := String.ofList (Nat.toDigits 16 n)

def zeroRun (groups : List Nat) : Nat := (groups.takeWhile (· == 0)).length

/-- Position and length of the longest run of zero groups, the first of several equally long. -/
def longestZeroRun (groups : List Nat) : Nat × Nat :=
  ((List.range groups.length).map fun i => (i, zeroRun (groups.drop i))).foldl
    (fun best run => if best.2 < run.2 then run else best) (0, 0)

def joined (groups : List Nat) : String := ":".intercalate (groups.map hexText)

/-- The notation of RFC 5952: the longest run of at least two zero groups is left out, and an IPv4-mapped
address ends in its dotted quad. -/
def text (a : Ipv6Address) : String :=
  let groups := a.groups
  let (start, length) := longestZeroRun groups
  if a.value / 0x1_0000_0000 = 0xffff then
    "::ffff:" ++ (Ipv4Address.mk (BitVec.ofNat 32 a.value)).text
  else if 2 ≤ length then
    joined (groups.take start) ++ "::" ++ joined (groups.drop (start + length))
  else joined groups

def hexDigit? (c : Char) : Option Nat :=
  if c.isDigit then some (c.toNat - 48)
  else if 'a' ≤ c ∧ c ≤ 'f' then some (c.toNat - 87)
  else if 'A' ≤ c ∧ c ≤ 'F' then some (c.toNat - 55)
  else none

def group? (text : String) : Option Nat :=
  if text.isEmpty ∨ 4 < text.length then none
  else text.toList.foldlM (fun n c => (hexDigit? c).map (16 * n + ·)) 0

/-- The groups of one side of `::`, whose last item may be a dotted quad. -/
def side? (text : String) : Option (List Nat) :=
  if text.isEmpty then some []
  else
    let items := text.splitOn ":"
    match items.getLast?.bind Ipv4Address.ofText? with
    | some quad => (items.dropLast.mapM group?).map (· ++ [quad.value / 65536, quad.value % 65536])
    | none => items.mapM group?

def ofText? (text : String) : Option Ipv6Address :=
  match text.splitOn "::" with
  | [whole] => do
    let groups ← side? whole
    if groups.length = 8 then some (ofGroups groups) else none
  | [left, right] => do
    let front ← side? left
    let back ← side? right
    let missing := 8 - (front.length + back.length)
    if 0 < missing then some (ofGroups (front ++ List.replicate missing 0 ++ back)) else none
  | _ => none

end Ipv6Address

inductive Address where
  | v4 (address : Ipv4Address)
  | v6 (address : Ipv6Address)
  deriving DecidableEq, Repr

namespace Address

def rank : Address → Nat
  | v4 a => a.value
  | v6 a => 0x1_0000_0000 + a.value

theorem rank_injective {a b : Address} (h : a.rank = b.rank) : a = b := by
  have below : ∀ x : Ipv4Address, x.value < 0x1_0000_0000 := fun x => x.bits.isLt
  cases a with
  | v4 x =>
    cases b with
    | v4 y => exact congrArg v4 (congrArg Ipv4Address.mk (BitVec.eq_of_toNat_eq h))
    | v6 y => have := below x; simp only [rank] at h; omega
  | v6 x =>
    cases b with
    | v4 y => have := below y; simp only [rank] at h; omega
    | v6 y => exact congrArg v6 (congrArg Ipv6Address.mk (BitVec.eq_of_toNat_eq (Nat.add_left_cancel h)))

def text : Address → String
  | v4 a => a.text
  | v6 a => a.text

def ofText? (text : String) : Option Address :=
  match Ipv4Address.ofText? text with
  | some a => some (v4 a)
  | none => (Ipv6Address.ofText? text).map v6

end Address

end CaptureSieve
