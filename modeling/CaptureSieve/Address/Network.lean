import CaptureSieve.Address

/-!
IPv4 networks given by an address and the number of its leading bits that count.
-/

namespace CaptureSieve

structure Network where
  address : Ipv4Address
  size : Nat
  deriving DecidableEq, Repr

namespace Network

def hostBits (n : Network) : Nat := 32 - n.size

def contains (n : Network) (a : Ipv4Address) : Bool :=
  a.value >>> n.hostBits == n.address.value >>> n.hostBits

theorem contains_iff {n : Network} {a : Ipv4Address} :
    n.contains a = true ↔ a.value >>> n.hostBits = n.address.value >>> n.hostBits := by
  simp [contains]

def text (n : Network) : String := n.address.text ++ "/" ++ toString n.size

end Network

end CaptureSieve
