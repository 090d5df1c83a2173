/-!
Link types: the 32-bit code a capture stores for the framing of its records, read as a signed number.
-/

namespace CaptureSieve

structure LinkType where
  word : UInt32
  deriving DecidableEq, Repr

namespace LinkType

def ofNat (n : Nat) : LinkType := ⟨UInt32.ofNat n⟩

def ofCode (code : Int) : LinkType := ofNat (code % 0x1_0000_0000).toNat

def code (l : LinkType) : Int :=
  if l.word.toNat < 0x8000_0000 then (l.word.toNat : Int) else (l.word.toNat : Int) - 0x1_0000_0000

/-- A four-byte address family in the capturing host's byte order. -/
def null : LinkType := ⟨0⟩

def ethernet : LinkType := ⟨1⟩

def raw : LinkType := ⟨101⟩

/-- A four-byte address family in network byte order. -/
def loop : LinkType := ⟨108⟩

end LinkType

end CaptureSieve
