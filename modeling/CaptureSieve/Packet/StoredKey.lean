import CaptureSieve.Packet.Flow

/-!
A flow key as tables hold it, with a signature that was computed when the key was made. The key of the other direction
is made when it is first asked for, and kept.
-/

namespace CaptureSieve

structure StoredKey where
  key : FlowKey
  signature : UInt64
  backwardCell : Option StoredKey

namespace StoredKey

/-- Equality goes by the five-tuple alone; a signature only tells a table where to look. -/
instance : BEq StoredKey := ⟨fun s t => s.key == t.key⟩

variable (sign : FlowKey → UInt64)

def ofKey (k : FlowKey) : StoredKey := ⟨k, sign k, none⟩

def backward (s : StoredKey) : StoredKey := s.backwardCell.getD (ofKey sign s.key.backward)

/-- What is left of a key whose other direction was asked for, and of that one again, `n` times in all. -/
def asked : Nat → StoredKey → StoredKey
  | 0, s => s
  | n + 1, s => { s with backwardCell := some (asked n (s.backward sign)) }

def canonical (s : StoredKey) : StoredKey := if s.key.isForward then s else s.backward sign

end StoredKey

end CaptureSieve
