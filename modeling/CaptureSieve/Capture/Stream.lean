/-!
Byte streams as a reader meets them: the bytes, what follows them, and how the stream is cut into reads.
-/

namespace CaptureSieve

inductive Ending where
  | closed
  | broken (reason : String)
  deriving DecidableEq, Repr

structure ByteStream where
  bytes : List UInt8
  ending : Ending
  /-- The most that the read at an offset gives. A read gives at least one byte while there are any. -/
  readSize : Nat → Nat

namespace ByteStream

def ofBytes (bytes : List UInt8) : ByteStream := ⟨bytes, .closed, fun _ => bytes.length⟩

def unreadable (reason : String) : ByteStream := ⟨[], .broken reason, fun _ => 0⟩

/-- A read that gives nothing is the end, so pieces of no size leave nothing. -/
def inPieces (s : ByteStream) (size : Nat) : ByteStream :=
  if size = 0 then { s with bytes := [], ending := .closed } else { s with readSize := fun _ => size }

def breakAfter (s : ByteStream) (count : Nat) (reason : String) : ByteStream :=
  if s.bytes.length < count then s else { s with bytes := s.bytes.take count, ending := .broken reason }

end ByteStream

end CaptureSieve
