import CaptureSieve.Instant
import CaptureSieve.LinkType

/-!
One captured packet as a capture stores it. The record names the link type of its stream, so decoding needs
nothing else.
-/

namespace CaptureSieve

structure Record where
  time : Instant
  link : LinkType
  /-- The length of the packet on the wire, which the captured bytes may fall short of. -/
  wireLength : UInt32
  data : List UInt8
  deriving DecidableEq

end CaptureSieve
