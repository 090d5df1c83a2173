import CaptureSieve.Address

/-!
Headers that a decoder accepts: each is the header's own bytes, options included, with its fields as
functions on them.
-/

namespace CaptureSieve

structure Ipv4Header where
  bytes : List UInt8
  deriving DecidableEq

namespace Ipv4Header

def ofBytes? (b : List UInt8) : Option Ipv4Header :=
  let size := 4 * (byteAt b 0 % 16)
  if byteAt b 0 / 16 = 4 ∧ 20 ≤ size ∧ size ≤ b.length then some ⟨b.take size⟩ else none

def size (h : Ipv4Header) : Nat := h.bytes.length

def totalLength (h : Ipv4Header) : Nat := ByteOrder.big.word16 h.bytes 2

def isFragment (h : Ipv4Header) : Bool := ByteOrder.big.word16 h.bytes 6 % 0x4000 != 0

def protocol (h : Ipv4Header) : UInt8 := h.bytes.getD 9 0

def source (h : Ipv4Header) : Ipv4Address := .ofBytes h.bytes 12

def destination (h : Ipv4Header) : Ipv4Address := .ofBytes h.bytes 16

end Ipv4Header

structure Ipv6Header where
  bytes : List UInt8
  deriving DecidableEq

namespace Ipv6Header

def ofBytes? (b : List UInt8) : Option Ipv6Header :=
  if byteAt b 0 / 16 = 6 ∧ 40 ≤ b.length then some ⟨b.take 40⟩ else none

def payloadLength (h : Ipv6Header) : Nat := ByteOrder.big.word16 h.bytes 4

def nextHeader (h : Ipv6Header) : UInt8 := h.bytes.getD 6 0

end Ipv6Header

structure TcpHeader where
  bytes : List UInt8
  deriving DecidableEq

namespace TcpHeader

def ofBytes? (b : List UInt8) : Option TcpHeader :=
  let size := 4 * (byteAt b 12 / 16)
  if 20 ≤ size ∧ size ≤ b.length then some ⟨b.take size⟩ else none

def size (h : TcpHeader) : Nat := h.bytes.length

def sourcePort (h : TcpHeader) : UInt16 := UInt16.ofNat (ByteOrder.big.word16 h.bytes 0)

def destinationPort (h : TcpHeader) : UInt16 := UInt16.ofNat (ByteOrder.big.word16 h.bytes 2)

end TcpHeader

structure UdpHeader where
  bytes : List UInt8
  deriving DecidableEq

namespace UdpHeader

/-- The length field is not looked at. -/
def ofBytes? (b : List UInt8) : Option UdpHeader :=
  if 8 ≤ b.length then some ⟨b.take 8⟩ else none

def sourcePort (h : UdpHeader) : UInt16 := UInt16.ofNat (ByteOrder.big.word16 h.bytes 0)

def destinationPort (h : UdpHeader) : UInt16 := UInt16.ofNat (ByteOrder.big.word16 h.bytes 2)

def checksum (h : UdpHeader) : Nat := ByteOrder.big.word16 h.bytes 6

end UdpHeader

end CaptureSieve
