import CaptureSieve.LinkType
import CaptureSieve.Packet.Layer

/-!
Why a packet does not give what was asked of it. None of these ends a run.
-/

namespace CaptureSieve

inductive ChecksumScope where
  | ipv4Header
  | tcp
  | udp
  deriving DecidableEq, Repr

def ChecksumScope.name : ChecksumScope → String
  | ipv4Header => "IPv4 header"
  | tcp => "TCP"
  | udp => "UDP"

inductive Malformation where
  | shortLoopback (available : Nat)
  | shortEthernet (available : Nat)
  | rawVersion (version : Nat)
  | emptyRaw
  | header (kind : LayerKind)
  | longSegment (size : Nat)
  deriving DecidableEq, Repr

def Malformation.message : Malformation → String
  | shortLoopback n => s!"loopback header needs 4 bytes, got {n}"
  | shortEthernet n =>
    "Ethernet 2 Header Error: Not enough data to decode 'Ethernet 2 header'. 14 byte(s) would be required, " ++
      s!"but only {n} byte(s) are available based on the slice length."
  | rawVersion n => s!"raw IP record with version {n}"
  | emptyRaw => "empty raw IP record"
  | header kind => s!"{kind.name} header does not decode"
  | longSegment n => s!"segment of {n} bytes"

inductive PacketError where
  | malformed (cause : Malformation)
  | unsupportedLink (link : LinkType)
  | layerNotFound (kind : LayerKind)
  | notTransport (protocol : UInt8)
  | checksumMismatch (scope : ChecksumScope)
  deriving DecidableEq, Repr

def PacketError.message : PacketError → String
  | malformed cause => "malformed record: " ++ cause.message
  | unsupportedLink link => s!"unsupported link type {link.code}"
  | layerNotFound kind => s!"no {kind.name} layer in packet"
  | notTransport protocol => s!"packet is neither TCP nor UDP (IP protocol {protocol})"
  | checksumMismatch scope => s!"{scope.name} checksum mismatch"

end CaptureSieve
