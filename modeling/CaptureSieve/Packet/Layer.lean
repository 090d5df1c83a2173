/-!
One protocol layer of a packet, as positions in the record's bytes.
-/

namespace CaptureSieve

inductive LayerKind where
  | loopback
  | ethernet
  | vlan
  | pppoe
  | ipv4
  | ipv6
  | tcp
  | udp
  deriving DecidableEq, Repr

namespace LayerKind

def name : LayerKind → String
  | loopback => "loopback"
  | ethernet => "Ethernet"
  | vlan => "VLAN"
  | pppoe => "PPPoE"
  | ipv4 => "IPv4"
  | ipv6 => "IPv6"
  | tcp => "TCP"
  | udp => "UDP"

def all : List LayerKind := [loopback, ethernet, vlan, pppoe, ipv4, ipv6, tcp, udp]

end LayerKind

/-- A layer's header begins at `start` and its payload ends before `stop`. -/
structure Layer where
  kind : LayerKind
  start : Nat
  headerSize : Nat
  stop : Nat
  deriving DecidableEq, Repr

namespace Layer

def payloadStart (l : Layer) : Nat := l.start + l.headerSize

def slice (first last : Nat) (data : List UInt8) : List UInt8 := (data.drop first).take (last - first)

theorem length_slice (first last : Nat) (data : List UInt8) :
    (slice first last data).length = min (last - first) (data.length - first) := by
  simp [slice]

def bytes (l : Layer) (data : List UInt8) : List UInt8 := slice l.start l.stop data

def payload (l : Layer) (data : List UInt8) : List UInt8 := slice l.payloadStart l.stop data

end Layer

end CaptureSieve
