import CaptureSieve.Dns.Message
import CaptureSieve.Packet.Checksum
import CaptureSieve.Packet.Flow
import CaptureSieve.Packet.Layers
import CaptureSieve.Record

/-!
What a record says once it is decoded: its layers, headers, addresses, ports and flow.
-/

namespace CaptureSieve

def Layers.find (kind : LayerKind) (layers : List Layer) : Except PacketError Layer :=
  match layers.find? (·.kind = kind) with
  | some l => .ok l
  | none => .error (.layerNotFound kind)

def Layers.header {α : Type} (kind : LayerKind) (ofBytes? : List UInt8 → Option α) (bytes : List UInt8) :
    Except PacketError α :=
  match ofBytes? bytes with
  | some h => .ok h
  | none => .error (.malformed (.header kind))

def Dns.port : UInt16 := 53

def Dns.isPort (source destination : UInt16) : Bool := source == Dns.port || destination == Dns.port

namespace Record

variable (r : Record)

def layers : Except PacketError (List Layer) := Layers.decode r.link r.data

def layer (kind : LayerKind) : Except PacketError Layer := r.layers.bind (Layers.find kind)

def layerBytes (kind : LayerKind) : Except PacketError (List UInt8) :=
  (r.layer kind).map (·.bytes r.data)

def header {α : Type} (kind : LayerKind) (ofBytes? : List UInt8 → Option α) : Except PacketError α :=
  (r.layerBytes kind).bind (Layers.header kind ofBytes?)

def ipv4 : Except PacketError Ipv4Header := r.header .ipv4 Ipv4Header.ofBytes?

def tcp : Except PacketError TcpHeader := r.header .tcp TcpHeader.ofBytes?

def udp : Except PacketError UdpHeader := r.header .udp UdpHeader.ofBytes?

def datagram : Except PacketError (List UInt8) := r.layerBytes .ipv4

def udpPayload : Except PacketError (List UInt8) := (r.layer .udp).map (·.payload r.data)

def protocol : Except PacketError UInt8 := r.ipv4.map (·.protocol)

def isProtocol (protocol : UInt8) : Bool := (r.protocol.map (· == protocol)).toOption.getD false

def isTcp : Bool := r.isProtocol Layers.tcpProtocol

def isUdp : Bool := r.isProtocol Layers.udpProtocol

def port (ofTcp : TcpHeader → UInt16) (ofUdp : UdpHeader → UInt16) : Except PacketError UInt16 :=
  match r.protocol with
  | .error e => .error e
  | .ok protocol =>
    if protocol = Layers.tcpProtocol then r.tcp.map ofTcp
    else if protocol = Layers.udpProtocol then r.udp.map ofUdp
    else .error (.notTransport protocol)

def sourcePort : Except PacketError UInt16 := r.port (·.sourcePort) (·.sourcePort)

def destinationPort : Except PacketError UInt16 := r.port (·.destinationPort) (·.destinationPort)

def source : Except PacketError Ipv4Address := r.ipv4.map (·.source)

def destination : Except PacketError Ipv4Address := r.ipv4.map (·.destination)

def flowKey : Except PacketError FlowKey := do
  let source ← r.source
  let sourcePort ← r.sourcePort
  let destination ← r.destination
  let destinationPort ← r.destinationPort
  let protocol ← r.protocol
  return ⟨.v4 source, sourcePort, .v4 destination, destinationPort, protocol⟩

def isDns : Bool :=
  r.isUdp && (r.udp.map fun h => Dns.isPort h.sourcePort h.destinationPort).toOption.getD false

def dnsMessage : Dns.Message := (r.udpPayload.toOption.bind Dns.Message.ofBytes?).getD .empty

end Record

end CaptureSieve
