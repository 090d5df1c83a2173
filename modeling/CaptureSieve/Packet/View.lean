import CaptureSieve.Packet.Verdict

/-!
A record whose decoding and derived values are kept once computed. Every access gives its answer together
with the view to go on with.
-/

namespace CaptureSieve

/-- A cell is empty until its value was first asked for. Of addresses and flow only a success is kept. -/
structure View where
  record : Record
  layersCell : Option (Except PacketError (List Layer))
  sourceCell : Option String
  destinationCell : Option String
  flowCell : Option FlowKey
  dnsCell : Option Bool
  messageCell : Option Dns.Message

namespace View

abbrev Access (α : Type) := View → α × View

def ofRecord (r : Record) : View := ⟨r, none, none, none, none, none, none⟩

namespace Access

def map {α β : Type} (f : α → β) (a : Access α) : Access β := fun v =>
  let (x, v) := a v
  (f x, v)

def andThen {α β : Type} (a : Access (Except PacketError α)) (f : α → Access (Except PacketError β)) :
    Access (Except PacketError β) := fun v =>
  match a v with
  | (.ok x, v) => f x v
  | (.error e, v) => (.error e, v)

def answer {α : Type} (x : α) : Access α := fun v => (x, v)

end Access

def layers : Access (Except PacketError (List Layer)) := fun v =>
  match v.layersCell with
  | some kept => (kept, v)
  | none =>
    let layers := v.record.layers
    (layers, { v with layersCell := some layers })

def layer (kind : LayerKind) : Access (Except PacketError Layer) :=
  layers.map (·.bind (Layers.find kind))

def layerBytes (kind : LayerKind) : Access (Except PacketError (List UInt8)) := fun v =>
  (layer kind).map (·.map (·.bytes v.record.data)) v

def header {α : Type} (kind : LayerKind) (ofBytes? : List UInt8 → Option α) : Access (Except PacketError α) :=
  (layerBytes kind).map (·.bind (Layers.header kind ofBytes?))

def ipv4 : Access (Except PacketError Ipv4Header) := header .ipv4 Ipv4Header.ofBytes?

def tcp : Access (Except PacketError TcpHeader) := header .tcp TcpHeader.ofBytes?

def udp : Access (Except PacketError UdpHeader) := header .udp UdpHeader.ofBytes?

def datagram : Access (Except PacketError (List UInt8)) := layerBytes .ipv4

def udpPayload : Access (Except PacketError (List UInt8)) := fun v =>
  (layer .udp).map (·.map (·.payload v.record.data)) v

def protocol : Access (Except PacketError UInt8) := ipv4.map (·.map (·.protocol))

def isProtocol (protocol : UInt8) : Access Bool :=
  View.protocol.map fun p => (p.map (· == protocol)).toOption.getD false

def isTcp : Access Bool := isProtocol Layers.tcpProtocol

def isUdp : Access Bool := isProtocol Layers.udpProtocol

def port (ofTcp : TcpHeader → UInt16) (ofUdp : UdpHeader → UInt16) : Access (Except PacketError UInt16) :=
  protocol.andThen fun protocol =>
    if protocol = Layers.tcpProtocol then tcp.map (·.map ofTcp)
    else if protocol = Layers.udpProtocol then udp.map (·.map ofUdp)
    else .answer (.error (.notTransport protocol))

def sourcePort : Access (Except PacketError UInt16) := port (·.sourcePort) (·.sourcePort)

def destinationPort : Access (Except PacketError UInt16) := port (·.destinationPort) (·.destinationPort)

def source : Access (Except PacketError Ipv4Address) := ipv4.map (·.map (·.source))

def destination : Access (Except PacketError Ipv4Address) := ipv4.map (·.map (·.destination))

def sourceText : Access (Except PacketError String) := fun v =>
  match v.sourceCell with
  | some kept => (.ok kept, v)
  | none => (source.andThen fun a v => (.ok a.text, { v with sourceCell := some a.text })) v

def destinationText : Access (Except PacketError String) := fun v =>
  match v.destinationCell with
  | some kept => (.ok kept, v)
  | none => (destination.andThen fun a v => (.ok a.text, { v with destinationCell := some a.text })) v

def freshFlowKey : Access (Except PacketError FlowKey) :=
  source.andThen fun source =>
  sourcePort.andThen fun sourcePort =>
  destination.andThen fun destination =>
  destinationPort.andThen fun destinationPort =>
  protocol.andThen fun protocol =>
  .answer (.ok ⟨.v4 source, sourcePort, .v4 destination, destinationPort, protocol⟩)

def flowKey : Access (Except PacketError FlowKey) := fun v =>
  match v.flowCell with
  | some kept => (.ok kept, v)
  | none => (freshFlowKey.andThen fun key v => (.ok key, { v with flowCell := some key })) v

def freshIsDns : Access Bool := fun v =>
  match isUdp v with
  | (false, v) => (false, v)
  | (true, v) =>
    udp.map (fun h => (h.map fun h => Dns.isPort h.sourcePort h.destinationPort).toOption.getD false) v

def isDns : Access Bool := fun v =>
  match v.dnsCell with
  | some kept => (kept, v)
  | none =>
    let (answer, v) := freshIsDns v
    (answer, { v with dnsCell := some answer })

def dnsMessage : Access Dns.Message := fun v =>
  match v.messageCell with
  | some kept => (kept, v)
  | none =>
    let (payload, v) := udpPayload v
    let message := (payload.toOption.bind Dns.Message.ofBytes?).getD .empty
    (message, { v with messageCell := some message })

def verifySegment (ip : Ipv4Header) (kind : LayerKind) (scope : ChecksumScope) :
    Access (Except PacketError Verification) := fun v =>
  match layerBytes kind v with
  | (.error _, v) => (.ok (.unverifiable .noTransport), v)
  | (.ok segment, v) =>
    if scope = .udp then
      (udp.andThen fun h =>
        if h.checksum = 0 then .answer (.ok (.unverifiable .udpChecksumAbsent))
        else .answer (Verification.ofSegment ip scope segment)) v
    else (Verification.ofSegment ip scope segment, v)

def verify (transport : Bool) : Access (Except PacketError Verification) :=
  ipv4.andThen fun ip =>
    if Checksum.internet [ip.bytes] ≠ 0 then .answer (.error (.checksumMismatch .ipv4Header))
    else if !transport then .answer (.ok .headerOnly)
    else (layer .ipv4).andThen fun l v =>
      if v.record.data.length - l.start < ip.totalLength then (.ok (.unverifiable .truncated), v)
      else
        match Verification.scope? ip.protocol with
        | none => (.ok (.unverifiable .noTransport), v)
        | some (kind, scope) => verifySegment ip kind scope v

def checksumOk (transport : Bool) : Access Bool := (verify transport).map (·.isOk)

def isTransport : Access Bool := fun v =>
  match isTcp v with
  | (true, v) => (true, v)
  | (false, v) => isUdp v

def classify (verifyTransport : Bool) : Access Verdict := fun v =>
  match ipv4 v with
  | (.error _, v) => (.drop .notIpv4, v)
  | (.ok _, v) =>
    match isTransport v with
    | (true, v) => (verify verifyTransport).map Verdict.ofVerification v
    | (false, v) => (.drop .notTransport, v)

end View

end CaptureSieve
