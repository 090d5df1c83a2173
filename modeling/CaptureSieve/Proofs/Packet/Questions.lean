import CaptureSieve.Proofs.Filter.Views

/-!
Questions asked of one view, in any order and as often as one likes. Each is answered as if it were the first, whatever
the questions before it have put into the cells or failed to find.
-/

namespace CaptureSieve

inductive Question where
  | layers
  | layer (kind : LayerKind)
  | layerBytes (kind : LayerKind)
  | ipv4
  | tcp
  | udp
  | datagram
  | udpPayload
  | protocol
  | isTcp
  | isUdp
  | sourcePort
  | destinationPort
  | source
  | destination
  | sourceText
  | destinationText
  | flowKey
  | isDns
  | dnsMessage
  | verify (transport : Bool)
  | checksumOk (transport : Bool)
  | classify (verifyTransport : Bool)
  | passes (filter : Filter)

namespace Question

def Answer : Question → Type
  | layers => Except PacketError (List Layer)
  | layer _ => Except PacketError Layer
  | layerBytes _ | datagram | udpPayload => Except PacketError (List UInt8)
  | ipv4 => Except PacketError Ipv4Header
  | tcp => Except PacketError TcpHeader
  | udp => Except PacketError UdpHeader
  | protocol => Except PacketError UInt8
  | sourcePort | destinationPort => Except PacketError UInt16
  | source | destination => Except PacketError Ipv4Address
  | sourceText | destinationText => Except PacketError String
  | flowKey => Except PacketError FlowKey
  | dnsMessage => Dns.Message
  | verify _ => Except PacketError Verification
  | classify _ => Verdict
  | isTcp | isUdp | isDns | checksumOk _ | passes _ => Bool

def ask : (q : Question) → View.Access q.Answer
  | layers => View.layers
  | layer kind => View.layer kind
  | layerBytes kind => View.layerBytes kind
  | ipv4 => View.ipv4
  | tcp => View.tcp
  | udp => View.udp
  | datagram => View.datagram
  | udpPayload => View.udpPayload
  | protocol => View.protocol
  | isTcp => View.isTcp
  | isUdp => View.isUdp
  | sourcePort => View.sourcePort
  | destinationPort => View.destinationPort
  | source => View.source
  | destination => View.destination
  | sourceText => View.sourceText
  | destinationText => View.destinationText
  | flowKey => View.flowKey
  | isDns => View.isDns
  | dnsMessage => View.dnsMessage
  | verify transport => View.verify transport
  | checksumOk transport => View.checksumOk transport
  | classify verifyTransport => View.classify verifyTransport
  | passes filter => filter.check

def answer (r : Record) : (q : Question) → q.Answer
  | layers => r.layers
  | layer kind => r.layer kind
  | layerBytes kind => r.layerBytes kind
  | ipv4 => r.ipv4
  | tcp => r.tcp
  | udp => r.udp
  | datagram => r.datagram
  | udpPayload => r.udpPayload
  | protocol => r.protocol
  | isTcp => r.isTcp
  | isUdp => r.isUdp
  | sourcePort => r.sourcePort
  | destinationPort => r.destinationPort
  | source => r.source
  | destination => r.destination
  | sourceText => r.source.map (·.text)
  | destinationText => r.destination.map (·.text)
  | flowKey => r.flowKey
  | isDns => r.isDns
  | dnsMessage => r.dnsMessage
  | verify transport => r.verify transport
  | checksumOk transport => r.checksumOk transport
  | classify verifyTransport => r.classify verifyTransport
  | passes filter => filter.admits r

lemma reads_ask (r : Record) (q : Question) : q.ask.Reads r (q.answer r) := by
  cases q with
  | layers => exact View.reads_layers r
  | layer kind => exact View.reads_layer r kind
  | layerBytes kind => exact View.reads_layerBytes r kind
  | ipv4 => exact View.reads_ipv4 r
  | tcp => exact View.reads_tcp r
  | udp => exact View.reads_udp r
  | datagram => exact View.reads_datagram r
  | udpPayload => exact View.reads_udpPayload r
  | protocol => exact View.reads_protocol r
  | isTcp => exact View.reads_isTcp r
  | isUdp => exact View.reads_isUdp r
  | sourcePort => exact View.reads_sourcePort r
  | destinationPort => exact View.reads_destinationPort r
  | source => exact View.reads_source r
  | destination => exact View.reads_destination r
  | sourceText => exact View.reads_sourceText r
  | destinationText => exact View.reads_destinationText r
  | flowKey => exact View.reads_flowKey r
  | isDns => exact View.reads_isDns r
  | dnsMessage => exact View.reads_dnsMessage r
  | verify transport => exact View.reads_verify r transport
  | checksumOk transport => exact View.reads_checksumOk r transport
  | classify verifyTransport => exact View.reads_classify r verifyTransport
  | passes filter => exact Filter.reads_filter r filter

def askAll : List Question → View.Access (List ((q : Question) × q.Answer))
  | [] => .answer []
  | q :: later => fun v =>
    let (x, v) := q.ask v
    let (answers, v) := askAll later v
    (⟨q, x⟩ :: answers, v)

lemma reads_askAll (r : Record) (qs : List Question) : (askAll qs).Reads r (qs.map fun q => ⟨q, q.answer r⟩) := by
  induction qs with
  | nil => exact View.Access.reads_answer []
  | cons q later ih =>
    intro v hv
    obtain ⟨hx, hkept⟩ := reads_ask r q v hv
    obtain ⟨hlater, hend⟩ := ih (q.ask v).2 hkept
    refine ⟨?_, hend⟩
    rw [List.map_cons, ← hx, ← hlater]
    rfl

theorem answered_as_first (r : Record) (qs : List Question) :
    (askAll qs (.ofRecord r)).1 = qs.map (fun q => ⟨q, (q.ask (.ofRecord r)).1⟩) ∧
      (askAll qs (.ofRecord r)).2.record = r := by
  have hnew := View.keeps_ofRecord r
  obtain ⟨hanswers, hkept⟩ := reads_askAll r qs _ hnew
  have hfirst : ∀ q : Question, (q.ask (.ofRecord r)).1 = q.answer r := fun q => (reads_ask r q _ hnew).1
  constructor
  · rw [hanswers]
    exact List.map_congr_left fun q _ => by rw [hfirst q]
  · exact hkept.record

end Question

end CaptureSieve
