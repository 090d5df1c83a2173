import CaptureSieve.Packet.View
import Mathlib.Tactic.Common

/-!
The cells of a view hold what its record says, so an access answers by the record, whatever was asked before.
-/

namespace CaptureSieve.View

structure Keeps (v : View) (r : Record) : Prop where
  record : v.record = r
  layers : ∀ layers ∈ v.layersCell, layers = r.layers
  source : ∀ text ∈ v.sourceCell, r.source.map (·.text) = .ok text
  destination : ∀ text ∈ v.destinationCell, r.destination.map (·.text) = .ok text
  flow : ∀ key ∈ v.flowCell, r.flowKey = .ok key
  dns : ∀ answer ∈ v.dnsCell, answer = r.isDns
  message : ∀ message ∈ v.messageCell, message = r.dnsMessage

lemma keeps_ofRecord (r : Record) : (ofRecord r).Keeps r := by constructor <;> simp [ofRecord]

namespace Access

variable {α β : Type} {r : Record}

def orElse (a b : Access Bool) : Access Bool := fun v =>
  match a v with
  | (true, v) => (true, v)
  | (false, v) => b v

def andAlso (a b : Access Bool) : Access Bool := fun v =>
  match a v with
  | (true, v) => b v
  | (false, v) => (false, v)

def kept (fresh : Access (Except PacketError α)) (f : α → β) (cell : View → Option β) (keep : β → View → View) :
    Access (Except PacketError β) := fun v =>
  match cell v with
  | some y => (.ok y, v)
  | none => (fresh.andThen fun x v => (.ok (f x), keep (f x) v)) v

def Reads (a : Access α) (r : Record) (x : α) : Prop := ∀ v, v.Keeps r → (a v).1 = x ∧ (a v).2.Keeps r

lemma Reads.exists_view {a : Access α} {x : α} (h : a.Reads r x) {v : View} (hv : v.Keeps r) :
    ∃ w, a v = (x, w) ∧ w.Keeps r := by
  obtain ⟨hx, hkept⟩ := h v hv
  exact ⟨(a v).2, Prod.ext hx rfl, hkept⟩

lemma reads_answer (x : α) : (answer x).Reads r x := fun _ hv => ⟨rfl, hv⟩

lemma reads_ite (p : Prop) [Decidable p] (x y : α) :
    Access.Reads (if p then answer x else answer y) r (if p then x else y) := by
  split <;> exact reads_answer _

lemma Reads.map {a : Access α} {x : α} (h : a.Reads r x) (f : α → β) : (a.map f).Reads r (f x) := by
  intro v hv
  obtain ⟨hx, hkept⟩ := h v hv
  exact ⟨congrArg f hx, hkept⟩

lemma Reads.andThen_of_ok {a : Access (Except PacketError α)} {x : Except PacketError α} (h : a.Reads r x)
    {f : α → Access (Except PacketError β)} {g : α → Except PacketError β}
    (hf : ∀ y, x = .ok y → (f y).Reads r (g y)) : (a.andThen f).Reads r (x.bind g) := by
  intro v hv
  obtain ⟨w, ha, hw⟩ := h.exists_view hv
  rw [Access.andThen, ha]
  cases x with
  | error e => exact ⟨rfl, hw⟩
  | ok y => exact hf y rfl w hw

lemma Reads.andThen {a : Access (Except PacketError α)} {x : Except PacketError α} (h : a.Reads r x)
    {f : α → Access (Except PacketError β)} {g : α → Except PacketError β} (hf : ∀ y, (f y).Reads r (g y)) :
    (a.andThen f).Reads r (x.bind g) :=
  h.andThen_of_ok fun y _ => hf y

-- What is put into the cell is what the record says, since only a success gets that far.
lemma Reads.kept {fresh : Access (Except PacketError α)} {x : Except PacketError α} (h : fresh.Reads r x) {f : α → β}
    {cell : View → Option β} {keep : β → View → View}
    (hcell : ∀ v, v.Keeps r → ∀ y ∈ cell v, x.map f = .ok y)
    (hkeep : ∀ y, x.map f = .ok y → ∀ v, v.Keeps r → (keep y v).Keeps r) :
    (fresh.kept f cell keep).Reads r (x.map f) := by
  intro v hv
  rw [Access.kept]
  cases hc : cell v with
  | some y => exact ⟨(hcell v hv y hc).symm, hv⟩
  | none =>
    have hmap : x.map f = x.bind fun y => .ok (f y) := by cases x <;> rfl
    rw [hmap] at hkeep ⊢
    apply h.andThen_of_ok _ v hv
    rintro y rfl w hw
    exact ⟨rfl, hkeep (f y) rfl w hw⟩

variable {a b : Access Bool} {x y : Bool}

lemma Reads.orElse (ha : a.Reads r x) (hb : b.Reads r y) : (a.orElse b).Reads r (x || y) := by
  intro v hv
  obtain ⟨w, h, hw⟩ := ha.exists_view hv
  rw [Access.orElse, h]
  cases x with
  | true => exact ⟨rfl, hw⟩
  | false => exact hb w hw

lemma Reads.andAlso (ha : a.Reads r x) (hb : b.Reads r y) : (a.andAlso b).Reads r (x && y) := by
  intro v hv
  obtain ⟨w, h, hw⟩ := ha.exists_view hv
  rw [Access.andAlso, h]
  cases x with
  | true => exact hb w hw
  | false => exact ⟨rfl, hw⟩

end Access

section Accesses

variable (r : Record)

lemma reads_layers : Access.Reads layers r r.layers := by
  intro v hv
  rw [layers]
  cases h : v.layersCell with
  | some kept => exact ⟨hv.layers kept h, hv⟩
  | none =>
    refine ⟨congrArg Record.layers hv.record, { hv with layers := ?_ }⟩
    rintro _ ⟨⟩
    exact congrArg Record.layers hv.record

lemma reads_layer (kind : LayerKind) : (layer kind).Reads r (r.layer kind) := (reads_layers r).map _

lemma reads_layerBytes (kind : LayerKind) : (layerBytes kind).Reads r (r.layerBytes kind) := by
  intro v hv
  rw [layerBytes, hv.record]
  exact (reads_layer r kind).map _ v hv

lemma reads_header {α : Type} (kind : LayerKind) (ofBytes? : List UInt8 → Option α) :
    (header kind ofBytes?).Reads r (r.header kind ofBytes?) :=
  (reads_layerBytes r kind).map _

lemma reads_ipv4 : ipv4.Reads r r.ipv4 := reads_header r _ _

lemma reads_tcp : tcp.Reads r r.tcp := reads_header r _ _

lemma reads_udp : udp.Reads r r.udp := reads_header r _ _

lemma reads_protocol : protocol.Reads r r.protocol := (reads_ipv4 r).map _

lemma reads_isProtocol (number : UInt8) : (isProtocol number).Reads r (r.isProtocol number) := (reads_protocol r).map _

lemma reads_isTcp : isTcp.Reads r r.isTcp := reads_isProtocol r _

lemma reads_isUdp : isUdp.Reads r r.isUdp := reads_isProtocol r _

lemma reads_port (ofTcp : TcpHeader → UInt16) (ofUdp : UdpHeader → UInt16) :
    (port ofTcp ofUdp).Reads r (r.port ofTcp ofUdp) := by
  have hport : r.port ofTcp ofUdp = r.protocol.bind fun protocol =>
      if protocol = Layers.tcpProtocol then r.tcp.map ofTcp
      else if protocol = Layers.udpProtocol then r.udp.map ofUdp
      else .error (.notTransport protocol) := by
    rw [Record.port]
    cases r.protocol <;> rfl
  rw [hport]
  refine (reads_protocol r).andThen fun protocol => ?_
  split
  · exact (reads_tcp r).map _
  split
  · exact (reads_udp r).map _
  · exact Access.reads_answer _

lemma reads_sourcePort : sourcePort.Reads r r.sourcePort := reads_port r _ _

lemma reads_destinationPort : destinationPort.Reads r r.destinationPort := reads_port r _ _

lemma reads_source : source.Reads r r.source := (reads_ipv4 r).map _

lemma reads_destination : destination.Reads r r.destination := (reads_ipv4 r).map _

lemma reads_freshIsDns : freshIsDns.Reads r r.isDns := by
  have hfresh : freshIsDns = isUdp.andAlso
      (udp.map fun h => (h.map fun h => Dns.isPort h.sourcePort h.destinationPort).toOption.getD false) := by
    funext v
    rw [freshIsDns, Access.andAlso]
    rcases isUdp v with ⟨_ | _, w⟩ <;> rfl
  rw [hfresh]
  exact (reads_isUdp r).andAlso ((reads_udp r).map _)

lemma reads_isDns : isDns.Reads r r.isDns := by
  intro v hv
  rw [isDns]
  cases h : v.dnsCell with
  | some kept => exact ⟨hv.dns kept h, hv⟩
  | none =>
    obtain ⟨hanswer, hkept⟩ := reads_freshIsDns r v hv
    refine ⟨hanswer, { hkept with dns := ?_ }⟩
    rintro _ ⟨⟩
    exact hanswer

lemma reads_datagram : datagram.Reads r r.datagram := reads_layerBytes r .ipv4

lemma reads_udpPayload : udpPayload.Reads r r.udpPayload := by
  intro v hv
  rw [udpPayload, hv.record]
  exact (reads_layer r .udp).map _ v hv

lemma reads_sourceText : sourceText.Reads r (r.source.map (·.text)) := by
  have hkept : sourceText =
      source.kept (·.text) (·.sourceCell) (fun text v => { v with sourceCell := some text }) := by
    funext v
    rw [sourceText, Access.kept]
    cases v.sourceCell <;> rfl
  rw [hkept]
  apply (reads_source r).kept
  · exact fun v hv => hv.source
  · intro text htext v hv
    refine { hv with source := ?_ }
    rintro _ ⟨⟩
    exact htext

lemma reads_destinationText : destinationText.Reads r (r.destination.map (·.text)) := by
  have hkept : destinationText =
      destination.kept (·.text) (·.destinationCell) (fun text v => { v with destinationCell := some text }) := by
    funext v
    rw [destinationText, Access.kept]
    cases v.destinationCell <;> rfl
  rw [hkept]
  apply (reads_destination r).kept
  · exact fun v hv => hv.destination
  · intro text htext v hv
    refine { hv with destination := ?_ }
    rintro _ ⟨⟩
    exact htext

lemma reads_freshFlowKey : freshFlowKey.Reads r r.flowKey := by
  have hkey : r.flowKey = r.source.bind fun source => r.sourcePort.bind fun sourcePort =>
      r.destination.bind fun destination => r.destinationPort.bind fun destinationPort =>
      r.protocol.bind fun protocol =>
      .ok ⟨.v4 source, sourcePort, .v4 destination, destinationPort, protocol⟩ := rfl
  rw [hkey]
  apply (reads_source r).andThen
  intro source
  apply (reads_sourcePort r).andThen
  intro sourcePort
  apply (reads_destination r).andThen
  intro destination
  apply (reads_destinationPort r).andThen
  intro destinationPort
  apply (reads_protocol r).andThen
  intro protocol
  exact Access.reads_answer _

lemma reads_flowKey : flowKey.Reads r r.flowKey := by
  have hkept : flowKey = freshFlowKey.kept id (·.flowCell) (fun key v => { v with flowCell := some key }) := by
    funext v
    rw [flowKey, Access.kept]
    cases v.flowCell <;> rfl
  have hsame : r.flowKey.map id = r.flowKey := by cases r.flowKey <;> rfl
  rw [hkept, ← hsame]
  apply (reads_freshFlowKey r).kept
  · rw [hsame]
    exact fun v hv => hv.flow
  · rw [hsame]
    intro key hkey v hv
    refine { hv with flow := ?_ }
    rintro _ ⟨⟩
    exact hkey

lemma reads_dnsMessage : dnsMessage.Reads r r.dnsMessage := by
  intro v hv
  rw [dnsMessage]
  cases h : v.messageCell with
  | some kept => exact ⟨hv.message kept h, hv⟩
  | none =>
    obtain ⟨hpayload, hkept⟩ := reads_udpPayload r v hv
    have hmessage : (((udpPayload v).1.toOption.bind Dns.Message.ofBytes?).getD .empty) = r.dnsMessage := by
      rw [hpayload]
      rfl
    refine ⟨hmessage, { hkept with message := ?_ }⟩
    rintro _ ⟨⟩
    exact hmessage

lemma reads_verifySegment (ip : Ipv4Header) (kind : LayerKind) (scope : ChecksumScope) :
    (verifySegment ip kind scope).Reads r (r.verifySegment ip kind scope) := by
  intro v hv
  obtain ⟨w, hbytes, hw⟩ := (reads_layerBytes r kind).exists_view hv
  rw [verifySegment, Record.verifySegment, hbytes]
  cases r.layerBytes kind with
  | error e => exact ⟨rfl, hw⟩
  | ok segment =>
    dsimp only
    split
    · obtain ⟨hanswer, hkept⟩ := (reads_udp r).andThen (fun h => Access.reads_ite (h.checksum = 0)
        (.ok (.unverifiable .udpChecksumAbsent)) (Verification.ofSegment ip scope segment)) w hw
      refine ⟨hanswer.trans ?_, hkept⟩
      cases r.udp <;> rfl
    · exact ⟨rfl, hw⟩

lemma reads_verify (transport : Bool) : (verify transport).Reads r (r.verify transport) := by
  have hverify : r.verify transport = r.ipv4.bind fun ip =>
      if Checksum.internet [ip.bytes] ≠ 0 then .error (.checksumMismatch .ipv4Header)
      else if !transport then .ok .headerOnly
      else (r.layer .ipv4).bind fun l =>
        if r.data.length - l.start < ip.totalLength then .ok (.unverifiable .truncated)
        else (Verification.scope? ip.protocol).elim (.ok (.unverifiable .noTransport))
          fun found => r.verifySegment ip found.1 found.2 := by
    rw [Record.verify]
    cases r.ipv4 with
    | error e => rfl
    | ok ip =>
      dsimp only [Except.bind]
      cases r.layer .ipv4 <;> cases Verification.scope? ip.protocol <;> rfl
  rw [hverify]
  apply (reads_ipv4 r).andThen
  intro ip
  split
  · exact Access.reads_answer _
  split
  · exact Access.reads_answer _
  apply (reads_layer r .ipv4).andThen
  intro l v hv
  dsimp only
  rw [hv.record]
  split
  · exact ⟨rfl, hv⟩
  cases Verification.scope? ip.protocol with
  | none => exact ⟨rfl, hv⟩
  | some found => exact reads_verifySegment r ip found.1 found.2 v hv

lemma reads_checksumOk (transport : Bool) : (checksumOk transport).Reads r (r.checksumOk transport) :=
  (reads_verify r transport).map _

lemma reads_isTransport : isTransport.Reads r (r.isTcp || r.isUdp) := (reads_isTcp r).orElse (reads_isUdp r)

lemma reads_classify (verifyTransport : Bool) :
    (classify verifyTransport).Reads r (r.classify verifyTransport) := by
  intro v hv
  obtain ⟨w, hip, hw⟩ := (reads_ipv4 r).exists_view hv
  rw [classify, Record.classify, hip]
  cases r.ipv4 with
  | error e => exact ⟨rfl, hw⟩
  | ok ip =>
    obtain ⟨u, htransport, hu⟩ := (reads_isTransport r).exists_view hw
    dsimp only
    rw [htransport]
    cases r.isTcp || r.isUdp with
    | false => exact ⟨rfl, hu⟩
    | true => exact (reads_verify r verifyTransport).map Verdict.ofVerification u hu

end Accesses

end CaptureSieve.View
