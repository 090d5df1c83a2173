import CaptureSieve.Filter.Matching
import CaptureSieve.Proofs.Packet.Datagram

/-!
Records that hold the same datagram, whatever the framing around it. Everything that is asked of a packet depends on
the bytes of its IP and transport layers alone.
-/

namespace CaptureSieve

namespace Record

def SameDatagram (r s : Record) : Prop :=
  ∀ kind : LayerKind, kind.isFraming = false → r.layerBytes kind = s.layerBytes kind

namespace SameDatagram

variable {r s t : Record}

lemma refl (r : Record) : SameDatagram r r := fun _ _ => rfl

lemma symm (h : SameDatagram r s) : SameDatagram s r := fun kind hk => (h kind hk).symm

lemma trans (h : SameDatagram r s) (k : SameDatagram s t) : SameDatagram r t :=
  fun kind hk => (h kind hk).trans (k kind hk)

variable (h : SameDatagram r s)

include h

lemma header {α : Type} {kind : LayerKind} (hk : kind.isFraming = false) (ofBytes? : List UInt8 → Option α) :
    r.header kind ofBytes? = s.header kind ofBytes? := by
  simp only [Record.header, h kind hk]

lemma isOk_layer {kind : LayerKind} (hk : kind.isFraming = false) : (r.layer kind).isOk = (s.layer kind).isOk := by
  have hbytes := h kind hk
  simp only [layerBytes] at hbytes
  cases hr : r.layer kind <;> cases hs : s.layer kind <;> simp_all [Except.map, Except.isOk, Except.toBool]

lemma ipv4 : r.ipv4 = s.ipv4 := h.header rfl _

lemma tcp : r.tcp = s.tcp := h.header rfl _

lemma udp : r.udp = s.udp := h.header rfl _

lemma datagram : r.datagram = s.datagram := h .ipv4 rfl

lemma protocol : r.protocol = s.protocol := by
  simp only [Record.protocol, h.ipv4]

lemma isProtocol : r.isProtocol = s.isProtocol := by
  funext n
  simp only [Record.isProtocol, h.protocol]

lemma isTcp : r.isTcp = s.isTcp := congrFun h.isProtocol _

lemma isUdp : r.isUdp = s.isUdp := congrFun h.isProtocol _

lemma port : r.port = s.port := by
  funext ofTcp ofUdp
  simp only [Record.port, h.protocol, h.tcp, h.udp]

lemma sourcePort : r.sourcePort = s.sourcePort := congrFun (congrFun h.port _) _

lemma destinationPort : r.destinationPort = s.destinationPort := congrFun (congrFun h.port _) _

lemma source : r.source = s.source := by
  simp only [Record.source, h.ipv4]

lemma destination : r.destination = s.destination := by
  simp only [Record.destination, h.ipv4]

lemma flowKey : r.flowKey = s.flowKey := by
  simp only [Record.flowKey, h.source, h.sourcePort, h.destination, h.destinationPort, h.protocol]

lemma isDns : r.isDns = s.isDns := by
  simp only [Record.isDns, h.isUdp, h.udp]

lemma verifySegment (ip : Ipv4Header) {kind : LayerKind} (hk : kind.isFraming = false) (scope : ChecksumScope) :
    r.verifySegment ip kind scope = s.verifySegment ip kind scope := by
  simp only [Record.verifySegment, h kind hk, h.udp]

omit h in
lemma isFraming_of_scope {protocol : UInt8} {kind : LayerKind} {scope : ChecksumScope}
    (hs : Verification.scope? protocol = some (kind, scope)) : kind.isFraming = false := by
  rcases Verification.scope_cases hs with ⟨rfl, -⟩ | ⟨rfl, -⟩ <;> rfl

-- How much was captured behind the datagram differs; that it falls short of the total length does not.
omit h in
lemma short_iff {l : Layer} {ip : Ipv4Header} (hd : Layers.Datagram r.data l ip) :
    r.data.length - l.start < ip.totalLength ↔ (l.bytes r.data).length < ip.totalLength := by
  rw [bytes_of_datagram hd, List.length_take, List.length_drop]
  omega

omit h in
lemma verify_of_layer {l : Layer} {ip : Ipv4Header} (hl : r.layer .ipv4 = .ok l) (hd : Layers.Datagram r.data l ip)
    (transport : Bool) :
    r.verify transport =
      if Checksum.internet [ip.bytes] ≠ 0 then .error (.checksumMismatch .ipv4Header)
      else if !transport then .ok .headerOnly
      else if (l.bytes r.data).length < ip.totalLength then .ok (.unverifiable .truncated)
      else match Verification.scope? ip.protocol with
        | none => .ok (.unverifiable .noTransport)
        | some (kind, scope) => r.verifySegment ip kind scope := by
  have hip := (ipv4_of_layer hl hd).1
  simp only [Record.verify, hip, hl]
  split
  · rfl
  · split
    · rfl
    · exact if_congr (short_iff hd) rfl rfl

lemma verify (transport : Bool) : r.verify transport = s.verify transport := by
  cases hr : r.layer .ipv4 with
  | error e =>
    have hip := ipv4_of_no_layer hr
    have hip' := h.ipv4 ▸ hip
    simp only [Record.verify, hip, hip']
  | ok l =>
    have hbytes : s.layerBytes .ipv4 = .ok (l.bytes r.data) := by
      rw [← h .ipv4 rfl, layerBytes, hr]
      rfl
    obtain ⟨m, hs⟩ : ∃ m, s.layer .ipv4 = .ok m := by
      cases hs : s.layer .ipv4 with
      | error e => simp [layerBytes, hs, Except.map] at hbytes
      | ok m => exact ⟨m, rfl⟩
    have hsame : m.bytes s.data = l.bytes r.data := by
      rw [layerBytes, hs] at hbytes
      exact Except.ok.inj hbytes
    obtain ⟨ip, hd⟩ := datagram_of_layer hr
    obtain ⟨ip', hd'⟩ := datagram_of_layer hs
    obtain rfl : ip = ip' := by
      have hip := (ipv4_of_layer hr hd).1
      rw [h.ipv4, (ipv4_of_layer hs hd').1] at hip
      exact (Except.ok.inj hip).symm
    rw [verify_of_layer hr hd, verify_of_layer hs hd', hsame]
    cases hscope : Verification.scope? ip.protocol with
    | none => rfl
    | some found => simp only [h.verifySegment ip (isFraming_of_scope hscope)]

lemma classify (transport : Bool) : r.classify transport = s.classify transport := by
  simp only [Record.classify, h.ipv4, h.isTcp, h.isUdp, h.verify]

lemma portHolds (d : Filter.Direction) (t : Option Filter.Transport) (p : UInt16 → Bool) :
    Filter.portHolds d t p r = Filter.portHolds d t p s := by
  have htransport : Filter.Transport.holds t r = Filter.Transport.holds t s := by
    cases t with
    | none => rfl
    | some t =>
      cases t with
      | tcp => exact h.isTcp
      | udp => exact h.isUdp
  simp only [Filter.portHolds, htransport, h.sourcePort, h.destinationPort]

lemma primitive (p : Filter.Primitive) : p.holds r = p.holds s := by
  cases p with
  | protocol p =>
    cases p with
    | tcp => exact h.isTcp
    | udp => exact h.isUdp
    | icmp => exact congrFun h.isProtocol _
    | ip => exact h.isOk_layer rfl
    | ip6 => exact h.isOk_layer rfl
  | host d a => simp only [Filter.Primitive.holds, Filter.addressHolds, h.source, h.destination]
  | net d n => simp only [Filter.Primitive.holds, Filter.addressHolds, h.source, h.destination]
  | port d t n => exact h.portHolds d t _
  | portRange d t first last => exact h.portHolds d t _
  | ipProtocol n => exact congrFun h.isProtocol n

lemma expr (e : Filter.Expr) : e.holds r = e.holds s := by
  induction e with
  | primitive p => exact h.primitive p
  | not e ih => simp only [Filter.Expr.holds, ih]
  | and left right ihl ihr => simp only [Filter.Expr.holds, ihl, ihr]
  | or left right ihl ihr => simp only [Filter.Expr.holds, ihl, ihr]

lemma admits (f : Filter) : f.admits r = f.admits s := h.expr f.expr

end SameDatagram

end Record

end CaptureSieve
