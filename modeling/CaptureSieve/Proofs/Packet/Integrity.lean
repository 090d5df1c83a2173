import CaptureSieve.Proofs.ByteOrder
import CaptureSieve.Proofs.Packet.Enclosure
import CaptureSieve.Proofs.Packet.OnesComplement

/-!
What the verification of checksums finds, read off the IPv4 header of a packet and the bytes captured from there on.
-/

namespace CaptureSieve

lemma UdpHeader.checksum_of_ofBytes {b : List UInt8} {u : UdpHeader} (h : ofBytes? b = some u) :
    u.checksum = ByteOrder.big.word16 b 6 := by
  rw [ofBytes?] at h
  split at h
  · obtain rfl := Option.some.inj h
    simp [checksum, ByteOrder.word16, byteAt]
  · simp at h

namespace Ipv4Header

def segment (h : Ipv4Header) (rest : List UInt8) : List UInt8 := (rest.take h.totalLength).drop h.size

/-- Both addresses as they stand in the header, the protocol, and the length that the header gives the segment. -/
def pseudoHeader (h : Ipv4Header) : List UInt8 :=
  (h.bytes.drop 12).take 8 ++ [0, h.protocol] ++ ByteOrder.big.bytes16 (h.totalLength - h.size)

def CarriesTcp (h : Ipv4Header) (rest : List UInt8) : Prop :=
  h.isFragment = false ∧ h.protocol = Layers.tcpProtocol ∧ (TcpHeader.ofBytes? (h.segment rest)).isSome

def CarriesUdp (h : Ipv4Header) (rest : List UInt8) : Prop :=
  h.isFragment = false ∧ h.protocol = Layers.udpProtocol ∧ (UdpHeader.ofBytes? (h.segment rest)).isSome

instance (h : Ipv4Header) (rest : List UInt8) : Decidable (h.CarriesTcp rest) := inferInstanceAs (Decidable (_ ∧ _))

instance (h : Ipv4Header) (rest : List UInt8) : Decidable (h.CarriesUdp rest) := inferInstanceAs (Decidable (_ ∧ _))

def headerSum (h : Ipv4Header) : Nat := Checksum.ofBytes h.bytes

def segmentSum (h : Ipv4Header) (rest : List UInt8) : Nat := Checksum.ofBytes (h.pseudoHeader ++ h.segment rest)

def udpField (h : Ipv4Header) (rest : List UInt8) : Nat := ByteOrder.big.word16 (h.segment rest) 6

def finding (h : Ipv4Header) (rest : List UInt8) : Except PacketError Verification :=
  if rest.length < h.totalLength then .ok (.unverifiable .truncated)
  else if h.CarriesTcp rest then
    if h.segmentSum rest = 0 then .ok .verified else .error (.checksumMismatch .tcp)
  else if h.CarriesUdp rest then
    if h.udpField rest = 0 then .ok (.unverifiable .udpChecksumAbsent)
    else if h.segmentSum rest = 0 then .ok .verified else .error (.checksumMismatch .udp)
  else .ok (.unverifiable .noTransport)

variable {h : Ipv4Header} {rest : List UInt8}

lemma not_carriesTcp (hu : h.CarriesUdp rest) : ¬ h.CarriesTcp rest := by
  rintro ⟨-, htcp, -⟩
  rw [hu.2.1] at htcp
  exact absurd htcp (by decide)

lemma finding_eq_truncated_iff :
    h.finding rest = .ok (.unverifiable .truncated) ↔ rest.length < h.totalLength := by
  rw [finding]
  split_ifs <;> simp_all

lemma finding_eq_noTransport_iff :
    h.finding rest = .ok (.unverifiable .noTransport) ↔
      h.totalLength ≤ rest.length ∧ ¬ h.CarriesTcp rest ∧ ¬ h.CarriesUdp rest := by
  rw [finding, ← Nat.not_lt]
  split_ifs <;> simp_all

lemma finding_eq_absent_iff :
    h.finding rest = .ok (.unverifiable .udpChecksumAbsent) ↔
      h.totalLength ≤ rest.length ∧ h.CarriesUdp rest ∧ h.udpField rest = 0 := by
  have hnever := @not_carriesTcp h rest
  rw [finding, ← Nat.not_lt]
  split_ifs <;> simp_all

lemma finding_eq_tcp_iff :
    h.finding rest = .error (.checksumMismatch .tcp) ↔
      h.totalLength ≤ rest.length ∧ h.CarriesTcp rest ∧ h.segmentSum rest ≠ 0 := by
  rw [finding, ← Nat.not_lt]
  split_ifs <;> simp_all

lemma finding_eq_udp_iff :
    h.finding rest = .error (.checksumMismatch .udp) ↔
      h.totalLength ≤ rest.length ∧ h.CarriesUdp rest ∧ h.udpField rest ≠ 0 ∧ h.segmentSum rest ≠ 0 := by
  have hnever := @not_carriesTcp h rest
  rw [finding, ← Nat.not_lt]
  split_ifs <;> simp_all

lemma finding_eq_verified_iff :
    h.finding rest = .ok .verified ↔
      h.totalLength ≤ rest.length ∧ (h.CarriesTcp rest ∨ h.CarriesUdp rest ∧ h.udpField rest ≠ 0) ∧
        h.segmentSum rest = 0 := by
  rw [finding, ← Nat.not_lt]
  split_ifs <;> simp_all

lemma finding_mismatch_iff :
    h.finding rest = .error (.checksumMismatch .tcp) ∨ h.finding rest = .error (.checksumMismatch .udp) ↔
      ¬ ∃ v, h.finding rest = .ok v := by
  rw [finding]
  split_ifs <;> simp

lemma whole_of_finding {e : PacketError} (hf : h.finding rest = .error e) : h.totalLength ≤ rest.length := by
  rw [finding] at hf
  split at hf
  · simp at hf
  · next hwhole => exact Nat.not_lt.mp hwhole

lemma length_segment (hwhole : h.totalLength ≤ rest.length) : (h.segment rest).length = h.totalLength - h.size := by
  rw [segment, List.length_drop, List.length_take, Nat.min_eq_left hwhole]

lemma totalLength_lt (h : Ipv4Header) : h.totalLength < 65536 := ByteOrder.big.word16_lt _ _

lemma pseudoHeader_eq (hsize : 20 ≤ h.size) :
    Checksum.pseudoHeader h.source.bytes h.destination.bytes h.protocol (h.totalLength - h.size) = h.pseudoHeader := by
  have haddress : ∀ i, i + 4 ≤ h.bytes.length → (Ipv4Address.ofBytes h.bytes i).bytes = (h.bytes.drop i).take 4 := by
    intro i hi
    have hvalue : (Ipv4Address.ofBytes h.bytes i).value = ByteOrder.big.word32 h.bytes i :=
      Nat.mod_eq_of_lt (ByteOrder.big.word32_lt _ _)
    rw [Ipv4Address.bytes, hvalue, ByteOrder.bytes32_word32 _ hi]
  have hboth : (h.bytes.drop 12).take 8 = (h.bytes.drop 12).take 4 ++ (h.bytes.drop 16).take 4 := by
    rw [show 8 = 4 + 4 from rfl, List.take_add, List.drop_drop]
  rw [size] at hsize
  rw [Checksum.pseudoHeader, source, destination, haddress 12 (by omega), haddress 16 (by omega), pseudoHeader, hboth]

lemma length_pseudoHeader (hsize : 20 ≤ h.size) : h.pseudoHeader.length = 12 := by
  rw [size] at hsize
  simp only [pseudoHeader, List.length_append, List.length_take, List.length_drop, List.length_cons, List.length_nil,
    ByteOrder.length_bytes16]
  omega

lemma ofSegment_eq (hsize : 20 ≤ h.size) (hwhole : h.totalLength ≤ rest.length) (scope : ChecksumScope) :
    Verification.ofSegment h scope (h.segment rest) =
      if h.segmentSum rest = 0 then .ok .verified else .error (.checksumMismatch scope) := by
  have hshort : ¬ 65536 ≤ (h.segment rest).length := by
    have := h.totalLength_lt
    rw [length_segment hwhole]
    omega
  have heven : 2 ∣ h.pseudoHeader.length := by
    rw [length_pseudoHeader hsize]
    decide
  rw [Verification.ofSegment, if_neg hshort, length_segment hwhole, pseudoHeader_eq hsize]
  simp only [Checksum.internet_pair heven]
  rfl

end Ipv4Header

namespace Layers

variable {h : Ipv4Header} {rest : List UInt8}

section Layers

variable (hh : Ipv4Header.ofBytes? rest = some h) (hsize : h.size ≤ h.totalLength)

include hh hsize

lemma ipv4_of_header :
    ipv4 0 rest = ⟨.ipv4, 0, h.size, (rest.take h.totalLength).length⟩ ::
      if h.isFragment then [] else
        transport h.protocol h.size (rest.take h.totalLength).length (h.segment rest) := by
  simp only [ipv4, hh, if_neg (Nat.not_lt.mpr hsize), Nat.zero_add, Ipv4Header.segment]

lemma ipv4_of_tcp (hc : h.CarriesTcp rest) :
    ∃ t, TcpHeader.ofBytes? (h.segment rest) = some t ∧
      ipv4 0 rest = [⟨.ipv4, 0, h.size, (rest.take h.totalLength).length⟩,
        ⟨.tcp, h.size, t.size, (rest.take h.totalLength).length⟩] := by
  obtain ⟨hfragment, hprotocol, hheader⟩ := hc
  obtain ⟨t, ht⟩ := Option.isSome_iff_exists.mp hheader
  refine ⟨t, ht, ?_⟩
  simp [ipv4_of_header hh hsize, transport, hfragment, hprotocol, ht]

lemma ipv4_of_udp (hc : h.CarriesUdp rest) :
    ipv4 0 rest = [⟨.ipv4, 0, h.size, (rest.take h.totalLength).length⟩,
      ⟨.udp, h.size, 8, (rest.take h.totalLength).length⟩] := by
  obtain ⟨hfragment, hprotocol, hheader⟩ := hc
  obtain ⟨u, hu⟩ := Option.isSome_iff_exists.mp hheader
  have hne : udpProtocol ≠ tcpProtocol := by decide
  simp [ipv4_of_header hh hsize, transport, hfragment, hprotocol, hu, hne]

lemma ipv4_of_neither (ht : ¬ h.CarriesTcp rest) (hu : ¬ h.CarriesUdp rest) :
    ipv4 0 rest = [⟨.ipv4, 0, h.size, (rest.take h.totalLength).length⟩] := by
  rw [ipv4_of_header hh hsize]
  congr 1
  split
  · rfl
  · next hfragment =>
    rw [Bool.not_eq_true] at hfragment
    rw [transport]
    split
    · next hprotocol =>
      cases hheader : TcpHeader.ofBytes? (h.segment rest) with
      | none => rfl
      | some t => exact absurd ⟨hfragment, hprotocol, by rw [hheader]; rfl⟩ ht
    · split
      · next hprotocol =>
        cases hheader : UdpHeader.ofBytes? (h.segment rest) with
        | none => rfl
        | some u => exact absurd ⟨hfragment, hprotocol, by rw [hheader]; rfl⟩ hu
      · rfl

end Layers

lemma bytes_segment (kind : LayerKind) (size : Nat) (h : Ipv4Header) (rest : List UInt8) :
    (⟨kind, h.size, size, (rest.take h.totalLength).length⟩ : Layer).bytes rest = h.segment rest := by
  have hcut : min h.totalLength rest.length - h.size = min (h.totalLength - h.size) (rest.drop h.size).length := by
    rw [List.length_drop]
    omega
  rw [Layer.bytes, Layer.slice, Ipv4Header.segment, List.drop_take, List.length_take, hcut, ← List.take_eq_take_min]

end Layers

namespace Record

variable {r : Record} {h : Ipv4Header} {rest : List UInt8}

section Layers

variable (hr : r.Encloses rest) (hh : Ipv4Header.ofBytes? rest = some h) (hsize : h.size ≤ h.totalLength)

include hr hh hsize

lemma layerBytes_of_tcp (hc : h.CarriesTcp rest) : r.layerBytes .tcp = .ok (h.segment rest) := by
  obtain ⟨t, -, hlayers⟩ := Layers.ipv4_of_tcp hh hsize hc
  rw [layerBytes_of_encloses hr rfl, hlayers, ← Layers.bytes_segment .tcp t.size]
  rfl

lemma layerBytes_of_udp (hc : h.CarriesUdp rest) : r.layerBytes .udp = .ok (h.segment rest) := by
  rw [layerBytes_of_encloses hr rfl, Layers.ipv4_of_udp hh hsize hc, ← Layers.bytes_segment .udp 8]
  rfl

lemma layerBytes_of_neither (ht : ¬ h.CarriesTcp rest) (hu : ¬ h.CarriesUdp rest) {kind : LayerKind}
    (hk : kind.isFraming = false) (hne : kind ≠ .ipv4) : r.layerBytes kind = .error (.layerNotFound kind) := by
  rw [layerBytes_of_encloses hr hk, Layers.ipv4_of_neither hh hsize ht hu, Layers.find]
  simp [hne.symm, Except.map]

end Layers

section Verify

variable {l : Layer} (hl : r.layer .ipv4 = .ok l) (hd : Layers.Datagram r.data l h)

include hl hd

lemma verify_false :
    r.verify false = if h.headerSum = 0 then .ok .headerOnly else .error (.checksumMismatch .ipv4Header) := by
  rw [SameDatagram.verify_of_layer hl hd, Checksum.internet_singleton, ← Ipv4Header.headerSum]
  split <;> simp_all

lemma verify_of_headerSum (hsum : h.headerSum ≠ 0) (transport : Bool) :
    r.verify transport = .error (.checksumMismatch .ipv4Header) := by
  rw [SameDatagram.verify_of_layer hl hd, Checksum.internet_singleton]
  exact if_pos hsum

variable (hsum : h.headerSum = 0)

include hsum

lemma verify_of_truncated (hcut : (r.data.drop l.start).length < h.totalLength) :
    r.verify true = .ok (.unverifiable .truncated) := by
  have hshort : (l.bytes r.data).length < h.totalLength := by
    rw [bytes_of_datagram hd, List.length_take]
    omega
  rw [SameDatagram.verify_of_layer hl hd, Checksum.internet_singleton, ← Ipv4Header.headerSum, hsum]
  simp [hshort]

variable (hwhole : h.totalLength ≤ (r.data.drop l.start).length)

include hwhole

lemma verify_of_whole :
    r.verify true = match Verification.scope? h.protocol with
      | none => .ok (.unverifiable .noTransport)
      | some (kind, scope) => r.verifySegment h kind scope := by
  have hlong : ¬ (l.bytes r.data).length < h.totalLength := by
    rw [bytes_of_datagram hd, List.length_take]
    omega
  rw [SameDatagram.verify_of_layer hl hd, Checksum.internet_singleton, ← Ipv4Header.headerSum, hsum,
    if_neg (by simp), if_neg (by simp)]
  exact if_neg hlong

lemma verify_of_tcp (hc : h.CarriesTcp (r.data.drop l.start)) :
    r.verify true =
      if h.segmentSum (r.data.drop l.start) = 0 then .ok .verified else .error (.checksumMismatch .tcp) := by
  have hsegment := layerBytes_of_tcp (encloses_of_layer hl) hd.header hd.size_le hc
  have hleast := (Ipv4Header.ofBytes?_eq_some hd.header).2.1
  rw [verify_of_whole hl hd hsum hwhole, Verification.scope?, if_pos hc.2.1]
  simp only [verifySegment, hsegment, reduceCtorEq, if_false]
  exact Ipv4Header.ofSegment_eq hleast hwhole .tcp

lemma verify_of_udp (hc : h.CarriesUdp (r.data.drop l.start)) :
    r.verify true =
      if h.udpField (r.data.drop l.start) = 0 then .ok (.unverifiable .udpChecksumAbsent)
      else if h.segmentSum (r.data.drop l.start) = 0 then .ok .verified
      else .error (.checksumMismatch .udp) := by
  have hsegment := layerBytes_of_udp (encloses_of_layer hl) hd.header hd.size_le hc
  have hleast := (Ipv4Header.ofBytes?_eq_some hd.header).2.1
  have hne : Layers.udpProtocol ≠ Layers.tcpProtocol := by decide
  obtain ⟨u, hu⟩ := Option.isSome_iff_exists.mp hc.2.2
  have hheader : r.udp = .ok u := by
    rw [udp, header, hsegment]
    simp only [Except.bind, Layers.header, hu]
  have hfield : u.checksum = h.udpField (r.data.drop l.start) := UdpHeader.checksum_of_ofBytes hu
  rw [verify_of_whole hl hd hsum hwhole, Verification.scope?, hc.2.1, if_neg hne, if_pos rfl]
  simp only [verifySegment, hsegment, hheader, hfield, if_true]
  rw [Ipv4Header.ofSegment_eq hleast hwhole]

lemma verify_of_neither (ht : ¬ h.CarriesTcp (r.data.drop l.start)) (hu : ¬ h.CarriesUdp (r.data.drop l.start)) :
    r.verify true = .ok (.unverifiable .noTransport) := by
  have hnone {kind : LayerKind} := @layerBytes_of_neither r h (r.data.drop l.start) (encloses_of_layer hl)
    hd.header hd.size_le ht hu kind
  rw [verify_of_whole hl hd hsum hwhole]
  split
  · rfl
  · next kind scope hscope =>
    rcases Verification.scope_cases hscope with ⟨rfl, -⟩ | ⟨rfl, -⟩ <;> rw [verifySegment, hnone rfl (by decide)]

omit hwhole in
lemma verify_true : r.verify true = h.finding (r.data.drop l.start) := by
  rw [Ipv4Header.finding]
  split
  · next hcut => exact verify_of_truncated hl hd hsum hcut
  · next hwhole =>
    rw [Nat.not_lt] at hwhole
    split
    · next ht => exact verify_of_tcp hl hd hsum hwhole ht
    · next ht =>
      split
      · next hu => exact verify_of_udp hl hd hsum hwhole hu
      · next hu => exact verify_of_neither hl hd hsum hwhole ht hu

end Verify

lemma finding_of_mismatch {l : Layer} (hl : r.layer .ipv4 = .ok l) (hd : Layers.Datagram r.data l h) {transport : Bool}
    {scope : ChecksumScope} (hv : r.verify transport = .error (.checksumMismatch scope)) (hne : scope ≠ .ipv4Header) :
    h.finding (r.data.drop l.start) = .error (.checksumMismatch scope) := by
  by_cases hsum : h.headerSum = 0
  · cases transport with
    | false => simp [verify_false hl hd, hsum] at hv
    | true => rwa [verify_true hl hd hsum] at hv
  · rw [verify_of_headerSum hl hd hsum] at hv
    exact absurd (PacketError.checksumMismatch.inj (Except.error.inj hv)).symm hne

lemma captured_of_mismatch {l : Layer} (hl : r.layer .ipv4 = .ok l) (hd : Layers.Datagram r.data l h) {transport : Bool}
    {scope : ChecksumScope} (hv : r.verify transport = .error (.checksumMismatch scope)) :
    (if scope = .ipv4Header then h.size else h.totalLength) ≤ (r.data.drop l.start).length := by
  split
  · exact (Ipv4Header.ofBytes?_eq_some hd.header).2.2.2.1
  · next hne => exact Ipv4Header.whole_of_finding (finding_of_mismatch hl hd hv hne)

structure Examined (r : Record) (h : Ipv4Header) (rest : List UInt8) : Prop where
  headerOnly : r.verify false = if h.headerSum = 0 then .ok .headerOnly else .error (.checksumMismatch .ipv4Header)
  header : h.headerSum ≠ 0 → r.verify true = .error (.checksumMismatch .ipv4Header)
  truncated : h.headerSum = 0 → (r.verify true = .ok (.unverifiable .truncated) ↔ rest.length < h.totalLength)
  noTransport : h.headerSum = 0 → (r.verify true = .ok (.unverifiable .noTransport) ↔
    h.totalLength ≤ rest.length ∧ ¬ h.CarriesTcp rest ∧ ¬ h.CarriesUdp rest)
  absent : h.headerSum = 0 → (r.verify true = .ok (.unverifiable .udpChecksumAbsent) ↔
    h.totalLength ≤ rest.length ∧ h.CarriesUdp rest ∧ h.udpField rest = 0)
  tcp : h.headerSum = 0 → (r.verify true = .error (.checksumMismatch .tcp) ↔
    h.totalLength ≤ rest.length ∧ h.CarriesTcp rest ∧ h.segmentSum rest ≠ 0)
  udp : h.headerSum = 0 → (r.verify true = .error (.checksumMismatch .udp) ↔
    h.totalLength ≤ rest.length ∧ h.CarriesUdp rest ∧ h.udpField rest ≠ 0 ∧ h.segmentSum rest ≠ 0)
  verified : h.headerSum = 0 → (r.verify true = .ok .verified ↔
    h.totalLength ≤ rest.length ∧ (h.CarriesTcp rest ∨ h.CarriesUdp rest ∧ h.udpField rest ≠ 0) ∧
      h.segmentSum rest = 0)
  captured : ∀ transport scope, r.verify transport = .error (.checksumMismatch scope) →
    (if scope = .ipv4Header then h.size else h.totalLength) ≤ rest.length

theorem verify_exact {r : Record} {l : Layer} (hl : r.layer .ipv4 = .ok l) :
    ∃ h, Ipv4Header.ofBytes? (r.data.drop l.start) = some h ∧ h.size ≤ h.totalLength ∧
      Examined r h (r.data.drop l.start) := by
  obtain ⟨h, hd⟩ := datagram_of_layer hl
  have htrue := verify_true hl hd
  refine ⟨h, hd.header, hd.size_le, verify_false hl hd, fun hsum => verify_of_headerSum hl hd hsum true, ?_, ?_, ?_, ?_,
    ?_, ?_, ?_⟩
  · exact fun hsum => htrue hsum ▸ Ipv4Header.finding_eq_truncated_iff
  · exact fun hsum => htrue hsum ▸ Ipv4Header.finding_eq_noTransport_iff
  · exact fun hsum => htrue hsum ▸ Ipv4Header.finding_eq_absent_iff
  · exact fun hsum => htrue hsum ▸ Ipv4Header.finding_eq_tcp_iff
  · exact fun hsum => htrue hsum ▸ Ipv4Header.finding_eq_udp_iff
  · exact fun hsum => htrue hsum ▸ Ipv4Header.finding_eq_verified_iff
  · exact fun transport scope hv => captured_of_mismatch hl hd hv

-- Twenty-nine bytes of datagram between a frame header and three bytes of padding.
def forged : Record where
  time := .epoch
  link := .ethernet
  wireLength := 46
  data := List.replicate 12 2 ++ [8, 0] ++
    [0x45, 0, 0, 29, 0, 1, 0, 0, 64, 17, 0x66, 0xcd, 10, 0, 0, 1, 10, 0, 0, 2, 3, 0xe8, 0, 53, 0, 9, 0x12, 0x34, 42] ++
    [7, 7, 7]

theorem verify_exact_forged :
    ∃ l h, forged.layer .ipv4 = .ok l ∧ Ipv4Header.ofBytes? (forged.data.drop l.start) = some h ∧
      Examined forged h (forged.data.drop l.start) ∧ forged.verify true = .error (.checksumMismatch .udp) := by
  have hl : forged.layer .ipv4 = .ok ⟨.ipv4, 14, 20, 43⟩ := by decide
  obtain ⟨h, hh, -, hexamined⟩ := verify_exact hl
  have hheader : h = ⟨(forged.data.drop 14).take 20⟩ := Option.some.inj (hh.symm.trans (by decide))
  refine ⟨_, h, hl, hh, hexamined, ?_⟩
  subst hheader
  exact (hexamined.udp (by decide)).mpr (by decide)

end Record

end CaptureSieve
