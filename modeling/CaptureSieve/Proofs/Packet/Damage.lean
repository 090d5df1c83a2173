import CaptureSieve.Proofs.Packet.Framed

/-!
Damaged packets. Under a sound checksum no byte can have another value and leave it right, so all that the change of a
byte can do besides is to keep the checksum from being looked at. A packet cut short is never taken for one that was
changed.
-/

namespace CaptureSieve

def Record.withByte (r : Record) (i : Nat) (b : UInt8) : Record := { r with data := r.data.set i b }

lemma Frame.withByte_record (f : Frame) (time : Instant) (wireLength : UInt32) (rest : List UInt8) {i : Nat}
    (hi : f.header.length ≤ i) (b : UInt8) :
    (f.record time wireLength rest).withByte i b = f.record time wireLength (rest.set (i - f.header.length) b) := by
  simp only [Record.withByte, record, List.set_append_right i b hi]

namespace TcpHeader

/-- The length that the header gives itself is too small for a TCP header, or too large for the segment. -/
def Broken (segment : List UInt8) : Prop :=
  byteAt segment 12 / 16 < 5 ∨ segment.length < 4 * (byteAt segment 12 / 16)

lemma isSome_iff_not_broken (segment : List UInt8) : (ofBytes? segment).isSome ↔ ¬ Broken segment := by
  rw [isSome_ofBytes?_iff, Broken]
  omega

end TcpHeader

/-- A checksum field of zero says that the sender left the checksum out. -/
def UdpHeader.Unsummed (segment : List UInt8) : Prop := ByteOrder.big.word16 segment 6 = 0

namespace Ipv4Header

variable {rest : List UInt8} {h g : Ipv4Header} {i : Nat} {b : UInt8}

section Header

variable (hh : ofBytes? rest = some h) (hnibble : i = 0 → b.toNat % 16 = byteAt rest 0 % 16)
  (hg : ofBytes? (rest.set i b) = some g)

include hh hnibble hg

lemma bytes_of_set : g.bytes = h.bytes.set i b := by
  obtain ⟨-, hleast, hsize, hfits, hbytes⟩ := ofBytes?_eq_some hh
  obtain ⟨-, -, hsize', -, hbytes'⟩ := ofBytes?_eq_some hg
  have hsame : byteAt (rest.set i b) 0 % 16 = byteAt rest 0 % 16 := by
    by_cases hi : i = 0
    · have hfirst : byteAt (rest.set 0 b) 0 = b.toNat := by
        rw [byteAt, List.getD_eq_getElem?_getD, List.getElem?_set_self (by omega), Option.getD_some]
      rw [← hnibble hi, hi, hfirst]
    · rw [byteAt_set_of_ne hi]
  rw [hbytes', hsize', hsame, ← hsize, hbytes, List.take_set]

lemma headerSum_of_set (hsum : h.headerSum = 0) (hi : i < h.size) (hb : rest[i]? ≠ some b) : g.headerSum ≠ 0 := by
  rw [headerSum, bytes_of_set hh hnibble hg]
  refine Checksum.ofBytes_set_ne_zero hi ?_ hsum
  rwa [(ofBytes?_eq_some hh).2.2.2.2, List.getElem?_take_of_lt hi]

end Header

lemma ofBytes?_of_set (hh : ofBytes? rest = some h) (hi : h.size ≤ i) (b : UInt8) : ofBytes? (rest.set i b) = some h :=
  Layers.ofBytes?_of_take hh (List.take_set_of_le hi)

lemma segment_of_set (hi : h.size ≤ i) (b : UInt8) :
    h.segment (rest.set i b) = (h.segment rest).set (i - h.size) b := by
  rw [segment, segment, List.take_set, List.drop_set, if_neg (Nat.not_lt.mpr hi)]

section Segment

variable (hleast : 20 ≤ h.size) (hwhole : h.totalLength ≤ rest.length) (hsum : h.segmentSum rest = 0)
  (hfirst : h.size ≤ i) (hlast : i < h.totalLength) (hb : rest[i]? ≠ some b)

include hleast hwhole hsum hfirst hlast hb

lemma segmentSum_of_set : h.segmentSum (rest.set i b) ≠ 0 := by
  have hpseudo := length_pseudoHeader hleast
  have hplace : h.pseudoHeader ++ (h.segment rest).set (i - h.size) b =
      (h.pseudoHeader ++ h.segment rest).set (12 + (i - h.size)) b := by
    rw [List.set_append_right _ _ (by omega), hpseudo, Nat.add_sub_cancel_left]
  have hinside : 12 + (i - h.size) < (h.pseudoHeader ++ h.segment rest).length := by
    rw [List.length_append, hpseudo, length_segment hwhole]
    omega
  rw [segmentSum, segment_of_set hfirst, hplace]
  refine Checksum.ofBytes_set_ne_zero hinside ?_ hsum
  rwa [List.getElem?_append_right (by omega), hpseudo, Nat.add_sub_cancel_left, segment, List.getElem?_drop,
    Nat.add_sub_of_le hfirst, List.getElem?_take_of_lt hlast]

lemma finding_of_set_tcp (hc : h.CarriesTcp rest) :
    (TcpHeader.Broken (h.segment (rest.set i b)) → h.finding (rest.set i b) = .ok (.unverifiable .noTransport)) ∧
    (¬ TcpHeader.Broken (h.segment (rest.set i b)) → h.finding (rest.set i b) = .error (.checksumMismatch .tcp)) := by
  have hwhole' : h.totalLength ≤ (rest.set i b).length := by rwa [List.length_set]
  constructor
  · intro hbroken
    refine finding_eq_noTransport_iff.mpr ⟨hwhole', ?_, ?_⟩
    · rintro ⟨-, -, hheader⟩
      exact (TcpHeader.isSome_iff_not_broken _).mp hheader hbroken
    · rintro ⟨-, hudp, -⟩
      rw [hc.2.1] at hudp
      exact absurd hudp (by decide)
  · intro hintact
    refine finding_eq_tcp_iff.mpr ⟨hwhole', ⟨hc.1, hc.2.1, (TcpHeader.isSome_iff_not_broken _).mpr hintact⟩, ?_⟩
    exact segmentSum_of_set hleast hwhole hsum hfirst hlast hb

lemma finding_of_set_udp (hc : h.CarriesUdp rest) :
    (UdpHeader.Unsummed (h.segment (rest.set i b)) →
      h.finding (rest.set i b) = .ok (.unverifiable .udpChecksumAbsent)) ∧
    (¬ UdpHeader.Unsummed (h.segment (rest.set i b)) → h.finding (rest.set i b) = .error (.checksumMismatch .udp)) := by
  have hwhole' : h.totalLength ≤ (rest.set i b).length := by rwa [List.length_set]
  have hc' : h.CarriesUdp (rest.set i b) := by
    refine ⟨hc.1, hc.2.1, ?_⟩
    have hlength : (h.segment (rest.set i b)).length = (h.segment rest).length := by
      rw [length_segment hwhole, length_segment hwhole']
    rw [UdpHeader.isSome_ofBytes?_iff, hlength]
    exact (UdpHeader.isSome_ofBytes?_iff _).mp hc.2.2
  refine ⟨fun habsent => finding_eq_absent_iff.mpr ⟨hwhole', hc', habsent⟩, fun hpresent => ?_⟩
  exact finding_eq_udp_iff.mpr ⟨hwhole', hc', hpresent, segmentSum_of_set hleast hwhole hsum hfirst hlast hb⟩

end Segment

end Ipv4Header

structure Record.Sealed (r : Record) (m : Layer) (scope : ChecksumScope) (Hides : List UInt8 → Prop)
    (why : Unverifiable) : Prop where
  shown : ∀ i b, m.start ≤ i → i < m.stop → r.data[i]? ≠ some b → ¬ Hides (m.bytes (r.withByte i b).data) →
    (r.withByte i b).verify true = .error (.checksumMismatch scope)
  hidden : ∀ i b, m.start ≤ i → i < m.stop → r.data[i]? ≠ some b → Hides (m.bytes (r.withByte i b).data) →
    (r.withByte i b).verify true = .ok (.unverifiable why)
  payload : ∀ i b, m.payloadStart ≤ i → i < m.stop → r.data[i]? ≠ some b →
    (r.withByte i b).verify true = .error (.checksumMismatch scope)

namespace Frame

variable (f : Frame) (time : Instant) (wireLength : UInt32) {rest : List UInt8} {h : Ipv4Header}

section Segment

variable (kind : LayerKind) (size : Nat)

lemma bytes_record :
    (Layer.shift f.header.length ⟨kind, h.size, size, (rest.take h.totalLength).length⟩).bytes
      (f.record time wireLength rest).data = h.segment rest := by
  rw [Layer.bytes_shift, record, List.drop_left, Layers.bytes_segment]

lemma bytes_withByte {i : Nat} (hi : f.header.length ≤ i) (b : UInt8) :
    (Layer.shift f.header.length ⟨kind, h.size, size, (rest.take h.totalLength).length⟩).bytes
      ((f.record time wireLength rest).withByte i b).data = h.segment (rest.set (i - f.header.length) b) := by
  have hstop : (rest.take h.totalLength).length = ((rest.set (i - f.header.length) b).take h.totalLength).length := by
    rw [List.length_take, List.length_take, List.length_set]
  rw [f.withByte_record _ _ _ hi, hstop, bytes_record]

end Segment

variable (hh : Ipv4Header.ofBytes? rest = some h) (hsize : h.size ≤ h.totalLength) (hsum : h.headerSum = 0)

include hh hsize hsum

lemma verify_withByte {i : Nat} (hi : f.header.length + h.size ≤ i) (b : UInt8) :
    ((f.record time wireLength rest).withByte i b).verify true = h.finding (rest.set (i - f.header.length) b) := by
  rw [f.withByte_record _ _ _ (by omega)]
  exact f.verify_true time wireLength (Ipv4Header.ofBytes?_of_set hh (by omega) b) hsize hsum

lemma sealed_record {scope : ChecksumScope} {Hides : List UInt8 → Prop} {why : Unverifiable}
    (hfinding : ∀ {i b}, h.size ≤ i → i < h.totalLength → rest[i]? ≠ some b →
      (Hides (h.segment (rest.set i b)) → h.finding (rest.set i b) = .ok (.unverifiable why)) ∧
      (¬ Hides (h.segment (rest.set i b)) → h.finding (rest.set i b) = .error (.checksumMismatch scope)))
    {size : Nat} (hpayload : ∀ {i b}, size ≤ i → ¬ Hides ((h.segment rest).set i b)) (kind : LayerKind) :
    (f.record time wireLength rest).Sealed
      (Layer.shift f.header.length ⟨kind, h.size, size, (rest.take h.totalLength).length⟩) scope Hides why := by
  have hplace : ∀ {i b}, f.header.length + h.size ≤ i → i < f.header.length + (rest.take h.totalLength).length →
      (f.record time wireLength rest).data[i]? ≠ some b →
      h.size ≤ i - f.header.length ∧ i - f.header.length < h.totalLength ∧ rest[i - f.header.length]? ≠ some b := by
    intro i b hfirst hlast hb
    have hlength := List.length_take_le h.totalLength rest
    rw [record, List.getElem?_append_right (by omega)] at hb
    exact ⟨by omega, by omega, hb⟩
  refine ⟨fun i b hfirst hlast hb hintact => ?_, fun i b hfirst hlast hb hhidden => ?_, fun i b hfirst hlast hb => ?_⟩
  · obtain ⟨hfirst', hlast', hb'⟩ := hplace hfirst hlast hb
    rw [f.bytes_withByte _ _ _ _ (Nat.le_of_add_right_le hfirst)] at hintact
    rw [f.verify_withByte _ _ hh hsize hsum hfirst]
    exact (hfinding hfirst' hlast' hb').2 hintact
  · obtain ⟨hfirst', hlast', hb'⟩ := hplace hfirst hlast hb
    rw [f.bytes_withByte _ _ _ _ (Nat.le_of_add_right_le hfirst)] at hhidden
    rw [f.verify_withByte _ _ hh hsize hsum hfirst]
    exact (hfinding hfirst' hlast' hb').1 hhidden
  · simp only [Layer.payloadStart, Layer.shift] at hfirst
    obtain ⟨hfirst', hlast', hb'⟩ := hplace (by omega) hlast hb
    rw [f.verify_withByte _ _ hh hsize hsum (by omega)]
    refine (hfinding hfirst' hlast' hb').2 ?_
    rw [Ipv4Header.segment_of_set hfirst']
    exact hpayload (by omega)

end Frame

lemma Frame.verify_of_set (f : Frame) (time : Instant) (wireLength : UInt32) {rest : List UInt8} {h : Ipv4Header}
    (hh : Ipv4Header.ofBytes? rest = some h) (hsum : h.headerSum = 0) {i : Nat} {b : UInt8} (hi : i < h.size)
    (hb : rest[i]? ≠ some b) (hnibble : i = 0 → b.toNat % 16 = byteAt rest 0 % 16) :
    (∀ transport, (f.record time wireLength (rest.set i b)).verify transport = .error (.checksumMismatch .ipv4Header)) ∨
      ∃ e, (f.record time wireLength (rest.set i b)).layer .ipv4 = .error e := by
  cases hg : Ipv4Header.ofBytes? (rest.set i b) with
  | none =>
    refine .inr (f.no_layer_ipv4 time wireLength ?_)
    simp only [Layers.ipv4, hg]
  | some g =>
    by_cases hsize : g.size ≤ g.totalLength
    · have hl := f.layer_ipv4 time wireLength hg hsize
      have hwrong := Ipv4Header.headerSum_of_set hh hnibble hg hsum hi hb
      exact .inl (Record.verify_of_headerSum hl (f.datagram_record time wireLength hg hl rfl) hwrong)
    · refine .inr (f.no_layer_ipv4 time wireLength ?_)
      simp only [Layers.ipv4, hg, if_pos (Nat.not_le.mp hsize)]

namespace Record

variable {r : Record}

theorem verify_headerChanged (hok : r.checksumOk false = true) :
    ∃ l, r.layer .ipv4 = .ok l ∧ ∀ i b, l.start ≤ i → i < l.payloadStart → r.data[i]? ≠ some b →
      (i = l.start → b.toNat % 16 = byteAt r.data i % 16) → ∀ transport,
        (r.withByte i b).checksumOk transport = false ∧
          ((r.withByte i b).verify transport = .error (.checksumMismatch .ipv4Header) ∨
            ∃ e, (r.withByte i b).layer .ipv4 = .error e) := by
  obtain ⟨v, hv⟩ := checksumOk_iff.mp hok
  obtain ⟨f, rest, h, hr, hh, hsize, hsum⟩ := frame_of_verify hv
  rw [hr]
  refine ⟨_, f.layer_ipv4 r.time r.wireLength hh hsize, fun i b hfirst hlast hb hnibble transport => ?_⟩
  simp only [Layer.payloadStart, Frame.record] at hfirst hlast hb hnibble
  rw [List.getElem?_append_right hfirst] at hb
  have hkept : i - f.header.length = 0 → b.toNat % 16 = byteAt rest 0 % 16 := by
    intro hzero
    obtain rfl : i = f.header.length := by omega
    rw [hnibble rfl, ← byteAt_append f.header rest 0, Nat.add_zero]
  rw [f.withByte_record _ _ _ hfirst]
  have houtcome := f.verify_of_set r.time r.wireLength hh hsum (by omega) hb hkept
  refine ⟨?_, houtcome.imp_left (· transport)⟩
  rw [← Bool.not_eq_true, checksumOk_iff]
  rintro ⟨v, hv⟩
  rcases houtcome with hmismatch | ⟨e, hnone⟩
  · simp [hmismatch] at hv
  · simp [verify_of_no_layer hnone] at hv

-- A TCP segment of an odd number of bytes behind an IPv4 header with an option, as it is captured without a frame.
def greeting : Record where
  time := .epoch
  link := .raw
  wireLength := 47
  data := [0x46, 0, 0, 47, 0, 1, 0, 0, 64, 6, 0xd1, 0xc1, 10, 0, 0, 1, 10, 0, 0, 2, 0x94, 4, 0, 0] ++
    [3, 0xe8, 0, 80, 0, 0, 0, 1, 0, 0, 0, 2, 0x50, 0x10, 0, 1, 0xd3, 0x30, 0, 0, 0x61, 0x62, 0x63]

-- With its version changed the packet is taken for one of IPv6.
theorem verify_headerChanged_version :
    greeting.checksumOk false = true ∧ (greeting.withByte 0 0x66).checksumOk false = false ∧
      ∃ l, (greeting.withByte 0 0x66).layer .ipv6 = .ok l := by
  have hok : greeting.checksumOk false = true := by decide
  obtain ⟨l, hl, hchanged⟩ := verify_headerChanged hok
  obtain rfl : l = ⟨.ipv4, 0, 24, 47⟩ := Except.ok.inj (hl.symm.trans (by decide))
  have hversion := hchanged 0 0x66 (by decide) (by decide) (by decide) (fun _ => by decide) false
  exact ⟨hok, hversion.1, ⟨.ipv6, 0, 40, 41⟩, by decide⟩

theorem verify_segmentChanged (hv : r.verify true = .ok .verified) :
    (∃ m, r.layer .tcp = .ok m ∧ r.Sealed m .tcp TcpHeader.Broken .noTransport) ∨
    (∃ m, r.layer .udp = .ok m ∧ r.Sealed m .udp UdpHeader.Unsummed .udpChecksumAbsent) := by
  obtain ⟨f, rest, h, hr, hh, hsize, hheader⟩ := frame_of_verify hv
  have hleast := (Ipv4Header.ofBytes?_eq_some hh).2.1
  rw [hr, f.verify_true _ _ hh hsize hheader] at hv
  obtain ⟨hwhole, hcarried, hsum⟩ := Ipv4Header.finding_eq_verified_iff.mp hv
  rw [hr]
  rcases hcarried with htcp | ⟨hudp, hpresent⟩
  · obtain ⟨t, ht, hl⟩ := f.layer_tcp r.time r.wireLength hh hsize htcp
    refine .inl ⟨_, hl, f.sealed_record _ _ hh hsize hheader ?_ ?_ .tcp⟩
    · intro i b hfirst hlast hb
      exact Ipv4Header.finding_of_set_tcp hleast hwhole hsum hfirst hlast hb htcp
    · intro i b hi
      have hlength := (TcpHeader.size_of_ofBytes? ht).1
      rw [TcpHeader.Broken, byteAt_set_of_ne (by omega), List.length_set]
      exact (TcpHeader.isSome_iff_not_broken _).mp htcp.2.2
  · refine .inr ⟨_, f.layer_udp r.time r.wireLength hh hsize hudp, f.sealed_record _ _ hh hsize hheader ?_ ?_ .udp⟩
    · intro i b hfirst hlast hb
      exact Ipv4Header.finding_of_set_udp hleast hwhole hsum hfirst hlast hb hudp
    · intro i b hi
      rwa [UdpHeader.Unsummed, ByteOrder.word16_set_of_lt _ hi]

theorem verify_segmentChanged_greeting :
    greeting.verify true = .ok .verified ∧
      (greeting.withByte 46 0x64).verify true = .error (.checksumMismatch .tcp) ∧
      (greeting.withByte 36 0x40).verify true = .ok (.unverifiable .noTransport) := by
  have hv : greeting.verify true = .ok .verified := by decide
  rcases verify_segmentChanged hv with ⟨m, hm, hsealed⟩ | ⟨m, hm, -⟩
  · obtain rfl : m = ⟨.tcp, 24, 20, 47⟩ := Except.ok.inj (hm.symm.trans (by decide))
    have hbroken : TcpHeader.Broken ((⟨.tcp, 24, 20, 47⟩ : Layer).bytes (greeting.withByte 36 0x40).data) :=
      .inl (by decide)
    exact ⟨hv, hsealed.payload 46 0x64 (by decide) (by decide) (by decide),
      hsealed.hidden 36 0x40 (by decide) (by decide) (by decide) hbroken⟩
  · have hnone : greeting.layer .udp = .error (.layerNotFound .udp) := by decide
    simp [hnone] at hm

def cutBehind (r : Record) (l : Layer) (body : List UInt8) : Record :=
  { r with data := r.data.take l.payloadStart ++ body }

theorem verify_cut {l : Layer} {h : Ipv4Header} {body : List UInt8} (hl : r.layer .ipv4 = .ok l) (hh : r.ipv4 = .ok h)
    (hsum : h.headerSum = 0) (hcut : l.payloadStart + body.length < l.start + h.totalLength) :
    (∃ m, (r.cutBehind l body).layer .ipv4 = .ok m ∧ m.start = l.start ∧ m.headerSize = l.headerSize) ∧
    (r.cutBehind l body).ipv4 = .ok h ∧
    (r.cutBehind l body).verify true = .ok (.unverifiable .truncated) ∧
    (r.cutBehind l body).verify false = .ok .headerOnly ∧
    (Layers.IsTransport h.protocol → (r.cutBehind l body).classify true = .accept true) := by
  obtain ⟨f, rest, g, hr, hg, hsize, rfl⟩ := exists_frame hl
  obtain ⟨-, -, -, hfits, -⟩ := Ipv4Header.ofBytes?_eq_some hg
  obtain rfl : h = g := by
    rw [hr] at hh hl
    exact Except.ok.inj (hh.symm.trans (ipv4_of_layer hl (f.datagram_record _ _ hg hl rfl)).1)
  have hlength : (rest.take h.size).length = h.size := List.length_take_of_le hfits
  have hcutBehind :
      r.cutBehind ⟨.ipv4, f.header.length, h.size, f.header.length + (rest.take h.totalLength).length⟩ body =
        f.record r.time r.wireLength (rest.take h.size ++ body) := by
    rw [hr]
    simp only [cutBehind, Frame.record, Layer.payloadStart, List.take_length_add_append, List.append_assoc]
  have hkept : Ipv4Header.ofBytes? (rest.take h.size ++ body) = some h :=
    Layers.ofBytes?_of_take hg (List.take_left' hlength)
  have hlayer := f.layer_ipv4 r.time r.wireLength hkept hsize
  have hd := f.datagram_record r.time r.wireLength hkept hlayer rfl
  have hshort : (rest.take h.size ++ body).length < h.totalLength := by
    rw [List.length_append, hlength]
    simp only [Layer.payloadStart] at hcut
    omega
  have htrue :
      (f.record r.time r.wireLength (rest.take h.size ++ body)).verify true = .ok (.unverifiable .truncated) := by
    rw [f.verify_true _ _ hkept hsize hsum]
    exact Ipv4Header.finding_eq_truncated_iff.mpr hshort
  rw [hcutBehind]
  refine ⟨⟨_, hlayer, rfl, rfl⟩, (ipv4_of_layer hlayer hd).1, htrue, ?_, fun hp => ?_⟩
  · rw [verify_false hlayer hd, if_pos hsum]
  · rw [classify_of_transport (ipv4_of_layer hlayer hd).1 hp, htrue]
    rfl

theorem verify_cut_greeting :
    let cut := greeting.cutBehind ⟨.ipv4, 0, 24, 47⟩ [9, 9, 9]
    greeting.layer .ipv4 = .ok ⟨.ipv4, 0, 24, 47⟩ ∧ cut.verify true = .ok (.unverifiable .truncated) ∧
      cut.classify true = .accept true := by
  have hl : greeting.layer .ipv4 = .ok ⟨.ipv4, 0, 24, 47⟩ := by decide
  have hh : greeting.ipv4 = .ok ⟨greeting.data.take 24⟩ := by decide
  have hcut : 24 + [9, 9, (9 : UInt8)].length < 0 + (⟨greeting.data.take 24⟩ : Ipv4Header).totalLength := by decide
  obtain ⟨-, -, htrue, -, hclassify⟩ := verify_cut hl hh (by decide) hcut
  exact ⟨hl, htrue, hclassify (by decide)⟩

end Record

end CaptureSieve
