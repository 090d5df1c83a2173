import CaptureSieve.Proofs.Packet.Conversation
import CaptureSieve.Proofs.Packet.Integrity

/-!
The five-tuple of a packet as it stands in the bytes of its datagram. A packet has a flow if its ports are there.
-/

namespace CaptureSieve

/-- A datagram in one piece, with the whole header of TCP or UDP. -/
def HasPorts (datagram : List UInt8) : Prop :=
  let start := 4 * (byteAt datagram 0 % 16)
  let size := 4 * (byteAt datagram (start + 12) / 16)
  ByteOrder.big.word16 datagram 6 % 0x4000 = 0 ∧
    (byteAt datagram 9 = 6 ∧ 20 ≤ size ∧ start + size ≤ datagram.length ∨
      byteAt datagram 9 = 17 ∧ start + 8 ≤ datagram.length)

instance (datagram : List UInt8) : Decidable (HasPorts datagram) := inferInstanceAs (Decidable (_ ∧ (_ ∨ _)))

/-- The two ends, each an address and a port, in no order, and the protocol. -/
def fiveTuple (datagram : List UInt8) : Sym2 (Nat × Nat) × Nat :=
  let start := 4 * (byteAt datagram 0 % 16)
  (s((ByteOrder.big.word32 datagram 12, ByteOrder.big.word16 datagram start),
    (ByteOrder.big.word32 datagram 16, ByteOrder.big.word16 datagram (start + 2))), byteAt datagram 9)

namespace FlowKey

def numbers (k : FlowKey) : Sym2 (Nat × Nat) × Nat :=
  Prod.map (Sym2.map (Prod.map Address.rank UInt16.toNat)) UInt8.toNat k.conversation

lemma numbers_mk (source destination : Address) (sourcePort destinationPort : UInt16) (protocol : UInt8) :
    numbers ⟨source, sourcePort, destination, destinationPort, protocol⟩ =
      (s((source.rank, sourcePort.toNat), (destination.rank, destinationPort.toNat)), protocol.toNat) := rfl

lemma numbers_eq_iff {k l : FlowKey} : k.numbers = l.numbers ↔ k.conversation = l.conversation := by
  have hend : Function.Injective (Prod.map Address.rank UInt16.toNat) :=
    Function.Injective.prodMap (fun _ _ => Address.rank_injective) fun _ _ => UInt16.toNat_inj.mp
  exact ((Sym2.map.injective hend).prodMap fun _ _ => UInt8.toNat_inj.mp).eq_iff

lemma numbers_canonical (k : FlowKey) : k.canonical.numbers = k.numbers :=
  numbers_eq_iff.mpr (conversation_canonical k)

end FlowKey

lemma TcpHeader.ports_of_ofBytes? {segment : List UInt8} {t : TcpHeader} (ht : ofBytes? segment = some t) :
    t.sourcePort.toNat = ByteOrder.big.word16 segment 0 ∧ t.destinationPort.toNat = ByteOrder.big.word16 segment 2 := by
  have hsize := (isSome_ofBytes?_iff segment).mp (by rw [ht]; rfl)
  rw [ofBytes?, if_pos hsize] at ht
  obtain rfl := Option.some.inj ht
  simp only [sourcePort, destinationPort, UInt16.toNat_ofNat_of_lt' (ByteOrder.word16_lt ..)]
  exact ⟨ByteOrder.word16_take _ (by omega) _, ByteOrder.word16_take _ (by omega) _⟩

lemma UdpHeader.ports_of_ofBytes? {segment : List UInt8} {u : UdpHeader} (hu : ofBytes? segment = some u) :
    u.sourcePort.toNat = ByteOrder.big.word16 segment 0 ∧ u.destinationPort.toNat = ByteOrder.big.word16 segment 2 := by
  have hsize := (isSome_ofBytes?_iff segment).mp (by rw [hu]; rfl)
  rw [ofBytes?, if_pos hsize] at hu
  obtain rfl := Option.some.inj hu
  simp only [sourcePort, destinationPort, UInt16.toNat_ofNat_of_lt' (ByteOrder.word16_lt ..)]
  exact ⟨ByteOrder.word16_take _ (by decide) _, ByteOrder.word16_take _ (by decide) _⟩

lemma Ipv4Address.value_ofBytes (bytes : List UInt8) (i : Nat) :
    (ofBytes bytes i).value = ByteOrder.big.word32 bytes i := by
  rw [value, ofBytes, BitVec.toNat_ofNat, Nat.mod_eq_of_lt (ByteOrder.word32_lt ..)]

namespace Ipv4Header

variable {h : Ipv4Header} {rest : List UInt8} (hh : ofBytes? rest = some h) (hsize : h.size ≤ h.totalLength)

include hh hsize

lemma bytes_of_datagram : h.bytes = (rest.take h.totalLength).take h.size := by
  rw [List.take_take, Nat.min_eq_left hsize]
  exact (ofBytes?_eq_some hh).2.2.2.2

lemma size_of_datagram : 4 * (byteAt (rest.take h.totalLength) 0 % 16) = h.size := by
  obtain ⟨-, hleast, heq, -, -⟩ := ofBytes?_eq_some hh
  rw [byteAt_take (by omega), heq]

lemma protocol_of_datagram : byteAt (rest.take h.totalLength) 9 = h.protocol.toNat := by
  have hleast := (ofBytes?_eq_some hh).2.1
  rw [protocol, bytes_of_datagram hh hsize]
  exact (byteAt_take (by omega) _).symm

lemma isFragment_eq_false_iff :
    h.isFragment = false ↔ ByteOrder.big.word16 (rest.take h.totalLength) 6 % 0x4000 = 0 := by
  have hleast := (ofBytes?_eq_some hh).2.1
  rw [isFragment, bytes_of_datagram hh hsize, ByteOrder.word16_take _ (by omega)]
  simp

lemma size_le_datagram : h.size ≤ (rest.take h.totalLength).length := by
  rw [List.length_take]
  exact Nat.le_min.mpr ⟨hsize, (ofBytes?_eq_some hh).2.2.2.1⟩

lemma hasPorts_iff : HasPorts (rest.take h.totalLength) ↔ h.CarriesTcp rest ∨ h.CarriesUdp rest := by
  have hwhole := size_le_datagram hh hsize
  have htcp : h.protocol = Layers.tcpProtocol ↔ byteAt (rest.take h.totalLength) 9 = 6 := by
    rw [protocol_of_datagram hh hsize, ← UInt8.toNat_inj]
    rfl
  have hudp : h.protocol = Layers.udpProtocol ↔ byteAt (rest.take h.totalLength) 9 = 17 := by
    rw [protocol_of_datagram hh hsize, ← UInt8.toNat_inj]
    rfl
  simp only [HasPorts, CarriesTcp, CarriesUdp, size_of_datagram hh hsize, isFragment_eq_false_iff hh hsize, htcp, hudp,
    segment, UdpHeader.isSome_ofBytes?_iff, TcpHeader.isSome_ofBytes?_iff, List.length_drop, byteAt_drop]
  omega

end Ipv4Header

namespace Record

variable {r : Record} {l : Layer} {h : Ipv4Header} {segment : List UInt8}

def PortsAt (r : Record) (segment : List UInt8) : Prop :=
  ∃ p q, r.sourcePort = .ok p ∧ r.destinationPort = .ok q ∧
    p.toNat = ByteOrder.big.word16 segment 0 ∧ q.toNat = ByteOrder.big.word16 segment 2

lemma portsAt_of_tcp (hr : r.ipv4 = .ok h) (hs : r.layerBytes .tcp = .ok segment)
    (hp : h.protocol = Layers.tcpProtocol) (ht : (TcpHeader.ofBytes? segment).isSome) : r.PortsAt segment := by
  obtain ⟨t, ht⟩ := Option.isSome_iff_exists.mp ht
  obtain ⟨hsource, hdestination⟩ := TcpHeader.ports_of_ofBytes? ht
  refine ⟨t.sourcePort, t.destinationPort, ?_, ?_, hsource, hdestination⟩
  all_goals simp only [sourcePort, destinationPort, port, protocol, hr, hp, tcp, header, hs, Except.map, Except.bind,
    Layers.header, ht, if_true]

lemma portsAt_of_udp (hr : r.ipv4 = .ok h) (hs : r.layerBytes .udp = .ok segment)
    (hp : h.protocol = Layers.udpProtocol) (hu : (UdpHeader.ofBytes? segment).isSome) : r.PortsAt segment := by
  have hne : Layers.udpProtocol ≠ Layers.tcpProtocol := by decide
  obtain ⟨u, hu⟩ := Option.isSome_iff_exists.mp hu
  obtain ⟨hsource, hdestination⟩ := UdpHeader.ports_of_ofBytes? hu
  refine ⟨u.sourcePort, u.destinationPort, ?_, ?_, hsource, hdestination⟩
  all_goals simp only [sourcePort, destinationPort, port, protocol, hr, hp, udp, header, hs, Except.map, Except.bind,
    Layers.header, hu, hne, if_true, if_false]

lemma no_sourcePort (hr : r.ipv4 = .ok h) (hnone : ∀ kind, kind = .tcp ∨ kind = .udp → ∃ e, r.layerBytes kind = .error e) :
    ∃ e, r.sourcePort = .error e := by
  obtain ⟨e, he⟩ := hnone .tcp (.inl rfl)
  obtain ⟨e', he'⟩ := hnone .udp (.inr rfl)
  simp only [sourcePort, port, protocol, hr, tcp, udp, header, he, he', Except.map, Except.bind]
  split
  · exact ⟨e, rfl⟩
  · split
    · exact ⟨e', rfl⟩
    · exact ⟨_, rfl⟩

lemma flowKey_of_portsAt (hr : r.ipv4 = .ok h) (hs : r.PortsAt segment) :
    ∃ k, r.flowKey = .ok k ∧ k.numbers = (s((h.source.value, ByteOrder.big.word16 segment 0),
      (h.destination.value, ByteOrder.big.word16 segment 2)), h.protocol.toNat) := by
  obtain ⟨p, q, hp, hq, hfirst, hsecond⟩ := hs
  refine ⟨⟨.v4 h.source, p, .v4 h.destination, q, h.protocol⟩, ?_, ?_⟩
  · simp only [flowKey, source, destination, protocol, hr, hp, hq]
    rfl
  · rw [FlowKey.numbers_mk, hfirst, hsecond]
    rfl

lemma ports_of_layer (hl : r.layer .ipv4 = .ok l) (hd : Layers.Datagram r.data l h) :
    (h.CarriesTcp (r.data.drop l.start) ∨ h.CarriesUdp (r.data.drop l.start)) ∧
        r.PortsAt (h.segment (r.data.drop l.start)) ∨
      ¬ (h.CarriesTcp (r.data.drop l.start) ∨ h.CarriesUdp (r.data.drop l.start)) ∧ ∃ e, r.sourcePort = .error e := by
  have hipv4 := (ipv4_of_layer hl hd).1
  have henclosed := encloses_of_layer hl
  by_cases ht : h.CarriesTcp (r.data.drop l.start)
  · exact .inl ⟨.inl ht, portsAt_of_tcp hipv4 (layerBytes_of_tcp henclosed hd.header hd.size_le ht) ht.2.1 ht.2.2⟩
  by_cases hu : h.CarriesUdp (r.data.drop l.start)
  · exact .inl ⟨.inr hu, portsAt_of_udp hipv4 (layerBytes_of_udp henclosed hd.header hd.size_le hu) hu.2.1 hu.2.2⟩
  refine .inr ⟨fun hc => hc.elim ht hu, no_sourcePort hipv4 ?_⟩
  rintro kind (rfl | rfl)
  · exact ⟨_, layerBytes_of_neither henclosed hd.header hd.size_le ht hu rfl (by decide)⟩
  · exact ⟨_, layerBytes_of_neither henclosed hd.header hd.size_le ht hu rfl (by decide)⟩

lemma fiveTuple_of_datagram (hd : Layers.Datagram r.data l h) :
    fiveTuple ((r.data.drop l.start).take h.totalLength) =
      (s((h.source.value, ByteOrder.big.word16 (h.segment (r.data.drop l.start)) 0),
        (h.destination.value, ByteOrder.big.word16 (h.segment (r.data.drop l.start)) 2)), h.protocol.toNat) := by
  have hleast := (Ipv4Header.ofBytes?_eq_some hd.header).2.1
  have hbytes := Ipv4Header.bytes_of_datagram hd.header hd.size_le
  have hsource : h.source.value = ByteOrder.big.word32 ((r.data.drop l.start).take h.totalLength) 12 := by
    rw [Ipv4Header.source, Ipv4Address.value_ofBytes, hbytes, ByteOrder.word32_take _ (by omega)]
  have hdestination : h.destination.value = ByteOrder.big.word32 ((r.data.drop l.start).take h.totalLength) 16 := by
    rw [Ipv4Header.destination, Ipv4Address.value_ofBytes, hbytes, ByteOrder.word32_take _ (by omega)]
  rw [fiveTuple, Ipv4Header.size_of_datagram hd.header hd.size_le, Ipv4Header.protocol_of_datagram hd.header hd.size_le,
    hsource, hdestination]
  simp only [Ipv4Header.segment, ByteOrder.word16_drop, Nat.add_zero]

lemma exists_flow_iff (c : Sym2 (Nat × Nat) × Nat) :
    (∃ k, r.flowKey = .ok k ∧ k.numbers = c) ↔ ∃ d, r.datagram = .ok d ∧ HasPorts d ∧ fiveTuple d = c := by
  cases hl : r.layer .ipv4 with
  | error e => simp [flowKey, source, ipv4_of_no_layer hl, datagram, layerBytes, hl, Except.map, bind, Except.bind]
  | ok l =>
    obtain ⟨h, hd⟩ := datagram_of_layer hl
    obtain ⟨hipv4, hbytes⟩ := ipv4_of_layer hl hd
    rw [hbytes]
    simp only [Except.ok.injEq, exists_eq_left', Ipv4Header.hasPorts_iff hd.header hd.size_le, fiveTuple_of_datagram hd]
    rcases ports_of_layer hl hd with ⟨hcarries, hports⟩ | ⟨hnone, e, he⟩
    · obtain ⟨k, hk, hnumbers⟩ := flowKey_of_portsAt hipv4 hports
      simp [hk, hnumbers, hcarries]
    · simp [flowKey, source, hipv4, he, hnone, Except.map, bind, Except.bind]

end Record

end CaptureSieve
