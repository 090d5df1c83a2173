import CaptureSieve.Proofs.Packet.Framing
import CaptureSieve.Proofs.Packet.Integrity

/-!
There are no other framings: the bytes of a packet with an IPv4 layer are the header of a frame, and then those that its
IPv4 layer begins with.
-/

namespace CaptureSieve

namespace ByteOrder

lemma bytes16_of_two (a b : UInt8) : big.bytes16 (256 * a.toNat + b.toNat) = [a, b] := by
  have ha := a.toNat_lt
  have hb := b.toNat_lt
  simp only [bytes16, List.cons.injEq, ← UInt8.toNat_inj, UInt8.toNat_ofNat']
  refine ⟨?_, ?_, trivial⟩ <;> omega

lemma bytes16_word16 {bytes : List UInt8} {i : Nat} (h : i + 2 ≤ bytes.length) :
    big.bytes16 (big.word16 bytes i) = (bytes.drop i).take 2 := by
  have hword : big.word16 bytes i = big.word16 (bytes.drop i) 0 := by
    simp [word16, byteAt]
  have hlength : 2 ≤ (bytes.drop i).length := by
    rw [List.length_drop]
    omega
  rw [hword]
  generalize bytes.drop i = behind at hlength ⊢
  rcases behind with _ | ⟨a, _ | ⟨b, rest⟩⟩
  · simp at hlength
  · simp at hlength
  · exact bytes16_of_two a b

end ByteOrder

lemma exists_vector {n : Nat} {bytes : List UInt8} (h : n ≤ bytes.length) :
    ∃ v : Vector UInt8 n, v.toList = bytes.take n :=
  ⟨⟨(bytes.take n).toArray, by simp [h]⟩, rfl⟩

namespace Layers

variable {l : Layer} (hk : l.kind = .ipv4) {data : List UInt8} {layers : List Layer}

include hk

lemma family_of_mem {start code : Nat} {rest : List UInt8} (hl : l ∈ family start code rest) :
    code = 2 ∧ l ∈ ipv4 start rest := by
  rw [family] at hl
  split at hl
  · next hcode => exact ⟨hcode, hl⟩
  · split at hl
    · exact absurd hk (kind_of_ipv6 hl)
    · simp at hl

lemma loopback_of_mem {familyOf : List UInt8 → Nat} (h : loopback familyOf data = .ok layers) (hl : l ∈ layers) :
    4 ≤ data.length ∧ familyOf data = 2 ∧ l ∈ ipv4 4 (data.drop 4) := by
  rw [loopback] at h
  split at h
  · simp at h
  · next hlength =>
    obtain rfl := Except.ok.inj h
    rcases List.mem_cons.mp hl with rfl | hl
    · simp at hk
    · exact ⟨Nat.not_lt.mp hlength, family_of_mem hk hl⟩

lemma pppoe_of_mem {start : Nat} {rest : List UInt8} (hl : l ∈ pppoe start rest) :
    ∃ (session : Vector UInt8 6) (body : List UInt8),
      rest = session.toList ++ (ByteOrder.big.bytes16 0x0021 ++ body) ∧ l ∈ ipv4 (start + 8) body := by
  rw [pppoe] at hl
  split at hl
  · simp at hl
  · next hlength =>
    rcases List.mem_cons.mp hl with rfl | hl
    · simp at hk
    · dsimp only at hl
      split at hl
      · next hprotocol =>
        obtain ⟨session, hsession⟩ := exists_vector (show 6 ≤ rest.length by omega)
        refine ⟨session, rest.drop 8, ?_, hl⟩
        rw [hsession, ← hprotocol, ByteOrder.bytes16_word16 (by omega), ← List.drop_drop (i := 2) (j := 6),
          List.take_append_drop, List.take_append_drop]
      · split at hl
        · exact absurd hk (kind_of_ipv6 hl)
        · simp at hl

lemma tagged_of_mem {stop start etherType : Nat} {rest : List UInt8} (hl : l ∈ tagged stop start etherType rest) :
    ∃ tags inner body, etherType = Tag.firstType inner tags ∧ rest = Tag.behindType inner body tags ∧
      (inner = 0x0800 ∧ l ∈ ipv4 (start + 4 * tags.length) body ∨
        inner = 0x8864 ∧ l ∈ pppoe (start + 4 * tags.length) body) := by
  fun_induction tagged stop start etherType rest with
  | case1 start etherType htag first second high low deeper ih =>
    rcases List.mem_cons.mp hl with rfl | hl
    · simp at hk
    · obtain ⟨tags, inner, body, htype, rfl, hinside⟩ := ih hl
      have hstart : start + 4 + 4 * tags.length = start + 4 * (tags.length + 1) := by omega
      rw [hstart] at hinside
      refine ⟨⟨etherType, htag, first, second⟩ :: tags, inner, body, rfl, ?_, hinside⟩
      rw [Tag.behindType, ← htype, ByteOrder.bytes16_of_two]
      rfl
  | case2 => simp at hl
  | case3 => exact ⟨[], 0x0800, _, rfl, rfl, .inl ⟨rfl, hl⟩⟩
  | case4 => exact absurd hk (kind_of_ipv6 hl)
  | case5 => exact ⟨[], 0x8864, _, rfl, rfl, .inr ⟨rfl, hl⟩⟩
  | case6 => simp at hl

lemma ethernet_of_mem (h : ethernet data = .ok layers) (hl : l ∈ layers) :
    ∃ (addresses : Vector UInt8 12) (tags : List Tag) (inner : Nat) (body : List UInt8),
      data = addresses.toList ++ (tags.flatMap Tag.bytes ++ (ByteOrder.big.bytes16 inner ++ body)) ∧
      (inner = 0x0800 ∧ l ∈ ipv4 (14 + 4 * tags.length) body ∨
        inner = 0x8864 ∧ l ∈ pppoe (14 + 4 * tags.length) body) := by
  rw [ethernet] at h
  split at h
  · simp at h
  · next hlength =>
    obtain rfl := Except.ok.inj h
    rcases List.mem_cons.mp hl with rfl | hl
    · simp at hk
    · obtain ⟨tags, inner, body, htype, hrest, hinside⟩ := tagged_of_mem hk hl
      obtain ⟨addresses, haddresses⟩ := exists_vector (show 12 ≤ data.length by omega)
      refine ⟨addresses, tags, inner, body, ?_, hinside⟩
      rw [Tag.flatMap_bytes, ← htype, ← hrest, haddresses, ByteOrder.bytes16_word16 (by omega),
        ← List.drop_drop (i := 2) (j := 12), List.take_append_drop, List.take_append_drop]

lemma rawIp_of_mem (h : rawIp data = .ok layers) (hl : l ∈ layers) : l ∈ ipv4 0 data := by
  unfold rawIp at h
  split at h
  · simp at h
  · dsimp only at h
    split at h
    · obtain rfl := Except.ok.inj h
      exact hl
    · split at h
      · obtain rfl := Except.ok.inj h
        exact absurd hk (kind_of_ipv6 hl)
      · simp at h

omit hk in
lemma bytes32_of_hostFamily (h : hostFamily data = 2) (hlength : 4 ≤ data.length) :
    ∃ order : ByteOrder, order.bytes32 2 = data.take 4 := by
  rw [hostFamily] at h
  split at h
  · exact ⟨.little, h ▸ ByteOrder.bytes32_word32 .little (i := 0) hlength⟩
  · exact ⟨.big, h ▸ ByteOrder.bytes32_word32 .big (i := 0) hlength⟩

end Layers

namespace Frame

lemma length_tags (tags : List Tag) : (tags.flatMap Tag.bytes).length = 4 * tags.length := by
  induction tags with
  | nil => rfl
  | cons t tags ih =>
    rw [List.flatMap_cons, List.length_append, ih, List.length_cons, Tag.bytes, List.length_append,
      ByteOrder.length_bytes16, List.length_cons, List.length_cons, List.length_nil]
    omega

lemma of_decode {link : LinkType} {data : List UInt8} {layers : List Layer} (h : Layers.decode link data = .ok layers)
    {l : Layer} (hl : l ∈ layers) (hk : l.kind = .ipv4) :
    ∃ (f : Frame) (body : List UInt8),
      link = f.link ∧ data = f.header ++ body ∧ l ∈ Layers.ipv4 f.header.length body := by
  rw [Layers.decode] at h
  split at h
  · next hlink =>
    obtain ⟨hlength, hfamily, hinside⟩ := Layers.loopback_of_mem hk h hl
    obtain ⟨order, horder⟩ := Layers.bytes32_of_hostFamily hfamily hlength
    refine ⟨.null order, data.drop 4, hlink, ?_, ?_⟩
    · rw [header, horder, List.take_append_drop]
    · rwa [header, ByteOrder.length_bytes32]
  · split at h
    · next hlink =>
      obtain ⟨hlength, hfamily, hinside⟩ := Layers.loopback_of_mem hk h hl
      have horder : ByteOrder.big.bytes32 2 = data.take 4 := hfamily ▸ ByteOrder.bytes32_word32 .big (i := 0) hlength
      refine ⟨.loop, data.drop 4, hlink, ?_, ?_⟩
      · rw [header, horder, List.take_append_drop]
      · rwa [header, ByteOrder.length_bytes32]
    · split at h
      · next hlink =>
        obtain ⟨addresses, tags, inner, body, hdata, ⟨rfl, hinside⟩ | ⟨rfl, hinside⟩⟩ :=
          Layers.ethernet_of_mem hk h hl
        · refine ⟨.ethernet addresses tags, body, hlink, ?_, ?_⟩
          · simpa only [header, List.append_assoc] using hdata
          · have hlength : (ethernet addresses tags).header.length = 14 + 4 * tags.length := by
              simp only [header, List.length_append, Vector.length_toList, length_tags, ByteOrder.length_bytes16]
              omega
            rwa [hlength]
        · obtain ⟨session, datagram, rfl, hdatagram⟩ := Layers.pppoe_of_mem hk hinside
          refine ⟨.pppoe addresses tags session, datagram, hlink, ?_, ?_⟩
          · simpa only [header, List.append_assoc] using hdata
          · have hlength : (pppoe addresses tags session).header.length = 14 + 4 * tags.length + 8 := by
              simp only [header, List.length_append, Vector.length_toList, length_tags, ByteOrder.length_bytes16]
              omega
            rwa [hlength]
      · split at h
        · next hlink => exact ⟨.bare, data, hlink, rfl, Layers.rawIp_of_mem hk h hl⟩
        · simp at h

variable (f : Frame) (time : Instant) (wireLength : UInt32) {rest : List UInt8} {h : Ipv4Header}

lemma layer_record (hh : Ipv4Header.ofBytes? rest = some h) {kind : LayerKind} (hk : kind.isFraming = false) :
    (f.record time wireLength rest).layer kind =
      (Layers.find kind (Layers.ipv4 0 rest)).map (Layer.shift f.header.length) := by
  obtain ⟨hversion, hleast, -, hfits, -⟩ := Ipv4Header.ofBytes?_eq_some hh
  obtain ⟨layers, hlayers, outer, k, rfl, hrest, houter⟩ := f.encloses time wireLength fun _ => hversion
  have hstart : k = f.header.length := by
    have hlength := congrArg List.length hrest
    simp only [record, List.length_drop, List.length_append] at hlength
    omega
  have hother : ∀ l ∈ outer, l.kind ≠ kind := by
    rintro l hl rfl
    simp [houter l hl] at hk
  rw [Record.layer, hlayers]
  simp only [Except.bind]
  rw [Layers.find_append hother, Layers.ipv4_shift, Layers.find_map_shift, hstart]

lemma layer_ipv4 (hh : Ipv4Header.ofBytes? rest = some h) (hsize : h.size ≤ h.totalLength) :
    (f.record time wireLength rest).layer .ipv4 =
      .ok ⟨.ipv4, f.header.length, h.size, f.header.length + (rest.take h.totalLength).length⟩ := by
  rw [f.layer_record time wireLength hh rfl, Layers.ipv4_of_header hh hsize, Layers.find]
  rfl

section Transport

variable (hh : Ipv4Header.ofBytes? rest = some h) (hsize : h.size ≤ h.totalLength)

include hh hsize

lemma layer_tcp (hc : h.CarriesTcp rest) :
    ∃ t, TcpHeader.ofBytes? (h.segment rest) = some t ∧ (f.record time wireLength rest).layer .tcp =
      .ok (Layer.shift f.header.length ⟨.tcp, h.size, t.size, (rest.take h.totalLength).length⟩) := by
  obtain ⟨t, ht, hlayers⟩ := Layers.ipv4_of_tcp hh hsize hc
  refine ⟨t, ht, ?_⟩
  rw [f.layer_record time wireLength hh rfl, hlayers]
  rfl

lemma layer_udp (hc : h.CarriesUdp rest) :
    (f.record time wireLength rest).layer .udp =
      .ok (Layer.shift f.header.length ⟨.udp, h.size, 8, (rest.take h.totalLength).length⟩) := by
  rw [f.layer_record time wireLength hh rfl, Layers.ipv4_of_udp hh hsize hc]
  rfl

end Transport

lemma datagram_record (hh : Ipv4Header.ofBytes? rest = some h) {l : Layer}
    (hl : (f.record time wireLength rest).layer .ipv4 = .ok l) (hstart : l.start = f.header.length) :
    Layers.Datagram (f.record time wireLength rest).data l h := by
  obtain ⟨g, hd⟩ := Record.datagram_of_layer hl
  have hheader := hd.header
  rw [hstart, record, List.drop_left, hh] at hheader
  obtain rfl := Option.some.inj hheader
  exact hd

lemma verify_true (hh : Ipv4Header.ofBytes? rest = some h) (hsize : h.size ≤ h.totalLength) (hsum : h.headerSum = 0) :
    (f.record time wireLength rest).verify true = h.finding rest := by
  have hl := f.layer_ipv4 time wireLength hh hsize
  rw [Record.verify_true hl (f.datagram_record time wireLength hh hl rfl) hsum, record, List.drop_left]

lemma no_layer_ipv4 (hnone : Layers.ipv4 0 rest = []) :
    ∃ e, (f.record time wireLength rest).layer .ipv4 = .error e := by
  cases hl : (f.record time wireLength rest).layer .ipv4 with
  | error e => exact ⟨e, rfl⟩
  | ok l =>
    exfalso
    obtain ⟨layers, hlayers, hmem, hkind⟩ := Record.mem_of_layer hl
    by_cases hf : f = bare
    · -- Without a frame the version may have changed, and then nothing is sought behind it.
      subst hf
      have hinside := Layers.rawIp_of_mem hkind hlayers hmem
      simp [hnone, record, header] at hinside
    · obtain ⟨layers', hlayers', outer, k, rfl, -, houter⟩ :=
        @encloses f time wireLength rest fun h => absurd h hf
      obtain rfl := Except.ok.inj (hlayers.symm.trans hlayers')
      rw [Layers.ipv4_shift, hnone, List.map_nil, List.append_nil] at hmem
      have hframing := houter l hmem
      simp [hkind, LayerKind.isFraming] at hframing

end Frame

namespace Record

variable {r : Record}

lemma exists_frame {l : Layer} (hl : r.layer .ipv4 = .ok l) :
    ∃ (f : Frame) (rest : List UInt8) (h : Ipv4Header), r = f.record r.time r.wireLength rest ∧
      Ipv4Header.ofBytes? rest = some h ∧ h.size ≤ h.totalLength ∧
      l = ⟨.ipv4, f.header.length, h.size, f.header.length + (rest.take h.totalLength).length⟩ := by
  obtain ⟨layers, hlayers, hmem, hkind⟩ := mem_of_layer hl
  obtain ⟨f, rest, hlink, hdata, hinside⟩ := Frame.of_decode hlayers hmem hkind
  have hr : r = f.record r.time r.wireLength rest := by
    rw [Frame.record, ← hlink, ← hdata]
  obtain ⟨h, hd⟩ := datagram_of_layer hl
  have hh := hd.header
  rw [Layers.start_of_ipv4 hinside hkind, hdata, List.drop_left] at hh
  refine ⟨f, rest, h, hr, hh, hd.size_le, ?_⟩
  have hframed := f.layer_ipv4 r.time r.wireLength hh hd.size_le
  rw [← hr, hl] at hframed
  exact Except.ok.inj hframed

lemma frame_of_verify {transport : Bool} {v : Verification} (hv : r.verify transport = .ok v) :
    ∃ (f : Frame) (rest : List UInt8) (h : Ipv4Header), r = f.record r.time r.wireLength rest ∧
      Ipv4Header.ofBytes? rest = some h ∧ h.size ≤ h.totalLength ∧ h.headerSum = 0 := by
  cases hl : r.layer .ipv4 with
  | error e => simp [verify_of_no_layer hl] at hv
  | ok l =>
    obtain ⟨f, rest, h, hr, hh, hsize, rfl⟩ := exists_frame hl
    refine ⟨f, rest, h, hr, hh, hsize, ?_⟩
    by_contra hsum
    rw [hr] at hl hv
    simp [verify_of_headerSum hl (f.datagram_record _ _ hh hl rfl) hsum] at hv

end Record

end CaptureSieve
