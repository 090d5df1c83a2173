import CaptureSieve.Packet.Verdict
import CaptureSieve.Proofs.Packet.Unwrapping

/-!
Where the IPv4 datagram of a packet lies: it begins with a header that decodes, and ends at its total length or
where the capture ends. A packet with one of TCP or UDP is judged by its checksums.
-/

namespace CaptureSieve

namespace Ipv4Header

variable {b : List UInt8} {h : Ipv4Header}

lemma ofBytes?_eq_some (hb : ofBytes? b = some h) :
    byteAt b 0 / 16 = 4 ∧ 20 ≤ h.size ∧ h.size = 4 * (byteAt b 0 % 16) ∧ h.size ≤ b.length ∧
    h.bytes = b.take h.size := by
  unfold ofBytes? at hb
  dsimp only at hb
  split at hb
  · next hsize =>
    obtain rfl := Option.some.inj hb
    obtain ⟨hversion, hleast, hfits⟩ := hsize
    have hlength : (b.take (4 * (byteAt b 0 % 16))).length = 4 * (byteAt b 0 % 16) := List.length_take_of_le hfits
    refine ⟨hversion, ?_, hlength, ?_, ?_⟩ <;> simp only [size, hlength]
    · exact hleast
    · exact hfits
  · simp at hb

lemma ofBytes?_take (hb : ofBytes? b = some h) {n : Nat} (hn : h.size ≤ n) : ofBytes? (b.take n) = some h := by
  obtain ⟨hversion, hleast, hsize, hfits, hbytes⟩ := ofBytes?_eq_some hb
  have hfirst : byteAt (b.take n) 0 = byteAt b 0 := by
    simp only [byteAt, List.getD_eq_getElem?_getD]
    rw [List.getElem?_take_of_lt (by omega)]
  have hlength : h.size ≤ (b.take n).length := by
    rw [List.length_take]
    exact Nat.le_min.mpr ⟨hn, hfits⟩
  rw [ofBytes?]
  simp only [hfirst, ← hsize]
  rw [if_pos ⟨hversion, hleast, hlength⟩, List.take_take, Nat.min_eq_left hn, ← hbytes]

end Ipv4Header

namespace TcpHeader

lemma size_of_ofBytes? {segment : List UInt8} {t : TcpHeader} (ht : ofBytes? segment = some t) :
    20 ≤ t.size ∧ t.size ≤ segment.length := by
  rw [ofBytes?] at ht
  split at ht
  · obtain rfl := Option.some.inj ht
    rw [size, List.length_take]
    omega
  · simp at ht

lemma isSome_ofBytes?_iff (segment : List UInt8) : (ofBytes? segment).isSome ↔
    20 ≤ 4 * (byteAt segment 12 / 16) ∧ 4 * (byteAt segment 12 / 16) ≤ segment.length := by
  rw [ofBytes?]
  split <;> simp_all

end TcpHeader

namespace UdpHeader

lemma isSome_ofBytes?_iff (segment : List UInt8) : (ofBytes? segment).isSome ↔ 8 ≤ segment.length := by
  rw [ofBytes?]
  split <;> simp_all

end UdpHeader

namespace Layers

def IsTransport (protocol : UInt8) : Prop := protocol = tcpProtocol ∨ protocol = udpProtocol

instance (protocol : UInt8) : Decidable (IsTransport protocol) := inferInstanceAs (Decidable (_ ∨ _))

structure Datagram (data : List UInt8) (l : Layer) (h : Ipv4Header) : Prop where
  header : Ipv4Header.ofBytes? (data.drop l.start) = some h
  size_le : h.size ≤ h.totalLength
  stop : l.stop = l.start + min h.totalLength (data.length - l.start)

def Sound (data : List UInt8) (layers : List Layer) : Prop :=
  ∀ l ∈ layers, l.kind = .ipv4 → ∃ h, Datagram data l h

variable {data : List UInt8} {layers : List Layer}

lemma sound_nil (data : List UInt8) : Sound data [] := by simp [Sound]

lemma sound_of_ne (h : ∀ l ∈ layers, l.kind ≠ .ipv4) : Sound data layers :=
  fun l hl hk => absurd hk (h l hl)

lemma sound_cons {l : Layer} (hl : l.kind ≠ .ipv4) (h : Sound data layers) : Sound data (l :: layers) := by
  rintro m hm hk
  rcases List.mem_cons.mp hm with rfl | hm
  · exact absurd hk hl
  · exact h m hm hk

lemma transport_cases {protocol : UInt8} {start stop : Nat} {segment : List UInt8} {l : Layer}
    (h : l ∈ transport protocol start stop segment) :
    (∃ t, protocol = tcpProtocol ∧ TcpHeader.ofBytes? segment = some t ∧ l = ⟨.tcp, start, t.size, stop⟩) ∨
    (∃ u, protocol = udpProtocol ∧ UdpHeader.ofBytes? segment = some u ∧ l = ⟨.udp, start, 8, stop⟩) := by
  rw [transport] at h
  split at h
  · next hprotocol =>
    split at h
    · next t ht => exact .inl ⟨t, hprotocol, ht, List.mem_singleton.mp h⟩
    · simp at h
  · split at h
    · next hprotocol =>
      split at h
      · next u hu => exact .inr ⟨u, hprotocol, hu, List.mem_singleton.mp h⟩
      · simp at h
    · simp at h

lemma kind_of_transport {protocol : UInt8} {start stop : Nat} {segment : List UInt8} {l : Layer}
    (h : l ∈ transport protocol start stop segment) : l.kind ≠ .ipv4 := by
  rcases transport_cases h with ⟨t, -, -, rfl⟩ | ⟨u, -, -, rfl⟩ <;> simp

lemma sound_transport (data : List UInt8) (protocol : UInt8) (start stop : Nat) (segment : List UInt8) :
    Sound data (transport protocol start stop segment) :=
  sound_of_ne fun _ => kind_of_transport

lemma sound_ipv4 {start : Nat} {rest : List UInt8} (hrest : rest = data.drop start) :
    Sound data (ipv4 start rest) := by
  subst hrest
  rw [ipv4]
  split
  · exact sound_nil data
  · next h hheader =>
    split
    · exact sound_nil data
    · next hsize =>
      rintro l hl hk
      rcases List.mem_cons.mp hl with rfl | hl
      · refine ⟨h, hheader, Nat.not_lt.mp hsize, ?_⟩
        simp only [List.length_take, List.length_drop]
      · split at hl
        · simp at hl
        · exact absurd hk (kind_of_transport hl)

lemma sound_ipv6 (start : Nat) (rest : List UInt8) : Sound data (ipv6 start rest) := by
  rw [ipv6]
  split
  · exact sound_nil data
  · exact sound_cons (by simp) (sound_transport _ _ _ _ _)

lemma sound_of_unwraps {depth start : Nat} (h : Unwraps data depth start layers) : Sound data layers := by
  induction h with
  | nothing => exact sound_nil data
  | ipv4 start => exact sound_ipv4 rfl
  | ipv6 start => exact sound_ipv6 _ _
  | framing hkind _ _ _ _ ih =>
    refine sound_cons ?_ ih
    rintro rfl
    simp [LayerKind.isFraming] at hkind

lemma find_eq_ok {kind : LayerKind} {l : Layer} (h : find kind layers = .ok l) : l ∈ layers ∧ l.kind = kind := by
  rw [find] at h
  split at h
  · next hfound =>
    obtain rfl := Except.ok.inj h
    exact ⟨List.mem_of_find?_eq_some hfound, by simpa using List.find?_some hfound⟩
  · simp at h

end Layers

namespace Record

variable {r : Record} {l : Layer}

lemma mem_of_layer {kind : LayerKind} (hl : r.layer kind = .ok l) :
    ∃ layers, r.layers = .ok layers ∧ l ∈ layers ∧ l.kind = kind := by
  rw [layer] at hl
  cases hlayers : r.layers with
  | error e => simp [hlayers, Except.bind] at hl
  | ok layers =>
    rw [hlayers] at hl
    exact ⟨layers, rfl, Layers.find_eq_ok hl⟩

lemma datagram_of_layer (hl : r.layer .ipv4 = .ok l) : ∃ h, Layers.Datagram r.data l h := by
  obtain ⟨layers, hlayers, hmem, hkind⟩ := mem_of_layer hl
  exact Layers.sound_of_unwraps (Layers.unwraps_decode hlayers) l hmem hkind

lemma bytes_of_datagram {h : Ipv4Header} (hd : Layers.Datagram r.data l h) :
    l.bytes r.data = (r.data.drop l.start).take h.totalLength := by
  have hcut : l.stop - l.start = min h.totalLength (r.data.drop l.start).length := by
    rw [hd.stop, List.length_drop]
    omega
  rw [Layer.bytes, Layer.slice, hcut, ← List.take_eq_take_min]

lemma ipv4_of_layer {h : Ipv4Header} (hl : r.layer .ipv4 = .ok l) (hd : Layers.Datagram r.data l h) :
    r.ipv4 = .ok h ∧ r.datagram = .ok ((r.data.drop l.start).take h.totalLength) := by
  have hbytes : r.layerBytes .ipv4 = .ok ((r.data.drop l.start).take h.totalLength) := by
    rw [layerBytes, hl, ← bytes_of_datagram hd]
    rfl
  refine ⟨?_, hbytes⟩
  rw [ipv4, header, hbytes]
  simp only [Except.bind, Layers.header, Ipv4Header.ofBytes?_take hd.header hd.size_le]

lemma ipv4_of_no_layer {e : PacketError} (hl : r.layer .ipv4 = .error e) : r.ipv4 = .error e := by
  rw [ipv4, header, layerBytes, hl]
  rfl

lemma checksumOk_iff {transport : Bool} : r.checksumOk transport ↔ ∃ v, r.verify transport = .ok v := by
  cases hv : r.verify transport <;> simp [checksumOk, hv, Except.isOk, Except.toBool]

lemma verify_of_no_layer {e : PacketError} (hl : r.layer .ipv4 = .error e) (transport : Bool) :
    r.verify transport = .error e := by
  rw [verify, ipv4_of_no_layer hl]

variable {h : Ipv4Header} {e : PacketError}

lemma isProtocol_of_ipv4 (hr : r.ipv4 = .ok h) (protocol : UInt8) :
    r.isProtocol protocol = (h.protocol == protocol) := by
  simp only [isProtocol, Record.protocol, hr, Except.map, Except.toOption, Option.getD_some]

lemma classify_of_error (hr : r.ipv4 = .error e) (transport : Bool) : r.classify transport = .drop .notIpv4 := by
  simp only [classify, hr]

lemma ipv4_of_accept {transport unverified : Bool} (ha : r.classify transport = .accept unverified) :
    ∃ l ip, r.layer .ipv4 = .ok l ∧ Layers.Datagram r.data l ip ∧ r.ipv4 = .ok ip := by
  cases hl : r.layer .ipv4 with
  | error e => simp [classify_of_error (ipv4_of_no_layer hl)] at ha
  | ok l =>
    obtain ⟨ip, hd⟩ := datagram_of_layer hl
    exact ⟨l, ip, rfl, hd, (ipv4_of_layer hl hd).1⟩

lemma classify_of_transport (hr : r.ipv4 = .ok h) (hp : Layers.IsTransport h.protocol) (transport : Bool) :
    r.classify transport = .ofVerification (r.verify transport) := by
  simp only [classify, hr, isTcp, isUdp, isProtocol_of_ipv4 hr, Bool.or_eq_true, beq_iff_eq]
  exact if_pos hp

lemma classify_of_not_transport (hr : r.ipv4 = .ok h) (hp : ¬ Layers.IsTransport h.protocol) (transport : Bool) :
    r.classify transport = .drop .notTransport := by
  simp only [classify, hr, isTcp, isUdp, isProtocol_of_ipv4 hr, Bool.or_eq_true, beq_iff_eq]
  exact if_neg hp

end Record

lemma Verification.scope_cases {protocol : UInt8} {kind : LayerKind} {scope : ChecksumScope}
    (h : scope? protocol = some (kind, scope)) : kind = .tcp ∧ scope = .tcp ∨ kind = .udp ∧ scope = .udp := by
  rw [scope?] at h
  split at h
  · obtain ⟨rfl, rfl⟩ := Prod.mk.inj (Option.some.inj h)
    exact .inl ⟨rfl, rfl⟩
  · split at h
    · obtain ⟨rfl, rfl⟩ := Prod.mk.inj (Option.some.inj h)
      exact .inr ⟨rfl, rfl⟩
    · simp at h

lemma Verdict.ofVerification_ok (v : Verification) : ∃ unverified, ofVerification (.ok v) = accept unverified := by
  cases v with
  | verified => exact ⟨false, rfl⟩
  | headerOnly => exact ⟨false, rfl⟩
  | unverifiable why => exact ⟨true, rfl⟩

end CaptureSieve
