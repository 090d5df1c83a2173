import CaptureSieve.Proofs.Packet.Integrity

/-!
UDP datagrams that end before the IPv4 datagram around them does. The checksum is verified over all that the IPv4 datagram
carries, with its length in the pseudo-header, so bytes behind the UDP datagram count as well.
-/

namespace CaptureSieve

namespace Ipv4Header

variable (h : Ipv4Header) (rest : List UInt8)

def udpLength : Nat := ByteOrder.big.word16 (h.segment rest) 4

def udpDatagram : List UInt8 := (h.segment rest).take (h.udpLength rest)

def surplus : List UInt8 := (h.segment rest).drop (h.udpLength rest)

def parties : List UInt8 := (h.bytes.drop 12).take 8 ++ [0, h.protocol]

/-- A UDP datagram whose checksum is right over its own length, whatever follows it. -/
structure SoundUdp (h : Ipv4Header) (rest : List UInt8) : Prop where
  whole : h.totalLength ≤ rest.length
  unfragmented : h.isFragment = false
  protocol : h.protocol = Layers.udpProtocol
  header : h.headerSum = 0
  least : 8 ≤ h.udpLength rest
  fits : h.udpLength rest ≤ h.totalLength - h.size
  present : h.udpField rest ≠ 0
  sum : Checksum.ofBytes (h.parties ++ ByteOrder.big.bytes16 (h.udpLength rest) ++ h.udpDatagram rest) = 0

/-- What the surplus adds to the sum: its length, and its words as they lie behind the UDP datagram. -/
def surplusSum : Nat := (h.surplus rest).length +
  Checksum.addWords 0 (if 2 ∣ h.udpLength rest then h.surplus rest else 0 :: h.surplus rest)

variable {h rest}

lemma length_parties (hsize : 20 ≤ h.size) : h.parties.length = 10 := by
  rw [size] at hsize
  simp only [parties, List.length_append, List.length_take, List.length_drop, List.length_cons, List.length_nil]
  omega

lemma sum_pseudoHeader (hsize : 20 ≤ h.size) {n : Nat} (hn : n < 65536) (data : List UInt8) :
    Checksum.addWords 0 (h.parties ++ ByteOrder.big.bytes16 n ++ data) =
      Checksum.addWords 0 h.parties + n + Checksum.addWords 0 data := by
  have hparties : 2 ∣ h.parties.length := by
    rw [length_parties hsize]
    decide
  have hword : Checksum.addWords 0 (ByteOrder.big.bytes16 n) = n := by
    simp only [ByteOrder.bytes16, Checksum.addWords, UInt8.toNat_ofNat']
    omega
  have heven : 2 ∣ (h.parties ++ ByteOrder.big.bytes16 n).length := by
    rw [List.length_append, length_parties hsize, ByteOrder.length_bytes16]
    decide
  rw [Checksum.sum_append, if_pos heven, Checksum.sum_append, if_pos hparties, hword]

lemma length_surplus (hwhole : h.totalLength ≤ rest.length) :
    (h.surplus rest).length = h.totalLength - h.size - h.udpLength rest := by
  rw [surplus, List.length_drop, length_segment hwhole]

lemma segmentSum_eq_zero_iff (hsize : 20 ≤ h.size) (hs : h.SoundUdp rest) :
    h.segmentSum rest = 0 ↔ 65535 ∣ h.surplusSum rest := by
  have hsegment := length_segment hs.whole
  have htaken : (h.udpDatagram rest).length = h.udpLength rest :=
    List.length_take_of_le (hsegment ▸ hs.fits)
  have hsplit : Checksum.addWords 0 (h.segment rest) = Checksum.addWords 0 (h.udpDatagram rest) +
      Checksum.addWords 0 (if 2 ∣ h.udpLength rest then h.surplus rest else 0 :: h.surplus rest) := by
    rw [← htaken, ← Checksum.sum_append, udpDatagram, surplus, List.take_append_drop]
  have hshort : h.totalLength - h.size < 65536 := Nat.lt_of_le_of_lt (Nat.sub_le _ _) h.totalLength_lt
  obtain ⟨hpos, hsound⟩ := (Checksum.ofBytes_eq_zero_iff _).mp hs.sum
  rw [sum_pseudoHeader hsize (Nat.lt_of_le_of_lt hs.fits hshort)] at hpos hsound
  have hsum : Checksum.addWords 0 (h.pseudoHeader ++ h.segment rest) =
      Checksum.addWords 0 h.parties + h.udpLength rest + Checksum.addWords 0 (h.udpDatagram rest) +
        h.surplusSum rest := by
    have hfits := hs.fits
    rw [show h.pseudoHeader = h.parties ++ ByteOrder.big.bytes16 (h.totalLength - h.size) from rfl,
      sum_pseudoHeader hsize hshort, hsplit, surplusSum, length_surplus hs.whole]
    omega
  rw [segmentSum, Checksum.ofBytes_eq_zero_iff, hsum, Nat.dvd_add_right hsound]
  exact and_iff_right (Nat.add_pos_left hpos _)

lemma carriesUdp_of_sound (hs : h.SoundUdp rest) : h.CarriesUdp rest := by
  have hleast : 8 ≤ (h.segment rest).length := by
    rw [length_segment hs.whole]
    exact Nat.le_trans hs.least hs.fits
  refine ⟨hs.unfragmented, hs.protocol, ?_⟩
  rw [UdpHeader.ofBytes?, if_pos hleast]
  rfl

lemma dvd_surplusSum_of_zeros (hs : h.SoundUdp rest) (hzeros : ∀ b ∈ h.surplus rest, b = 0) :
    65535 ∣ h.surplusSum rest ↔ h.udpLength rest = h.totalLength - h.size := by
  have hwords : Checksum.addWords 0 (if 2 ∣ h.udpLength rest then h.surplus rest else 0 :: h.surplus rest) = 0 := by
    split
    · exact Checksum.addWords_of_zeros hzeros 0
    · exact Checksum.addWords_of_zeros (List.forall_mem_cons.mpr ⟨rfl, hzeros⟩) 0
  have hleast := hs.least
  have hfits := hs.fits
  have hshort := h.totalLength_lt
  rw [surplusSum, hwords, length_surplus hs.whole]
  omega

end Ipv4Header

namespace Record

variable {r : Record} {l : Layer} {h : Ipv4Header}

theorem verify_soundUdp (hl : r.layer .ipv4 = .ok l) (hh : Ipv4Header.ofBytes? (r.data.drop l.start) = some h)
    (hs : h.SoundUdp (r.data.drop l.start)) :
    r.verify true = (if 65535 ∣ h.surplusSum (r.data.drop l.start) then .ok .verified
      else .error (.checksumMismatch .udp)) ∧
    r.classify true = (if 65535 ∣ h.surplusSum (r.data.drop l.start) then .accept false else .drop .badChecksum) ∧
    ((∀ b ∈ h.surplus (r.data.drop l.start), b = 0) → (65535 ∣ h.surplusSum (r.data.drop l.start) ↔
      h.udpLength (r.data.drop l.start) = h.totalLength - h.size)) := by
  obtain ⟨h', hd⟩ := datagram_of_layer hl
  obtain rfl : h = h' := Option.some.inj (hh.symm.trans hd.header)
  have hleast := (Ipv4Header.ofBytes?_eq_some hh).2.1
  have hverify := verify_of_udp hl hd hs.header hs.whole (Ipv4Header.carriesUdp_of_sound hs)
  rw [if_neg hs.present] at hverify
  simp only [Ipv4Header.segmentSum_eq_zero_iff hleast hs] at hverify
  refine ⟨hverify, ?_, Ipv4Header.dvd_surplusSum_of_zeros hs⟩
  rw [classify_of_transport (ipv4_of_layer hl hd).1 (.inr hs.protocol), hverify]
  split
  · rfl
  · rfl

-- An empty UDP datagram with its checksum, and some bytes behind it.
def behindUdp (length headerSum : Nat) (surplus : List UInt8) : Record where
  time := .epoch
  link := .raw
  wireLength := 30
  data := [0x45, 0] ++ ByteOrder.big.bytes16 length ++ [0, 0, 0, 0, 64, 17] ++ ByteOrder.big.bytes16 headerSum ++
    [10, 0, 0, 1, 10, 0, 0, 2, 3, 0xe8, 0, 53, 0, 8, 0xe7, 0xbe] ++ surplus

-- With their length these two bytes make up a sum of all ones.
theorem verify_soundUdp_hidden :
    let r := behindUdp 30 0x66cd [0xff, 0xfd]
    ∃ l h, r.layer .ipv4 = .ok l ∧ Ipv4Header.ofBytes? (r.data.drop l.start) = some h ∧
      h.SoundUdp (r.data.drop l.start) ∧ r.verify true = .ok .verified ∧ r.classify true = .accept false := by
  intro r
  have hl : r.layer .ipv4 = .ok ⟨.ipv4, 0, 20, 30⟩ := by decide
  have hh : Ipv4Header.ofBytes? (r.data.drop 0) = some ⟨r.data.take 20⟩ := by decide
  have hs : (⟨r.data.take 20⟩ : Ipv4Header).SoundUdp (r.data.drop 0) :=
    ⟨by decide, by decide, by decide, by decide, by decide, by decide, by decide, by decide⟩
  obtain ⟨hverify, hclassify, -⟩ := verify_soundUdp hl hh hs
  refine ⟨_, _, hl, hh, hs, ?_, ?_⟩
  · exact hverify.trans (if_pos (by decide))
  · exact hclassify.trans (if_pos (by decide))

theorem mismatch_behind_udp :
    let r := behindUdp 29 0x66ce [0]
    ∃ l h, r.layer .ipv4 = .ok l ∧ Ipv4Header.ofBytes? (r.data.drop l.start) = some h ∧
      h.SoundUdp (r.data.drop l.start) ∧ r.verify true = .error (.checksumMismatch .udp) ∧
      r.classify true = .drop .badChecksum := by
  intro r
  refine ⟨⟨.ipv4, 0, 20, 29⟩, ⟨r.data.take 20⟩, by decide, by decide, ?_, by decide, by decide⟩
  exact ⟨by decide, by decide, by decide, by decide, by decide, by decide, by decide, by decide⟩

end Record

end CaptureSieve
