import CaptureSieve.Proofs.Capture.Entries
import CaptureSieve.Proofs.Packet.Enclosure

/-!
The framings in which an IPv4 datagram is captured. Whatever framing is put before it and whatever padding behind it,
the packet says the same.
-/

namespace CaptureSieve

structure Tag where
  etherType : Nat
  known : etherType = 0x8100 ∨ etherType = 0x88a8 ∨ etherType = 0x9100
  high : UInt8
  low : UInt8

namespace Tag

def bytes (t : Tag) : List UInt8 := ByteOrder.big.bytes16 t.etherType ++ [t.high, t.low]

/-- What an EtherType field in front of `tags` says if the frame inside them is of type `inner`. -/
def firstType (inner : Nat) : List Tag → Nat
  | [] => inner
  | t :: _ => t.etherType

def behindType (inner : Nat) (rest : List UInt8) : List Tag → List UInt8
  | [] => rest
  | t :: tags => t.high :: t.low :: (ByteOrder.big.bytes16 (firstType inner tags) ++ behindType inner rest tags)

variable {inner : Nat} {rest : List UInt8} {tags : List Tag}

lemma firstType_lt (h : inner < 65536) : firstType inner tags < 65536 := by
  cases tags with
  | nil => exact h
  | cons t tags =>
    have hknown := t.known
    simp only [firstType]
    omega

lemma flatMap_bytes (inner : Nat) (rest : List UInt8) (tags : List Tag) :
    tags.flatMap bytes ++ (ByteOrder.big.bytes16 inner ++ rest) =
      ByteOrder.big.bytes16 (firstType inner tags) ++ behindType inner rest tags := by
  induction tags with
  | nil => rfl
  | cons t tags ih =>
    rw [List.flatMap_cons, List.append_assoc, ih]
    simp only [bytes, firstType, behindType, List.append_assoc, List.cons_append, List.nil_append]

end Tag

namespace Layers

variable {data rest datagram : List UInt8} {inner : Nat}

lemma tagged_of_tag (t : Tag) (tags : List Tag) (h : inner < 65536) (stop start : Nat) :
    tagged stop start t.etherType (Tag.behindType inner rest (t :: tags)) =
      ⟨.vlan, start, 4, stop⟩ :: tagged stop (start + 4) (Tag.firstType inner tags) (Tag.behindType inner rest tags) := by
  have htype : 256 * (UInt8.ofNat (Tag.firstType inner tags / 256)).toNat +
      (UInt8.ofNat (Tag.firstType inner tags)).toNat = Tag.firstType inner tags := by
    have hlt : Tag.firstType inner tags < 65536 := Tag.firstType_lt h
    rw [UInt8.toNat_ofNat', UInt8.toNat_ofNat']
    omega
  have hbytes : Tag.behindType inner rest (t :: tags) =
      t.high :: t.low :: UInt8.ofNat (Tag.firstType inner tags / 256) :: UInt8.ofNat (Tag.firstType inner tags) ::
        Tag.behindType inner rest tags := rfl
  rw [hbytes, tagged, if_pos t.known, htype]

lemma leadTo_tagged (h : inner < 65536) {stop : Nat}
    (hinner : ∀ k, rest = data.drop k → LeadTo data datagram (tagged stop k inner rest)) (tags : List Tag) {start : Nat}
    (hstart : Tag.behindType inner rest tags = data.drop start) :
    LeadTo data datagram (tagged stop start (Tag.firstType inner tags) (Tag.behindType inner rest tags)) := by
  induction tags generalizing start with
  | nil => exact hinner start hstart
  | cons t tags ih =>
    have hnext : Tag.behindType inner rest tags = data.drop (start + 4) := by
      rw [← List.drop_drop, ← hstart]
      rfl
    rw [Tag.firstType, tagged_of_tag t tags h]
    exact leadTo_cons rfl (ih hnext)

lemma ethernet_eq (addresses : Vector UInt8 12) (tags : List Tag) (h : inner < 65536) (rest : List UInt8) :
    let data := addresses.toList ++ (tags.flatMap Tag.bytes ++ (ByteOrder.big.bytes16 inner ++ rest))
    ethernet data = .ok (⟨.ethernet, 0, 14, data.length⟩ ::
      tagged data.length 14 (Tag.firstType inner tags) (Tag.behindType inner rest tags)) ∧
    Tag.behindType inner rest tags = data.drop 14 := by
  intro data
  have hdata : data = addresses.toList ++ (ByteOrder.big.bytes16 (Tag.firstType inner tags) ++
      Tag.behindType inner rest tags) := by rw [← Tag.flatMap_bytes]
  have hlength : ¬ data.length < 14 := by
    simp only [hdata, List.length_append, Vector.length_toList, ByteOrder.length_bytes16]
    omega
  have htype : ByteOrder.big.word16 data 12 = Tag.firstType inner tags := by
    have hskip := ByteOrder.big.word16_append addresses.toList
      (ByteOrder.big.bytes16 (Tag.firstType inner tags) ++ Tag.behindType inner rest tags) 0
    rw [Vector.length_toList, ← hdata, ByteOrder.word16_bytes16 _ (Tag.firstType_lt h)] at hskip
    exact hskip
  have hbehind : Tag.behindType inner rest tags = data.drop 14 := by
    rw [hdata, ← List.append_assoc, List.drop_left' (by simp)]
  refine ⟨?_, hbehind⟩
  rw [ethernet, if_neg hlength, htype, hbehind]

lemma tagged_ipv4 (stop start : Nat) (rest : List UInt8) : tagged stop start 0x0800 rest = ipv4 start rest := by
  unfold tagged
  rfl

lemma tagged_pppoe (stop start : Nat) (rest : List UInt8) : tagged stop start 0x8864 rest = pppoe start rest := by
  unfold tagged
  rfl

lemma decode_ethernet (data : List UInt8) : decode .ethernet data = ethernet data := rfl

lemma leadTo_ethernet (addresses : Vector UInt8 12) (tags : List Tag) (h : inner < 65536)
    (hinner : ∀ stop k data, rest = data.drop k → LeadTo data datagram (tagged stop k inner rest)) :
    let data := addresses.toList ++ (tags.flatMap Tag.bytes ++ (ByteOrder.big.bytes16 inner ++ rest))
    ∃ layers, ethernet data = .ok layers ∧ LeadTo data datagram layers := by
  intro data
  obtain ⟨hlayers, hbehind⟩ := ethernet_eq addresses tags h rest
  exact ⟨_, hlayers, leadTo_cons rfl (leadTo_tagged h (hinner _ · data) tags hbehind)⟩

lemma leadTo_pppoe (session : Vector UInt8 6) {k : Nat}
    (hk : session.toList ++ (ByteOrder.big.bytes16 0x0021 ++ rest) = data.drop k) :
    LeadTo data rest (pppoe k (session.toList ++ (ByteOrder.big.bytes16 0x0021 ++ rest))) := by
  have hlength : ¬ (session.toList ++ (ByteOrder.big.bytes16 0x0021 ++ rest)).length < 8 := by
    simp only [List.length_append, Vector.length_toList, ByteOrder.length_bytes16]
    omega
  have hprotocol : ByteOrder.big.word16 (session.toList ++ (ByteOrder.big.bytes16 0x0021 ++ rest)) 6 = 0x0021 := by
    have hskip := ByteOrder.big.word16_append session.toList (ByteOrder.big.bytes16 0x0021 ++ rest) 0
    rw [Vector.length_toList, ByteOrder.word16_bytes16 _ (by decide)] at hskip
    exact hskip
  have hrest : (session.toList ++ (ByteOrder.big.bytes16 0x0021 ++ rest)).drop 8 = rest := by
    rw [← List.append_assoc, List.drop_left' (by simp)]
  have hstart : rest = data.drop (k + 8) := by
    rw [← List.drop_drop, ← hk, hrest]
  rw [pppoe, if_neg hlength, hprotocol, hrest]
  exact leadTo_cons rfl (leadTo_ipv4 hstart)

lemma leadTo_loopback {familyOf : List UInt8 → Nat} {header : List UInt8} (hlength : header.length = 4)
    (hfamily : familyOf (header ++ rest) = 2) :
    ∃ layers, loopback familyOf (header ++ rest) = .ok layers ∧ LeadTo (header ++ rest) rest layers := by
  have hlong : ¬ (header ++ rest).length < 4 := by
    rw [List.length_append]
    omega
  have hrest : (header ++ rest).drop 4 = rest := List.drop_left' hlength
  refine ⟨_, by rw [loopback, if_neg hlong, hfamily, hrest], leadTo_cons rfl ?_⟩
  rw [family, if_pos rfl]
  exact leadTo_ipv4 hrest.symm

lemma hostFamily_of_bytes32 (order : ByteOrder) (rest : List UInt8) :
    hostFamily (order.bytes32 2 ++ rest) = 2 := by
  cases order with
  | little =>
    have hword := ByteOrder.little.word32_bytes32 (by decide : 2 < 4294967296) rest
    simp [hostFamily, hword]
  | big =>
    -- Read in the other order, the family of IPv4 is far above every family there is.
    have hword := ByteOrder.big.word32_bytes32 (by decide : 2 < 4294967296) rest
    have hswapped : ByteOrder.little.word32 (ByteOrder.big.bytes32 2 ++ rest) 0 = 0x0200_0000 := by
      simp [ByteOrder.word32, ByteOrder.word16, ByteOrder.bytes32, ByteOrder.bytes16, ByteOrder.join, byteAt]
    simp [hostFamily, hword, hswapped]

lemma rawIp_of_version (h : byteAt data 0 / 16 = 4) : rawIp data = .ok (ipv4 0 data) := by
  cases data with
  | nil => simp [byteAt] at h
  | cons first rest =>
    have hversion : first.toNat / 16 = 4 := h
    simp [rawIp, hversion]

end Layers

inductive Frame where
  | bare
  | null (order : ByteOrder)
  | loop
  | ethernet (addresses : Vector UInt8 12) (tags : List Tag)
  | pppoe (addresses : Vector UInt8 12) (tags : List Tag) (session : Vector UInt8 6)

namespace Frame

def link : Frame → LinkType
  | bare => .raw
  | null _ => .null
  | loop => .loop
  | ethernet .. => .ethernet
  | pppoe .. => .ethernet

def header : Frame → List UInt8
  | bare => []
  | null order => order.bytes32 2
  | loop => ByteOrder.big.bytes32 2
  | ethernet addresses tags => addresses.toList ++ (tags.flatMap Tag.bytes ++ ByteOrder.big.bytes16 0x0800)
  | pppoe addresses tags session =>
    addresses.toList ++ (tags.flatMap Tag.bytes ++ (ByteOrder.big.bytes16 0x8864 ++
      (session.toList ++ ByteOrder.big.bytes16 0x0021)))

def record (f : Frame) (time : Instant) (wireLength : UInt32) (datagram : List UInt8) : Record :=
  ⟨time, f.link, wireLength, f.header ++ datagram⟩

lemma encloses (f : Frame) (time : Instant) (wireLength : UInt32) {datagram : List UInt8}
    (h : f = bare → byteAt datagram 0 / 16 = 4) : (f.record time wireLength datagram).Encloses datagram := by
  cases f with
  | bare => exact ⟨_, Layers.rawIp_of_version (h rfl), Layers.leadTo_ipv4 rfl⟩
  | null order =>
    exact Layers.leadTo_loopback (ByteOrder.length_bytes32 _ _) (Layers.hostFamily_of_bytes32 order datagram)
  | loop =>
    have hfamily := ByteOrder.big.word32_bytes32 (by decide : 2 < 4294967296) datagram
    exact @Layers.leadTo_loopback datagram (ByteOrder.big.word32 · 0) _ (ByteOrder.length_bytes32 _ _) hfamily
  | ethernet addresses tags =>
    have hinner : ∀ stop k data, datagram = data.drop k →
        Layers.LeadTo data datagram (Layers.tagged stop k 0x0800 datagram) := by
      intro stop k data hk
      rw [Layers.tagged_ipv4]
      exact Layers.leadTo_ipv4 hk
    have hlead := Layers.leadTo_ethernet addresses tags (by decide) hinner
    simpa only [Record.Encloses, Record.layers, record, header, link, Layers.decode_ethernet, List.append_assoc] using hlead
  | pppoe addresses tags session =>
    have hinner : ∀ stop k data, session.toList ++ (ByteOrder.big.bytes16 0x0021 ++ datagram) = data.drop k →
        Layers.LeadTo data datagram
          (Layers.tagged stop k 0x8864 (session.toList ++ (ByteOrder.big.bytes16 0x0021 ++ datagram))) := by
      intro stop k data hk
      rw [Layers.tagged_pppoe]
      exact Layers.leadTo_pppoe session hk
    have hlead := Layers.leadTo_ethernet addresses tags (by decide) hinner
    simpa only [Record.Encloses, Record.layers, record, header, link, Layers.decode_ethernet, List.append_assoc] using hlead

end Frame

/-- Padding follows a datagram only if the datagram is whole. -/
def Padding (datagram padding : List UInt8) : Prop :=
  padding = [] ∨ ∃ h, Ipv4Header.ofBytes? datagram = some h ∧ h.totalLength ≤ datagram.length

lemma Layers.agree_of_padding {datagram padding : List UInt8} (h : Padding datagram padding) :
    Agree (datagram ++ padding) datagram := by
  rcases h with rfl | ⟨header, hheader, hwhole⟩
  · rw [List.append_nil]
    exact ⟨rfl, fun _ _ => rfl⟩
  · exact agree_append hheader hwhole padding

namespace Frame

variable {datagram padding : List UInt8}

lemma sameDatagram_bare (f : Frame) (time : Instant) (wireLength : UInt32) (h : byteAt datagram 0 / 16 = 4)
    (hp : Padding datagram padding) :
    (f.record time wireLength (datagram ++ padding)).SameDatagram (bare.record time wireLength datagram) := by
  have hfirst : byteAt (datagram ++ padding) 0 / 16 = 4 := by
    cases datagram with
    | nil => simp [byteAt] at h
    | cons first rest => exact h
  exact Record.sameDatagram_of_encloses (f.encloses time wireLength fun _ => hfirst)
    (bare.encloses time wireLength fun _ => h) (Layers.agree_of_padding hp)

end Frame

end CaptureSieve
