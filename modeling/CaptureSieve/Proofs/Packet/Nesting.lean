import CaptureSieve.Proofs.Packet.Enclosure
import Mathlib.Data.List.Chain

/-!
The layers of a packet lie one inside the other, each from where the header before it ends, and all of them in the bytes
that were captured.
-/

namespace CaptureSieve

lemma Ipv6Header.ofBytes?_eq_some {b : List UInt8} {h : Ipv6Header} (hb : ofBytes? b = some h) :
    40 ≤ b.length ∧ h.bytes = b.take 40 := by
  rw [ofBytes?] at hb
  split at hb
  · next hsize =>
    obtain rfl := Option.some.inj hb
    exact ⟨hsize.2, rfl⟩
  · simp at hb

namespace LayerKind

def protocol? : LayerKind → Option UInt8
  | tcp => some Layers.tcpProtocol
  | udp => some Layers.udpProtocol
  | _ => none

lemma depth_of_protocol {kind : LayerKind} {p : UInt8} (h : kind.protocol? = some p) : kind.depth = 4 := by
  cases kind <;> simp_all [protocol?, depth]

lemma protocol_of_depth {kind : LayerKind} (h : kind.depth = 3) : kind.protocol? = none := by
  cases kind <;> simp_all [protocol?, depth]

end LayerKind

namespace Layer

def carried? (l : Layer) (data : List UInt8) : Option UInt8 :=
  match l.kind with
  | .ipv4 => some (data.getD (l.start + 9) 0)
  | .ipv6 => some (data.getD (l.start + 6) 0)
  | _ => none

def Decodes (l : Layer) (data : List UInt8) : Prop :=
  match l.kind with
  | .ipv4 => (Ipv4Header.ofBytes? (l.bytes data)).isSome
  | .tcp => (TcpHeader.ofBytes? (l.bytes data)).isSome
  | .udp => (UdpHeader.ofBytes? (l.bytes data)).isSome
  | _ => True

structure Fits (l : Layer) (data : List UInt8) : Prop where
  header : l.payloadStart ≤ l.stop
  stop : l.stop ≤ data.length
  decodes : l.Decodes data

structure Follows (data : List UInt8) (outer inner : Layer) : Prop where
  start : inner.start = outer.payloadStart
  stop : inner.stop ≤ outer.stop
  deeper : LayerKind.Outside outer.kind inner.kind
  carried : ∀ p, inner.kind.protocol? = some p → outer.carried? data = some p

end Layer

namespace Layers

/-- Layers of at least some depth that begin at `start` and end before `stop`. A transport layer is not the first. -/
structure Stacked (data : List UInt8) (depth start stop : Nat) (layers : List Layer) : Prop where
  first : ∀ l ∈ layers.head?, l.start = start ∧ l.stop ≤ stop ∧ depth ≤ l.kind.depth ∧ l.kind.protocol? = none
  chain : layers.IsChain (Layer.Follows data)
  fits : ∀ l ∈ layers, l.Fits data

structure Carried (protocol : UInt8) (start stop : Nat) (segment : List UInt8) (l : Layer) : Prop where
  kind : l.kind.protocol? = some protocol
  start : l.start = start
  stop : l.stop = stop
  header : l.headerSize ≤ segment.length
  decodes : ∀ data, l.bytes data = segment → l.Decodes data

variable {data : List UInt8} {layers : List Layer} {depth start stop : Nat}

lemma stacked_nil : Stacked data depth start stop [] := ⟨by simp, List.isChain_nil, by simp⟩

lemma Stacked.mono (h : Stacked data depth start stop layers) {least limit : Nat} (hleast : least ≤ depth)
    (hlimit : stop ≤ limit) : Stacked data least start limit layers := by
  refine ⟨fun l hl => ?_, h.chain, h.fits⟩
  obtain ⟨hstart, hstop, hdepth, hnone⟩ := h.first l hl
  exact ⟨hstart, Nat.le_trans hstop hlimit, Nat.le_trans hleast hdepth, hnone⟩

lemma stacked_cons {outer : Layer} (h : Stacked data depth outer.payloadStart outer.stop layers)
    (hdeeper : ∀ kind : LayerKind, depth ≤ kind.depth → LayerKind.Outside outer.kind kind)
    (hfits : outer.Fits data) (hnone : outer.kind.protocol? = none) :
    Stacked data outer.kind.depth outer.start outer.stop (outer :: layers) := by
  refine ⟨?_, List.isChain_cons.mpr ⟨fun inner hinner => ?_, h.chain⟩, List.forall_mem_cons.mpr ⟨hfits, h.fits⟩⟩
  · rintro l ⟨⟩
    exact ⟨rfl, Nat.le_refl _, Nat.le_refl _, hnone⟩
  · obtain ⟨hstart, hstop, hdepth, hnone⟩ := h.first inner hinner
    refine ⟨hstart, hstop, hdeeper _ hdepth, fun p hp => ?_⟩
    rw [hnone] at hp
    simp at hp

section Ip

variable {outer : Layer} {protocol : UInt8} {segment : List UInt8}

lemma carried_of_mem {l : Layer} (hl : l ∈ transport protocol start stop segment) :
    Carried protocol start stop segment l := by
  rcases transport_cases hl with ⟨t, rfl, ht, rfl⟩ | ⟨u, rfl, hu, rfl⟩
  · refine ⟨rfl, rfl, rfl, (TcpHeader.size_of_ofBytes? ht).2, fun data hbytes => ?_⟩
    rw [Layer.Decodes, hbytes, ht]
    rfl
  · refine ⟨rfl, rfl, rfl, (UdpHeader.isSome_ofBytes?_iff _).mp (by rw [hu]; rfl), fun data hbytes => ?_⟩
    rw [Layer.Decodes, hbytes, hu]
    rfl

lemma follows_transport (hsegment : segment = Layer.slice outer.payloadStart outer.stop data) (hfits : outer.Fits data)
    (hdepth : outer.kind.depth = 3) (hcarried : outer.carried? data = some protocol) {l : Layer}
    (hl : l ∈ transport protocol outer.payloadStart outer.stop segment) : l.Fits data ∧ Layer.Follows data outer l := by
  obtain ⟨hkind, hstart, hstop, hheader, hdecodes⟩ := carried_of_mem hl
  have hbytes : l.bytes data = segment := by
    rw [Layer.bytes, hstart, hstop, hsegment]
  have hroom : l.payloadStart ≤ l.stop := by
    have houter := hfits.header
    rw [hsegment, Layer.length_slice] at hheader
    rw [Layer.payloadStart, hstart, hstop]
    omega
  refine ⟨⟨hroom, hstop ▸ hfits.stop, hdecodes data hbytes⟩, hstart, Nat.le_of_eq hstop, .inl ?_, fun p hp => ?_⟩
  · rw [hdepth, LayerKind.depth_of_protocol hkind]
    exact Nat.lt_succ_self 3
  · rw [hcarried, ← hp, hkind]

lemma isChain_transport (h : ∀ l ∈ transport protocol start stop segment, Layer.Follows data outer l) :
    (outer :: transport protocol start stop segment).IsChain (Layer.Follows data) := by
  refine List.isChain_cons.mpr ⟨fun l hl => h l (List.mem_of_mem_head? hl), ?_⟩
  rw [transport]
  split
  · split
    · exact List.isChain_singleton _
    · exact List.isChain_nil
  · split
    · split
      · exact List.isChain_singleton _
      · exact List.isChain_nil
    · exact List.isChain_nil

lemma stacked_transport (hsegment : segment = Layer.slice outer.payloadStart outer.stop data) (hfits : outer.Fits data)
    (hdepth : outer.kind.depth = 3) (hcarried : outer.carried? data = some protocol) :
    Stacked data 3 outer.start outer.stop
      (outer :: transport protocol outer.payloadStart outer.stop segment) := by
  have hinner {l : Layer} := follows_transport (l := l) hsegment hfits hdepth hcarried
  refine ⟨?_, isChain_transport fun l hl => (hinner hl).2, List.forall_mem_cons.mpr ⟨hfits, fun l hl => (hinner hl).1⟩⟩
  rintro l ⟨⟩
  exact ⟨rfl, Nat.le_refl _, Nat.le_of_eq hdepth.symm, LayerKind.protocol_of_depth hdepth⟩

end Ip

section Datagram

variable {kind : LayerKind} {size n : Nat}

lemma drop_take_eq_slice (start n k : Nat) (data : List UInt8) : ((data.drop start).take n).drop k =
    Layer.slice (start + k) (start + ((data.drop start).take n).length) data := by
  have hcut : start + min n (data.length - start) - (start + k) = min (n - k) (data.drop (start + k)).length := by
    rw [List.length_drop]
    omega
  rw [Layer.slice, List.length_take, List.length_drop, hcut, ← List.take_eq_take_min, List.drop_take, List.drop_drop]

lemma bytes_datagram (kind : LayerKind) (size : Nat) :
    (⟨kind, start, size, start + ((data.drop start).take n).length⟩ : Layer).bytes data = (data.drop start).take n :=
  (drop_take_eq_slice start n 0 data).symm

lemma fits_datagram (hsize : 0 < size) (hrest : size ≤ (data.drop start).length) (hn : size ≤ n)
    (hdecodes : Layer.Decodes ⟨kind, start, size, start + ((data.drop start).take n).length⟩ data) :
    Layer.Fits ⟨kind, start, size, start + ((data.drop start).take n).length⟩ data := by
  refine ⟨?_, ?_, hdecodes⟩
  · simp only [Layer.payloadStart, List.length_take]
    omega
  · simp only [List.length_take, List.length_drop] at hrest ⊢
    omega

lemma getD_datagram {i : Nat} (hi : i < size) : ((data.drop start).take size).getD i 0 = data.getD (start + i) 0 := by
  rw [List.getD_eq_getElem?_getD, List.getD_eq_getElem?_getD, List.getElem?_take_of_lt hi, List.getElem?_drop]

end Datagram

lemma stacked_ipv4 (start : Nat) : Stacked data 3 start data.length (ipv4 start (data.drop start)) := by
  rw [ipv4]
  split
  · exact stacked_nil
  · next h hh =>
    split
    · exact stacked_nil
    · next hsize =>
      rw [Nat.not_lt] at hsize
      obtain ⟨-, hleast, -, hrest, hbytes⟩ := Ipv4Header.ofBytes?_eq_some hh
      have hdecodes :
          Layer.Decodes ⟨.ipv4, start, h.size, start + ((data.drop start).take h.totalLength).length⟩ data := by
        rw [Layer.Decodes, bytes_datagram, Ipv4Header.ofBytes?_take hh hsize]
        rfl
      have hfits := fits_datagram (by omega) hrest hsize hdecodes
      have hprotocol : h.protocol = data.getD (start + 9) 0 := by
        rw [Ipv4Header.protocol, hbytes, getD_datagram (by omega)]
      have hcarried :
          Layer.carried? ⟨.ipv4, start, h.size, start + ((data.drop start).take h.totalLength).length⟩ data =
            some h.protocol := by
        rw [hprotocol]
        rfl
      dsimp only
      split
      · have hnothing : Stacked data 4 (start + h.size) (start + ((data.drop start).take h.totalLength).length) [] :=
          stacked_nil
        exact (stacked_cons hnothing (fun _ => .inl) hfits rfl).mono (Nat.le_refl 3) hfits.stop
      · exact (stacked_transport (drop_take_eq_slice start h.totalLength h.size data) hfits rfl hcarried).mono
          (Nat.le_refl 3) hfits.stop

lemma stacked_ipv6 (start : Nat) : Stacked data 3 start data.length (ipv6 start (data.drop start)) := by
  rw [ipv6]
  split
  · exact stacked_nil
  · next h hh =>
    obtain ⟨hrest, hbytes⟩ := Ipv6Header.ofBytes?_eq_some hh
    -- A payload length of zero takes all there is, like one that is large enough.
    obtain ⟨n, hn, hdatagram⟩ : ∃ n, 40 ≤ n ∧
        (if h.payloadLength = 0 then data.drop start else (data.drop start).take (40 + h.payloadLength)) =
          (data.drop start).take n := by
      split
      · exact ⟨_, hrest, List.take_length.symm⟩
      · exact ⟨_, Nat.le_add_right _ _, rfl⟩
    simp only [hdatagram]
    have hfits : Layer.Fits ⟨.ipv6, start, 40, start + ((data.drop start).take n).length⟩ data :=
      fits_datagram (by omega) hrest hn trivial
    have hprotocol : h.nextHeader = data.getD (start + 6) 0 := by
      rw [Ipv6Header.nextHeader, hbytes, getD_datagram (by omega)]
    have hcarried : Layer.carried? ⟨.ipv6, start, 40, start + ((data.drop start).take n).length⟩ data =
        some h.nextHeader := by
      rw [hprotocol]
      rfl
    exact (stacked_transport (drop_take_eq_slice start n 40 data) hfits rfl hcarried).mono (Nat.le_refl 3) hfits.stop

lemma fits_framing {kind : LayerKind} {size : Nat} (hkind : kind.isFraming) (hroom : start + size ≤ data.length) :
    Layer.Fits ⟨kind, start, size, data.length⟩ data ∧ kind.protocol? = none := by
  refine ⟨⟨hroom, Nat.le_refl _, ?_⟩, ?_⟩
  · cases kind <;> simp_all [Layer.Decodes, LayerKind.isFraming]
  · cases kind <;> simp_all [LayerKind.protocol?, LayerKind.isFraming]

lemma stacked_of_unwraps (h : Unwraps data depth start layers) : Stacked data depth start data.length layers := by
  induction h with
  | nothing => exact stacked_nil
  | ipv4 start hdepth => exact (stacked_ipv4 start).mono hdepth (Nat.le_refl _)
  | ipv6 start hdepth => exact (stacked_ipv6 start).mono hdepth (Nat.le_refl _)
  | framing hkind hdepth hdeeper hroom _ ih =>
    obtain ⟨hfits, hnone⟩ := fits_framing hkind hroom
    exact (stacked_cons ih hdeeper hfits hnone).mono hdepth (Nat.le_refl _)

lemma stacked_decode {link : LinkType} (h : decode link data = .ok layers) : Stacked data 0 0 data.length layers :=
  stacked_of_unwraps (unwraps_decode h)

def isIp (kind : LayerKind) : Bool := kind = .ipv4 || kind = .ipv6

structure Nested (data : List UInt8) (layers : List Layer) : Prop where
  inside : ∀ l ∈ layers, l.start + l.headerSize ≤ l.stop ∧ l.stop ≤ data.length
  adjacent : layers.IsChain fun outer inner =>
    inner.start = outer.start + outer.headerSize ∧ inner.stop ≤ outer.stop
  once : ∀ kind, kind ≠ .vlan → (layers.map (·.kind)).count kind ≤ 1
  oneIp : (layers.map (·.kind)).countP isIp ≤ 1
  transport : ∀ outer l inner, layers = outer ++ l :: inner → ∀ p, l.kind.protocol? = some p →
    inner = [] ∧ ∃ ip, outer.getLast? = some ip ∧ ip.carried? data = some p

lemma countP_le_one {p : LayerKind → Bool} {kinds : List LayerKind} (h : kinds.Pairwise LayerKind.Outside)
    (hp : ∀ a b, p a → p b → ¬ LayerKind.Outside a b) : kinds.countP p ≤ 1 := by
  induction h with
  | nil => exact Nat.zero_le 1
  | @cons a kinds ha _ ih =>
    rw [List.countP_cons]
    split
    · next hpa =>
      have hnone : kinds.countP p = 0 := List.countP_eq_zero.mpr fun b hb hpb => hp a b hpa hpb (ha b hb)
      rw [hnone]
    · exact ih

lemma nested_of_stacked (h : Stacked data 0 0 stop layers) : Nested data layers := by
  have hkinds : (layers.map (·.kind)).Pairwise LayerKind.Outside :=
    ((List.isChain_map _).mpr (h.chain.imp fun _ _ hfollows => hfollows.deeper)).pairwise
  refine ⟨fun l hl => ⟨(h.fits l hl).header, (h.fits l hl).stop⟩,
    h.chain.imp fun _ _ hfollows => ⟨hfollows.start, hfollows.stop⟩, fun kind hkind => ?_, ?_, ?_⟩
  · refine countP_le_one hkinds ?_
    simp only [beq_iff_eq]
    rintro a b rfl rfl hout
    rcases hout with hless | ⟨hvlan, -⟩
    · exact Nat.lt_irrefl _ hless
    · exact hkind hvlan
  · refine countP_le_one hkinds fun a b ha hb => ?_
    cases a <;> cases b <;> simp_all [isIp, LayerKind.Outside, LayerKind.depth]
  · rintro outer l inner rfl p hp
    have hdepth := LayerKind.depth_of_protocol hp
    obtain ⟨-, hback, hjoin⟩ := List.isChain_append.mp h.chain
    constructor
    · cases inner with
      | nil => rfl
      | cons next inner =>
        exfalso
        have hdeeper := (List.isChain_cons_cons.mp hback).1.deeper
        revert hdeeper
        cases hl : l.kind <;> cases hn : next.kind <;> simp_all [LayerKind.Outside, LayerKind.depth]
    · cases hlast : outer.getLast? with
      | none =>
        rw [List.getLast?_eq_none_iff] at hlast
        have hfirst := h.first l (by simp [hlast])
        simp [hp] at hfirst
      | some ip => exact ⟨ip, rfl, (hjoin ip hlast l rfl).carried p hp⟩

end Layers

end CaptureSieve
