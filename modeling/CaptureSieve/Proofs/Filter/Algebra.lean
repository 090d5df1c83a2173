import CaptureSieve.Filter.Matching
import CaptureSieve.Proofs.Packet.Bounds
import Mathlib.Data.List.Perm.Subperm

/-!
Laws of filters: how directions, networks, ranges of ports and transports come apart, and that but for one test all of
them need an IPv4 layer.
-/

namespace CaptureSieve

namespace Ipv4Address

variable (a : Ipv4Address)

/-- Bits are counted from the most significant one. -/
def bit (i : Nat) : Bool := a.bits.getMsbD i

lemma bit_of_lt {i : Nat} (h : i < 32) : a.bit i = a.value.testBit (31 - i) := by
  rw [bit, BitVec.getMsbD_eq_getLsbD, decide_eq_true h, Bool.true_and]
  rfl

lemma bit_of_le {i : Nat} (h : 32 ≤ i) : a.bit i = false := BitVec.getMsbD_of_ge _ _ h

lemma testBit_of_le {j : Nat} (h : 32 ≤ j) : a.value.testBit j = false := BitVec.getLsbD_of_ge _ _ h

lemma value_inj {a b : Ipv4Address} : a.value = b.value ↔ a = b := by
  obtain ⟨as⟩ := a
  obtain ⟨bs⟩ := b
  rw [mk.injEq]
  exact BitVec.toNat_inj

end Ipv4Address

namespace Network

variable {a b low high : Ipv4Address} {l : Nat} {bit : Bool}

lemma contains_iff_bits (n : Network) (x : Ipv4Address) :
    n.contains x = true ↔ ∀ i < n.size, x.bit i = n.address.bit i := by
  rw [contains_iff]
  constructor
  · intro h i hi
    by_cases hin : i < 32
    · have hindex : n.hostBits + (31 - i - n.hostBits) = 31 - i := by
        rw [hostBits]
        omega
      have hbit := congrArg (Nat.testBit · (31 - i - n.hostBits)) h
      simp only [Nat.testBit_shiftRight, hindex] at hbit
      rw [x.bit_of_lt hin, n.address.bit_of_lt hin, hbit]
    · rw [x.bit_of_le (Nat.not_lt.mp hin), n.address.bit_of_le (Nat.not_lt.mp hin)]
  · intro h
    apply Nat.eq_of_testBit_eq
    intro j
    rw [Nat.testBit_shiftRight, Nat.testBit_shiftRight]
    by_cases hin : n.hostBits + j < 32
    · have hi : 31 - (n.hostBits + j) < 32 := by omega
      have hbit := h (31 - (n.hostBits + j)) (by simp only [hostBits] at hin ⊢; omega)
      have hindex : 31 - (31 - (n.hostBits + j)) = n.hostBits + j := by omega
      rwa [x.bit_of_lt hi, n.address.bit_of_lt hi, hindex] at hbit
    · rw [x.testBit_of_le (Nat.not_lt.mp hin), n.address.testBit_of_le (Nat.not_lt.mp hin)]

/-- In front of `l` the bits of `b` are those of `a`, then comes this one, and behind it are any. -/
structure Branches (a : Ipv4Address) (l : Nat) (bit : Bool) (b : Ipv4Address) : Prop where
  before : ∀ i < l, b.bit i = a.bit i
  bit : b.bit l = bit

lemma contains_branch (h : Branches a l bit b) (x : Ipv4Address) :
    contains ⟨b, l + 1⟩ x = (contains ⟨a, l⟩ x && (x.bit l == bit)) := by
  rw [Bool.eq_iff_iff, Bool.and_eq_true, beq_iff_eq, contains_iff_bits, contains_iff_bits, ← h.bit]
  simp only [Nat.forall_lt_succ_right]
  refine and_congr_left fun _ => forall₂_congr fun i hi => ?_
  rw [h.before i hi]

lemma contains_split (hlow : Branches a l false low) (hhigh : Branches a l true high) (x : Ipv4Address) :
    contains ⟨a, l⟩ x = (contains ⟨low, l + 1⟩ x || contains ⟨high, l + 1⟩ x) := by
  rw [contains_branch hlow, contains_branch hhigh]
  cases x.bit l <;> simp

lemma contains_all (a x : Ipv4Address) : contains ⟨a, 0⟩ x = true := by simp [contains_iff_bits]

lemma contains_alone (a x : Ipv4Address) : contains ⟨a, 32⟩ x = (x == a) := by
  rw [Bool.eq_iff_iff, contains_iff, beq_iff_eq, hostBits, Nat.sub_self, Nat.shiftRight_zero, Nat.shiftRight_zero]
  exact Ipv4Address.value_inj

end Network

namespace Filter

section Ranges

variable {a b c n : UInt16}

lemma beq_eq_range (m n : UInt16) : (m == n) = (decide (n ≤ m) && decide (m ≤ n)) := by
  rw [Bool.eq_iff_iff, beq_iff_eq, Bool.and_eq_true, decide_eq_true_iff, decide_eq_true_iff, and_comm]
  exact UInt16.le_antisymm_iff

lemma range_split (hab : a ≤ b) (hbc : b < c) : (decide (a ≤ n) && decide (n ≤ c)) =
    ((decide (a ≤ n) && decide (n ≤ b)) || (decide (b + 1 ≤ n) && decide (n ≤ c))) := by
  have hlast : c.toNat < 65536 := c.toNat_lt
  simp only [UInt16.le_iff_toNat_le, UInt16.lt_iff_toNat_lt] at hab hbc ⊢
  have hnext : (b + 1).toNat = b.toNat + 1 := by
    rw [UInt16.toNat_add]
    exact Nat.mod_eq_of_lt (Nat.lt_of_le_of_lt hbc hlast)
  rw [hnext, Bool.eq_iff_iff]
  simp only [Bool.and_eq_true, Bool.or_eq_true, decide_eq_true_iff]
  omega

end Ranges

section Fields

variable {α : Type}

lemma passes_or (p q : α → Bool) (field : Except PacketError α) :
    passes (fun x => p x || q x) field = (passes p field || passes q field) := by
  cases field <;> rfl

lemma passes_all (field : Except PacketError α) : passes (fun _ => true) field = field.isOk := by
  cases field <;> rfl

variable (d : Direction)

lemma Direction.holds_or (a b x y : Bool) : d.holds (a || b) (x || y) = (d.holds a x || d.holds b y) := by
  cases d with
  | source => rfl
  | destination => rfl
  | either => simp only [Direction.holds, Bool.or_assoc, Bool.or_left_comm b x y]

lemma Direction.holds_self (x : Bool) : d.holds x x = x := by
  cases d with
  | source => rfl
  | destination => rfl
  | either => exact Bool.or_self x

variable (r : Record)

lemma addressHolds_or (p q : Ipv4Address → Bool) :
    addressHolds d (fun a => p a || q a) r = (addressHolds d p r || addressHolds d q r) := by
  simp only [addressHolds, passes_or, Direction.holds_or]

lemma portHolds_or (t : Option Transport) (p q : UInt16 → Bool) :
    portHolds d t (fun n => p n || q n) r = (portHolds d t p r || portHolds d t q r) := by
  simp only [portHolds, passes_or, Direction.holds_or, Bool.and_or_distrib_left]

lemma portHolds_either (t : Option Transport) (p : UInt16 → Bool) :
    portHolds .either t p r = (portHolds .source t p r || portHolds .destination t p r) :=
  Bool.and_or_distrib_left _ _ _

end Fields

section Layers

variable {r : Record}

lemma isOk_ipv4 (r : Record) : r.ipv4.isOk = (r.layer .ipv4).isOk := by
  cases hl : r.layer .ipv4 with
  | error e =>
    rw [Record.ipv4_of_no_layer hl]
    rfl
  | ok l =>
    obtain ⟨h, hd⟩ := Record.datagram_of_layer hl
    rw [(Record.ipv4_of_layer hl hd).1]
    rfl

lemma addressHolds_all (d : Direction) (r : Record) :
    addressHolds d (fun _ => true) r = (r.layer .ipv4).isOk := by
  have hsource : r.source.isOk = r.ipv4.isOk := by
    rw [Record.source]
    cases r.ipv4 <;> rfl
  have hdestination : r.destination.isOk = r.ipv4.isOk := by
    rw [Record.destination]
    cases r.ipv4 <;> rfl
  rw [addressHolds, passes_all, passes_all, hsource, hdestination, d.holds_self, isOk_ipv4]

lemma not_ipv4_of_ipv6 {l m : Layer} (hl : r.layer .ipv4 = .ok l) : r.layer .ipv6 ≠ .ok m := by
  intro hm
  obtain ⟨layers, hlayers, hmem, hkind⟩ := Record.mem_of_layer hl
  obtain ⟨layers', hlayers', hmem', hkind'⟩ := Record.mem_of_layer hm
  obtain rfl := Except.ok.inj (hlayers.symm.trans hlayers')
  have hone := (CaptureSieve.Layers.nested_of_stacked (CaptureSieve.Layers.stacked_decode hlayers)).oneIp
  have hboth : [LayerKind.ipv4, .ipv6].Subperm (layers.map (·.kind)) := by
    refine List.subperm_of_subset (by decide) ?_
    simp only [List.cons_subset, List.mem_map, List.nil_subset, and_true]
    exact ⟨⟨l, hmem, hkind⟩, ⟨m, hmem', hkind'⟩⟩
  have htwo : 2 ≤ (layers.map (·.kind)).countP CaptureSieve.Layers.isIp := hboth.countP_le CaptureSieve.Layers.isIp
  omega

section NoIpv4

variable {e : PacketError} (h : r.ipv4 = .error e)

include h

lemma isProtocol_of_no_ipv4 (number : UInt8) : r.isProtocol number = false := by
  rw [Record.isProtocol, Record.protocol, h]
  rfl

lemma addressHolds_of_no_ipv4 (d : Direction) (p : Ipv4Address → Bool) : addressHolds d p r = false := by
  rw [addressHolds, Record.source, Record.destination, h]
  exact d.holds_self false

lemma portHolds_of_no_ipv4 (d : Direction) (t : Option Transport) (p : UInt16 → Bool) :
    portHolds d t p r = false := by
  have hports : d.holds (passes p r.sourcePort) (passes p r.destinationPort) = false := by
    rw [Record.sourcePort, Record.destinationPort, Record.port, Record.port, Record.protocol, h]
    exact d.holds_self false
  rw [portHolds, hports, Bool.and_false]

end NoIpv4

lemma holds_of_no_ipv4 {e : PacketError} (h : r.layer .ipv4 = .error e) {p : Primitive} (hp : p ≠ .protocol .ip6) :
    p.holds r = false := by
  have hnone := Record.ipv4_of_no_layer h
  cases p with
  | protocol q =>
    cases q with
    | tcp => exact isProtocol_of_no_ipv4 hnone _
    | udp => exact isProtocol_of_no_ipv4 hnone _
    | icmp => exact isProtocol_of_no_ipv4 hnone _
    | ip =>
      rw [Primitive.holds, Protocol.holds, h]
      rfl
    | ip6 => exact absurd rfl hp
  | host d a => exact addressHolds_of_no_ipv4 hnone d _
  | net d n => exact addressHolds_of_no_ipv4 hnone d _
  | port d t n => exact portHolds_of_no_ipv4 hnone d t _
  | portRange d t first last => exact portHolds_of_no_ipv4 hnone d t _
  | ipProtocol n => exact isProtocol_of_no_ipv4 hnone n

end Layers

def Transport.protocol : Transport → Protocol
  | .tcp => .tcp
  | .udp => .udp

structure Laws (r : Record) : Prop where
  host_either : ∀ a, (Primitive.host .either a).holds r =
    ((Primitive.host .source a).holds r || (Primitive.host .destination a).holds r)
  net_either : ∀ n, (Primitive.net .either n).holds r =
    ((Primitive.net .source n).holds r || (Primitive.net .destination n).holds r)
  port_either : ∀ t n, (Primitive.port .either t n).holds r =
    ((Primitive.port .source t n).holds r || (Primitive.port .destination t n).holds r)
  portRange_either : ∀ t first last, (Primitive.portRange .either t first last).holds r =
    ((Primitive.portRange .source t first last).holds r || (Primitive.portRange .destination t first last).holds r)
  host : ∀ d a, (Primitive.host d a).holds r = (Primitive.net d ⟨a, 32⟩).holds r
  net_all : ∀ d a, (Primitive.net d ⟨a, 0⟩).holds r = (Primitive.protocol .ip).holds r
  net_split : ∀ d a l low high, l < 32 → Network.Branches a l false low → Network.Branches a l true high →
    (Primitive.net d ⟨a, l⟩).holds r =
      ((Primitive.net d ⟨low, l + 1⟩).holds r || (Primitive.net d ⟨high, l + 1⟩).holds r)
  port : ∀ d t n, (Primitive.port d t n).holds r = (Primitive.portRange d t n n).holds r
  portRange_split : ∀ d t a b c, a ≤ b → b < c → (Primitive.portRange d t a c).holds r =
    ((Primitive.portRange d t a b).holds r || (Primitive.portRange d t (b + 1) c).holds r)
  transport : ∀ d (t : Transport) n, (Primitive.port d t n).holds r =
    (Expr.and (.primitive (.protocol t.protocol)) (.primitive (.port d none n))).holds r
  ip_or_ip6 : ((Primitive.protocol .ip).holds r && (Primitive.protocol .ip6).holds r) = false
  no_ipv4 : (∀ l, r.layer .ipv4 ≠ .ok l) → ∀ p : Primitive, p ≠ .protocol .ip6 → p.holds r = false

theorem laws_hold (r : Record) : Laws r where
  host_either _ := rfl
  net_either _ := rfl
  port_either t _ := portHolds_either r t _
  portRange_either t _ _ := portHolds_either r t _
  host d a := by
    have hsame : (⟨a, 32⟩ : Network).contains = (· == a) := funext (Network.contains_alone a)
    rw [Primitive.holds, Primitive.holds, hsame]
  net_all d a := by
    have hall : (⟨a, 0⟩ : Network).contains = fun _ => true := funext (Network.contains_all a)
    simp only [Primitive.holds, hall]
    exact addressHolds_all d r
  net_split d a l low high _ hlow hhigh := by
    have hsplit := funext (Network.contains_split hlow hhigh)
    rw [Primitive.holds, hsplit]
    exact addressHolds_or d r _ _
  port d t n := by
    have hsame : (· == n) = fun m => decide (n ≤ m) && decide (m ≤ n) := funext fun m => beq_eq_range m n
    rw [Primitive.holds, hsame]
    rfl
  portRange_split d t a b c hab hbc := by
    have hsplit := funext fun n => range_split (n := n) hab hbc
    rw [Primitive.holds, hsplit]
    exact portHolds_or d r t _ _
  transport d t n := by
    cases t with
    | tcp => exact congrArg (r.isTcp && ·) (Bool.true_and _).symm
    | udp => exact congrArg (r.isUdp && ·) (Bool.true_and _).symm
  ip_or_ip6 := by
    simp only [Primitive.holds, Protocol.holds]
    cases hl : r.layer .ipv4 with
    | error e => rfl
    | ok l =>
      cases hm : r.layer .ipv6 with
      | error e => rfl
      | ok m => exact absurd hm (not_ipv4_of_ipv6 hl)
  no_ipv4 hnone p hp := by
    cases hl : r.layer .ipv4 with
    | error e => exact holds_of_no_ipv4 hl hp
    | ok l => exact absurd hl (hnone l)

-- The packet is IPv6, and the halves of 10.0.0.0/8 have anything below the bit that tells them apart.
theorem laws_hold_lengthless :
    (∀ p : Primitive, p ≠ .protocol .ip6 → p.holds .lengthless = false) ∧
      ∀ d, (Primitive.net d ⟨.ofOctets 10 77 0 0, 8⟩).holds .lengthless =
        ((Primitive.net d ⟨.ofOctets 10 1 2 3, 9⟩).holds .lengthless ||
          (Primitive.net d ⟨.ofOctets 10 200 0 255, 9⟩).holds .lengthless) := by
  have hlaws := laws_hold .lengthless
  refine ⟨hlaws.no_ipv4 fun l hl => ?_, fun d => hlaws.net_split d _ 8 _ _ (by decide) ?_ ?_⟩
  · exact absurd (hl.symm.trans (show Record.lengthless.layer .ipv4 = .error (.layerNotFound .ipv4) by decide)) (by simp)
  · exact ⟨by decide, by decide⟩
  · exact ⟨by decide, by decide⟩

end Filter

end CaptureSieve
