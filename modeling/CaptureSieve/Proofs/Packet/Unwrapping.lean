import CaptureSieve.Packet.Layers
import Mathlib.Tactic.Common

/-!
How a packet is unwrapped, under any link type: headers of framing one behind the other, each of a kind that lies deeper
than the one before it, and then maybe a datagram.
-/

namespace CaptureSieve

namespace LayerKind

def isFraming : LayerKind → Bool
  | loopback | ethernet | vlan | pppoe => true
  | ipv4 | ipv6 | tcp | udp => false

def depth : LayerKind → Nat
  | loopback | ethernet => 0
  | vlan => 1
  | pppoe => 2
  | ipv4 | ipv6 => 3
  | tcp | udp => 4

def Outside (outer inner : LayerKind) : Prop := outer.depth < inner.depth ∨ outer = vlan ∧ inner = vlan

lemma Outside.trans {a b c : LayerKind} (hab : Outside a b) (hbc : Outside b c) : Outside a c := by
  rcases hab with hab | ⟨rfl, rfl⟩
  · rcases hbc with hbc | ⟨rfl, rfl⟩
    · exact .inl (Nat.lt_trans hab hbc)
    · exact .inl hab
  · exact hbc

instance : Trans Outside Outside Outside := ⟨Outside.trans⟩

lemma outside_vlan {kind : LayerKind} (h : 1 ≤ kind.depth) : Outside vlan kind := by
  cases kind <;> simp_all [Outside, depth]

end LayerKind

namespace Layers

inductive Unwraps (data : List UInt8) : Nat → Nat → List Layer → Prop
  | nothing {depth start : Nat} : Unwraps data depth start []
  | ipv4 {depth : Nat} (start : Nat) (hdepth : depth ≤ 3) : Unwraps data depth start (ipv4 start (data.drop start))
  | ipv6 {depth : Nat} (start : Nat) (hdepth : depth ≤ 3) : Unwraps data depth start (ipv6 start (data.drop start))
  | framing {kind : LayerKind} {depth deeper start size : Nat} {inner : List Layer} (hkind : kind.isFraming)
      (hdepth : depth ≤ kind.depth) (hdeeper : ∀ next : LayerKind, deeper ≤ next.depth → kind.Outside next)
      (hroom : start + size ≤ data.length) (hinner : Unwraps data deeper (start + size) inner) :
      Unwraps data depth start (⟨kind, start, size, data.length⟩ :: inner)

variable {data : List UInt8} {layers : List Layer}

lemma behind_tag {start : Nat} {first second high low : UInt8} {inner : List UInt8}
    (h : data.drop start = first :: second :: high :: low :: inner) :
    data.drop (start + 4) = inner ∧ start + 4 ≤ data.length := by
  refine ⟨?_, ?_⟩
  · rw [← List.drop_drop, h]
    rfl
  · have hlength := congrArg List.length h
    simp only [List.length_cons, List.length_drop] at hlength
    omega

lemma unwraps_family {depth : Nat} (hdepth : depth ≤ 3) (start code : Nat) :
    Unwraps data depth start (family start code (data.drop start)) := by
  rw [family]
  split
  · exact .ipv4 start hdepth
  · split
    · exact .ipv6 start hdepth
    · exact .nothing

lemma unwraps_pppoe {depth : Nat} (hdepth : depth ≤ 2) (start : Nat) :
    Unwraps data depth start (pppoe start (data.drop start)) := by
  rw [pppoe, List.drop_drop]
  split
  · exact .nothing
  · next hlength =>
    rw [List.length_drop] at hlength
    have hstop : start + (data.drop start).length = data.length := by
      rw [List.length_drop]
      omega
    rw [hstop]
    refine .framing rfl hdepth (fun _ => .inl) (by omega) ?_
    dsimp only
    split
    · exact .ipv4 _ (Nat.le_refl 3)
    · split
      · exact .ipv6 _ (Nat.le_refl 3)
      · exact .nothing

lemma unwraps_tagged {start etherType : Nat} {rest : List UInt8} (hrest : data.drop start = rest) :
    Unwraps data 1 start (tagged data.length start etherType rest) := by
  fun_induction tagged data.length start etherType rest with
  | case1 start etherType htag first second high low inner ih =>
    obtain ⟨hinner, hlength⟩ := behind_tag hrest
    exact .framing rfl (Nat.le_refl 1) (fun _ => LayerKind.outside_vlan) hlength (ih hinner)
  | case2 => exact .nothing
  | case3 =>
    subst hrest
    exact .ipv4 _ (by decide)
  | case4 =>
    subst hrest
    exact .ipv6 _ (by decide)
  | case5 =>
    subst hrest
    exact unwraps_pppoe (by decide) _
  | case6 => exact .nothing

lemma unwraps_loopback {familyOf : List UInt8 → Nat} (h : loopback familyOf data = .ok layers) :
    Unwraps data 0 0 layers := by
  rw [loopback] at h
  split at h
  · simp at h
  · next hlength =>
    obtain rfl := Except.ok.inj h
    exact .framing rfl (Nat.le_refl 0) (fun _ => .inl) (Nat.not_lt.mp hlength) (unwraps_family (by decide) 4 _)

lemma unwraps_ethernet (h : ethernet data = .ok layers) : Unwraps data 0 0 layers := by
  rw [ethernet] at h
  split at h
  · simp at h
  · next hlength =>
    obtain rfl := Except.ok.inj h
    exact .framing rfl (Nat.le_refl 0) (fun _ => .inl) (Nat.not_lt.mp hlength) (unwraps_tagged rfl)

lemma unwraps_rawIp (h : rawIp data = .ok layers) : Unwraps data 0 0 layers := by
  unfold rawIp at h
  split at h
  · simp at h
  · dsimp only at h
    split at h
    · obtain rfl := Except.ok.inj h
      exact .ipv4 0 (by decide)
    · split at h
      · obtain rfl := Except.ok.inj h
        exact .ipv6 0 (by decide)
      · simp at h

lemma unwraps_decode {link : LinkType} (h : decode link data = .ok layers) : Unwraps data 0 0 layers := by
  rw [decode] at h
  split at h
  · exact unwraps_loopback h
  · split at h
    · exact unwraps_loopback h
    · split at h
      · exact unwraps_ethernet h
      · split at h
        · exact unwraps_rawIp h
        · simp at h

end Layers

end CaptureSieve
