import CaptureSieve.Packet.StoredKey
import CaptureSieve.Proofs.Packet.Conversation

/-!
A flow is its protocol and its two ends: of its two directions one is canonical, and two keys have one canonical
direction just if they are the same or each other's reverse. This holds of stored keys whatever their cells keep.
-/

namespace CaptureSieve

namespace FlowKey

variable {k l : FlowKey}

def Loops (k : FlowKey) : Prop := (k.source, k.sourcePort) = (k.destination, k.destinationPort)

lemma backward_eq_self_iff : k.backward = k ↔ k.Loops := by
  obtain ⟨source, sourcePort, destination, destinationPort, protocol⟩ := k
  simp only [backward, Loops, mk.injEq, Prod.mk.injEq, and_true]
  constructor
  · rintro ⟨haddress, hport, -, -⟩
    exact ⟨haddress.symm, hport.symm⟩
  · rintro ⟨haddress, hport⟩
    exact ⟨haddress.symm, hport.symm, haddress, hport⟩

lemma forward_twice_iff : k.isForward ∧ k.backward.isForward ↔ k.Loops := by
  constructor
  · rintro ⟨h, h'⟩
    exact backward_eq_self_iff.mp (backward_of_forward_twice h h')
  · intro h
    have hsame := backward_eq_self_iff.mpr h
    rcases forward_or_backward k with hk | hk
    · exact ⟨hk, hsame.symm ▸ hk⟩
    · exact ⟨hsame ▸ hk, hk⟩

lemma isForward_backward (h : ¬ k.Loops) : k.backward.isForward = !k.isForward := by
  have hboth := mt forward_twice_iff.mp h
  have hone := forward_or_backward k
  cases hk : k.isForward <;> cases hb : k.backward.isForward <;> simp [hk, hb] at hboth hone ⊢

lemma isForward_canonical (k : FlowKey) : k.canonical.isForward := by
  rw [canonical]
  split
  · next h => exact h
  · next h => exact (forward_or_backward k).resolve_left h

lemma canonical_eq_iff_or : k.canonical = l.canonical ↔ k = l ∨ k = l.backward := by
  rw [canonical_eq_iff]
  constructor
  · exact eq_or_backward_of_conversation
  · rintro (rfl | rfl)
    · rfl
    · exact conversation_backward l

end FlowKey

namespace StoredKey

lemma beq_iff {s t : StoredKey} : s == t ↔ s.key = t.key :=
  show (s.key == t.key) = true ↔ s.key = t.key from beq_iff_eq

variable (sign : FlowKey → UInt64)

inductive Reached : StoredKey → Prop
  | ofKey (k : FlowKey) : Reached (ofKey sign k)
  | backward {s : StoredKey} (h : Reached s) : Reached (s.backward sign)
  | asked {s : StoredKey} (n : Nat) (h : Reached s) : Reached (asked sign n s)
  | canonical {s : StoredKey} (h : Reached s) : Reached (s.canonical sign)

inductive Sound : StoredKey → Prop
  | ofKey (k : FlowKey) : Sound (ofKey sign k)
  | keeping {s : StoredKey} (h : Sound s) : Sound ⟨s.key.backward, sign s.key.backward, some s⟩

variable {sign} {s t : StoredKey}

lemma Sound.signature_eq (h : Sound sign s) : s.signature = sign s.key := by
  cases h with
  | ofKey k => rfl
  | keeping h => rfl

lemma Sound.key_backward (h : Sound sign s) : (s.backward sign).key = s.key.backward := by
  cases h with
  | ofKey k => rfl
  | keeping h => rfl

lemma Sound.backward (h : Sound sign s) : Sound sign (s.backward sign) := by
  cases h with
  | ofKey k => exact .ofKey k.backward
  | keeping h => exact h

lemma key_asked (n : Nat) (s : StoredKey) : (asked sign n s).key = s.key := by
  cases n with
  | zero => rfl
  | succ n => rfl

lemma Sound.asked (h : Sound sign s) (n : Nat) : Sound sign (asked sign n s) := by
  induction n generalizing s with
  | zero => exact h
  | succ n ih =>
    have hkept := Sound.keeping (ih h.backward)
    rw [key_asked, h.key_backward, FlowKey.backward_backward, ← h.signature_eq] at hkept
    exact hkept

lemma Sound.canonical (h : Sound sign s) : Sound sign (s.canonical sign) := by
  rw [StoredKey.canonical]
  split
  · exact h
  · exact h.backward

lemma Sound.key_canonical (h : Sound sign s) : (s.canonical sign).key = s.key.canonical := by
  rw [StoredKey.canonical, FlowKey.canonical]
  split
  · rfl
  · exact h.key_backward

lemma Reached.sound (h : Reached sign s) : Sound sign s := by
  induction h with
  | ofKey k => exact .ofKey k
  | backward _ ih => exact ih.backward
  | asked n _ ih => exact ih.asked n
  | canonical _ ih => exact ih.canonical

lemma signature_of_key (hs : Sound sign s) (ht : Sound sign t) (h : s.key = t.key) : s.signature = t.signature := by
  rw [hs.signature_eq, ht.signature_eq, h]

variable (sign) in
structure Reversible (s : StoredKey) : Prop where
  twice : ((s.backward sign).backward sign).key = s.key ∧
    ((s.backward sign).backward sign).signature = s.signature
  forward_twice_iff : s.key.isForward ∧ (s.backward sign).key.isForward ↔ s.key.Loops
  same : s.key.Loops → s.backward sign == s ∧ (s.backward sign).signature = s.signature
  forward_once : ¬ s.key.Loops → (s.backward sign).key.isForward = !s.key.isForward
  canonical_forward : (s.canonical sign).key.isForward
  canonical_canonical : (s.canonical sign).canonical sign = s.canonical sign

lemma Sound.reversible (h : Sound sign s) : Reversible sign s := by
  have hkey : ((s.backward sign).backward sign).key = s.key := by
    rw [h.backward.key_backward, h.key_backward, FlowKey.backward_backward]
  have hforward : (s.canonical sign).key.isForward := by
    rw [h.key_canonical]
    exact FlowKey.isForward_canonical s.key
  constructor
  · exact ⟨hkey, signature_of_key h.backward.backward h hkey⟩
  · rw [h.key_backward]
    exact FlowKey.forward_twice_iff
  · intro hloops
    have hsame : (s.backward sign).key = s.key := by
      rw [h.key_backward]
      exact FlowKey.backward_eq_self_iff.mpr hloops
    exact ⟨beq_iff.mpr hsame, signature_of_key h.backward h hsame⟩
  · rw [h.key_backward]
    exact FlowKey.isForward_backward
  · exact hforward
  · exact if_pos hforward

theorem identifies_flows (hs : Reached sign s) (ht : Reached sign t) :
    Reversible sign s ∧ (s == t → s.signature = t.signature) ∧
      (s.canonical sign == t.canonical sign ↔ s == t ∨ s == t.backward sign) := by
  have hs := hs.sound
  have ht := ht.sound
  refine ⟨hs.reversible, fun h => signature_of_key hs ht (beq_iff.mp h), ?_⟩
  rw [beq_iff, beq_iff, beq_iff, hs.key_canonical, ht.key_canonical, ht.key_backward]
  exact FlowKey.canonical_eq_iff_or

-- An IPv4 host asks an IPv6 host; the answer's key is told from it only by its direction.
theorem identifies_flows_mixed :
    let sign := fun k : FlowKey => k.sourcePort.toUInt64
    let query : FlowKey := ⟨.v4 (.ofOctets 10 0 0 1), 40000, .v6 (.ofGroups [0x2001, 0xdb8, 0, 0, 0, 0, 0, 1]), 53, 17⟩
    let s := asked sign 2 (ofKey sign query)
    let t := ofKey sign query.backward
    Reached sign s ∧ Reached sign t ∧ s.key.isForward ∧ ¬ t.key.isForward ∧ s.signature ≠ t.signature ∧
      Reversible sign s ∧ s.canonical sign == t.canonical sign := by
  intro sign query s t
  have hs : Reached sign s := (Reached.ofKey query).asked 2
  have ht : Reached sign t := .ofKey query.backward
  obtain ⟨hreversible, -, hfiled⟩ := identifies_flows hs ht
  exact ⟨hs, ht, by decide, by decide, by decide, hreversible, hfiled.mpr (.inr (by decide))⟩

end StoredKey

end CaptureSieve
