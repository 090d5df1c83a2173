import CaptureSieve.Packet.Flow
import Mathlib.Data.Sym.Sym2

/-!
A flow is known by its protocol and its two ends, in no order: the two directions have one canonical key.
-/

namespace CaptureSieve.FlowKey

abbrev Endpoint := Address × UInt16

def conversation (k : FlowKey) : Sym2 Endpoint × UInt8 :=
  (s((k.source, k.sourcePort), (k.destination, k.destinationPort)), k.protocol)

variable {k l : FlowKey}

@[simp] lemma conversation_backward (k : FlowKey) : k.backward.conversation = k.conversation :=
  congrArg (·, k.protocol) Sym2.eq_swap

@[simp] lemma conversation_canonical (k : FlowKey) : k.canonical.conversation = k.conversation := by
  rw [canonical]
  split
  · rfl
  · exact conversation_backward k

lemma eq_or_backward_of_conversation (h : k.conversation = l.conversation) : k = l ∨ k = l.backward := by
  obtain ⟨source, sourcePort, destination, destinationPort, protocol⟩ := k
  simp only [conversation, Prod.mk.injEq, Sym2.eq_iff] at h
  obtain ⟨⟨⟨rfl, rfl⟩, rfl, rfl⟩ | ⟨⟨rfl, rfl⟩, rfl, rfl⟩, rfl⟩ := h
  · exact .inl rfl
  · exact .inr rfl

lemma isForward_iff : k.isForward ↔ k.source.rank < k.destination.rank ∨
    k.source = k.destination ∧ k.sourcePort ≤ k.destinationPort := by
  simp [isForward]

lemma backward_of_forward_twice (h : k.isForward) (h' : k.backward.isForward) : k.backward = k := by
  rw [isForward_iff] at h h'
  simp only [backward] at h'
  rcases h with h | ⟨hsame, hports⟩
  · rcases h' with h' | ⟨hsame, -⟩
    · omega
    · rw [hsame] at h
      exact absurd h (Nat.lt_irrefl _)
  · rcases h' with h' | ⟨-, hports'⟩
    · rw [hsame] at h'
      exact absurd h' (Nat.lt_irrefl _)
    · have hport : k.sourcePort = k.destinationPort := UInt16.le_antisymm hports hports'
      obtain ⟨source, sourcePort, destination, destinationPort, protocol⟩ := k
      dsimp only at hsame hport
      subst hsame hport
      rfl

lemma forward_or_backward (k : FlowKey) : k.isForward ∨ k.backward.isForward := by
  rw [isForward_iff, isForward_iff]
  simp only [backward]
  rcases Nat.lt_trichotomy k.source.rank k.destination.rank with h | h | h
  · exact .inl (.inl h)
  · have hsame := Address.rank_injective h
    rcases UInt16.le_total k.sourcePort k.destinationPort with hports | hports
    · exact .inl (.inr ⟨hsame, hports⟩)
    · exact .inr (.inr ⟨hsame.symm, hports⟩)
  · exact .inr (.inl h)

lemma canonical_backward (k : FlowKey) : k.backward.canonical = k.canonical := by
  by_cases h : k.isForward <;> by_cases h' : k.backward.isForward
  · simp only [canonical, h, if_true, backward_of_forward_twice h h']
  · simp [canonical, h, h']
  · simp [canonical, h, h']
  · exact absurd (forward_or_backward k) (by simp [h, h'])

lemma canonical_eq_iff : k.canonical = l.canonical ↔ k.conversation = l.conversation := by
  constructor
  · intro h
    rw [← conversation_canonical k, h, conversation_canonical]
  · intro h
    rcases eq_or_backward_of_conversation h with rfl | rfl
    · rfl
    · exact canonical_backward l

end CaptureSieve.FlowKey
