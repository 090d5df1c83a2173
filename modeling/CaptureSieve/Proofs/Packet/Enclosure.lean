import CaptureSieve.Proofs.Packet.Likeness

/-!
The layers of a packet are those of its framing and then those of the datagram inside, which are the same wherever
the datagram begins.
-/

namespace CaptureSieve

namespace Layer

def shift (k : Nat) (l : Layer) : Layer := { l with start := k + l.start, stop := k + l.stop }

lemma bytes_shift (k : Nat) (l : Layer) (data : List UInt8) : (l.shift k).bytes data = l.bytes (data.drop k) := by
  have hlength : k + l.stop - (k + l.start) = l.stop - l.start := by omega
  simp only [bytes, slice, shift, hlength, List.drop_drop]

lemma bytes_take {l : Layer} {n : Nat} (h : l.stop ≤ n) (data : List UInt8) :
    l.bytes (data.take n) = l.bytes data := by
  have hlength : min (l.stop - l.start) (n - l.start) = l.stop - l.start := by omega
  simp only [bytes, slice, List.drop_take, List.take_take, hlength]

end Layer

namespace Layers

lemma transport_shift (protocol : UInt8) (k start stop : Nat) (segment : List UInt8) :
    transport protocol (k + start) (k + stop) segment = (transport protocol start stop segment).map (Layer.shift k) := by
  simp only [transport]
  split
  · cases TcpHeader.ofBytes? segment <;> rfl
  · split
    · cases UdpHeader.ofBytes? segment <;> rfl
    · rfl

lemma ipv4_shift (k : Nat) (rest : List UInt8) : ipv4 k rest = (ipv4 0 rest).map (Layer.shift k) := by
  simp only [ipv4]
  cases Ipv4Header.ofBytes? rest with
  | none => rfl
  | some h =>
    dsimp only
    split
    · rfl
    · simp only [List.map_cons, Nat.zero_add]
      split
      · rfl
      · rw [← transport_shift]
        rfl

def Agree (a b : List UInt8) : Prop :=
  Ipv4Header.ofBytes? a = Ipv4Header.ofBytes? b ∧
    ∀ h, Ipv4Header.ofBytes? a = some h → a.take h.totalLength = b.take h.totalLength

variable {a b : List UInt8}

lemma agree_take {h : Ipv4Header} (ha : Ipv4Header.ofBytes? a = some h) (hsize : h.size ≤ h.totalLength) :
    Agree a (a.take h.totalLength) := by
  refine ⟨by rw [Ipv4Header.ofBytes?_take ha hsize, ha], fun g hg => ?_⟩
  obtain rfl := Option.some.inj (ha.symm.trans hg)
  rw [List.take_take, Nat.min_self]

lemma ofBytes?_append {h : Ipv4Header} (ha : Ipv4Header.ofBytes? a = some h) (padding : List UInt8) :
    Ipv4Header.ofBytes? (a ++ padding) = some h := by
  obtain ⟨hversion, hleast, hsize, hfits, hbytes⟩ := Ipv4Header.ofBytes?_eq_some ha
  have hfirst : byteAt (a ++ padding) 0 = byteAt a 0 := by
    simp only [byteAt, List.getD_eq_getElem?_getD]
    rw [List.getElem?_append_left (by omega)]
  have hlength : h.size ≤ (a ++ padding).length := by
    rw [List.length_append]
    omega
  rw [Ipv4Header.ofBytes?]
  simp only [hfirst, ← hsize]
  rw [if_pos ⟨hversion, hleast, hlength⟩, List.take_append_of_le_length hfits, ← hbytes]

lemma ofBytes?_of_take {h : Ipv4Header} (ha : Ipv4Header.ofBytes? a = some h) (hsame : b.take h.size = a.take h.size) :
    Ipv4Header.ofBytes? b = some h := by
  have htaken := Ipv4Header.ofBytes?_take ha (Nat.le_refl h.size)
  rw [← hsame] at htaken
  have happend := ofBytes?_append htaken (b.drop h.size)
  rwa [List.take_append_drop] at happend

lemma agree_append {h : Ipv4Header} (ha : Ipv4Header.ofBytes? a = some h) (hwhole : h.totalLength ≤ a.length)
    (padding : List UInt8) : Agree (a ++ padding) a := by
  have happend := ofBytes?_append ha padding
  refine ⟨happend.trans ha.symm, fun g hg => ?_⟩
  obtain rfl := Option.some.inj (happend.symm.trans hg)
  rw [List.take_append_of_le_length hwhole]

lemma stop_of_transport {protocol : UInt8} {start stop : Nat} {segment : List UInt8} {l : Layer}
    (h : l ∈ transport protocol start stop segment) : l.stop = stop := by
  rcases transport_cases h with ⟨t, -, -, rfl⟩ | ⟨u, -, -, rfl⟩ <;> rfl

lemma stop_of_ipv4 {l : Layer} (hl : l ∈ ipv4 0 a) :
    ∃ h, Ipv4Header.ofBytes? a = some h ∧ l.stop ≤ h.totalLength := by
  rw [ipv4] at hl
  split at hl
  · simp at hl
  · next h hh =>
    refine ⟨h, hh, ?_⟩
    have hstop : 0 + (a.take h.totalLength).length ≤ h.totalLength := by
      rw [Nat.zero_add]
      exact List.length_take_le ..
    split at hl
    · simp at hl
    · rcases List.mem_cons.mp hl with rfl | hl
      · exact hstop
      · split at hl
        · simp at hl
        · rw [stop_of_transport hl]
          exact hstop

lemma ipv4_of_agree (h : Agree a b) (start : Nat) : ipv4 start a = ipv4 start b := by
  obtain ⟨hheader, hdatagram⟩ := h
  simp only [ipv4, ← hheader]
  cases ha : Ipv4Header.ofBytes? a with
  | none => rfl
  | some g => simp only [hdatagram g ha]

lemma bytes_of_agree (h : Agree a b) {l : Layer} (hl : l ∈ ipv4 0 a) : l.bytes a = l.bytes b := by
  obtain ⟨g, ha, hstop⟩ := stop_of_ipv4 hl
  rw [← Layer.bytes_take hstop a, h.2 g ha, Layer.bytes_take hstop b]

lemma find_map_shift (kind : LayerKind) (k : Nat) (layers : List Layer) :
    find kind (layers.map (Layer.shift k)) = (find kind layers).map (Layer.shift k) := by
  have hfind : (layers.map (Layer.shift k)).find? (·.kind = kind) =
      (layers.find? (·.kind = kind)).map (Layer.shift k) := List.find?_map ..
  rw [find, find, hfind]
  cases layers.find? (·.kind = kind) <;> rfl

lemma find_append {kind : LayerKind} {outer : List Layer} (h : ∀ l ∈ outer, l.kind ≠ kind) (inner : List Layer) :
    find kind (outer ++ inner) = find kind inner := by
  have hnone : outer.find? (·.kind = kind) = none := by simpa using h
  simp only [find, List.find?_append, hnone, Option.none_or]

/-- Behind layers of framing there is nothing but the datagram that `rest` begins with. -/
def LeadTo (data rest : List UInt8) (layers : List Layer) : Prop :=
  ∃ outer k, layers = outer ++ ipv4 k rest ∧ rest = data.drop k ∧ ∀ l ∈ outer, l.kind.isFraming

variable {data rest : List UInt8} {layers : List Layer}

lemma leadTo_ipv4 {start : Nat} (hrest : rest = data.drop start) : LeadTo data rest (ipv4 start rest) :=
  ⟨[], start, rfl, hrest, by simp⟩

lemma leadTo_cons {l : Layer} (hl : l.kind.isFraming) (h : LeadTo data rest layers) :
    LeadTo data rest (l :: layers) := by
  obtain ⟨outer, k, rfl, hrest, houter⟩ := h
  exact ⟨l :: outer, k, rfl, hrest, List.forall_mem_cons.mpr ⟨hl, houter⟩⟩

lemma find_of_leadTo (h : LeadTo data rest layers) {kind : LayerKind} (hk : kind.isFraming = false) :
    (find kind layers).map (·.bytes data) = (find kind (ipv4 0 rest)).map (·.bytes rest) := by
  obtain ⟨outer, k, rfl, rfl, houter⟩ := h
  have hother : ∀ l ∈ outer, l.kind ≠ kind := by
    rintro l hl rfl
    simp [houter l hl] at hk
  rw [find_append hother, ipv4_shift, find_map_shift]
  cases find kind (ipv4 0 (data.drop k)) with
  | error e => rfl
  | ok l => simp only [Except.map, Layer.bytes_shift]

end Layers

namespace Record

def Encloses (r : Record) (rest : List UInt8) : Prop := ∃ layers, r.layers = .ok layers ∧ Layers.LeadTo r.data rest layers

variable {r s : Record} {a b : List UInt8}

lemma layerBytes_of_encloses (h : r.Encloses a) {kind : LayerKind} (hk : kind.isFraming = false) :
    r.layerBytes kind = (Layers.find kind (Layers.ipv4 0 a)).map (·.bytes a) := by
  obtain ⟨layers, hlayers, hlead⟩ := h
  rw [← Layers.find_of_leadTo hlead hk, layerBytes, layer, hlayers]
  rfl

lemma sameDatagram_of_encloses (hr : r.Encloses a) (hs : s.Encloses b) (h : Layers.Agree a b) : SameDatagram r s := by
  intro kind hk
  rw [layerBytes_of_encloses hr hk, layerBytes_of_encloses hs hk, ← Layers.ipv4_of_agree h]
  cases hl : Layers.find kind (Layers.ipv4 0 a) with
  | error e => rfl
  | ok l => simp only [Except.map, Layers.bytes_of_agree h (Layers.find_eq_ok hl).1]

end Record

namespace Layers

def Split (data : List UInt8) (layers : List Layer) : Prop :=
  (∃ rest, LeadTo data rest layers) ∨ ∀ l ∈ layers, l.kind ≠ .ipv4

variable {data : List UInt8} {layers : List Layer}

lemma split_nil (data : List UInt8) : Split data [] := .inr (by simp)

lemma split_cons {l : Layer} (hl : l.kind.isFraming) (h : Split data layers) : Split data (l :: layers) := by
  rcases h with ⟨rest, hlead⟩ | hnone
  · exact .inl ⟨rest, leadTo_cons hl hlead⟩
  · refine .inr (List.forall_mem_cons.mpr ⟨?_, hnone⟩)
    rintro hk
    simp [hk, LayerKind.isFraming] at hl

lemma split_ipv4 {start : Nat} {rest : List UInt8} (hrest : rest = data.drop start) :
    Split data (ipv4 start rest) :=
  .inl ⟨rest, leadTo_ipv4 hrest⟩

lemma kind_of_ipv6 {start : Nat} {rest : List UInt8} {l : Layer} (hl : l ∈ ipv6 start rest) : l.kind ≠ .ipv4 := by
  rw [ipv6] at hl
  split at hl
  · simp at hl
  · rcases List.mem_cons.mp hl with rfl | hl
    · simp
    · exact kind_of_transport hl

lemma split_ipv6 (start : Nat) (rest : List UInt8) : Split data (ipv6 start rest) :=
  .inr fun _ => kind_of_ipv6

lemma split_of_unwraps {depth start : Nat} (h : Unwraps data depth start layers) : Split data layers := by
  induction h with
  | nothing => exact split_nil data
  | ipv4 start => exact split_ipv4 rfl
  | ipv6 start => exact split_ipv6 _ _
  | framing hkind _ _ _ _ ih => exact split_cons hkind ih

lemma start_of_ipv4 {start : Nat} {rest : List UInt8} {l : Layer} (hl : l ∈ ipv4 start rest) (hk : l.kind = .ipv4) :
    l.start = start := by
  rw [ipv4] at hl
  split at hl
  · simp at hl
  · split at hl
    · simp at hl
    · rcases List.mem_cons.mp hl with rfl | hl
      · rfl
      · split at hl
        · simp at hl
        · exact absurd hk (kind_of_transport hl)

end Layers

lemma Record.encloses_of_layer {r : Record} {l : Layer} (hl : r.layer .ipv4 = .ok l) :
    r.Encloses (r.data.drop l.start) := by
  obtain ⟨layers, hlayers, hmem, hkind⟩ := mem_of_layer hl
  rcases Layers.split_of_unwraps (Layers.unwraps_decode hlayers) with ⟨rest, outer, k, rfl, rfl, houter⟩ | hnone
  · have hinside : l ∈ Layers.ipv4 k (r.data.drop k) := by
      rcases List.mem_append.mp hmem with hout | hin
      · have hframing := houter l hout
        simp [hkind, LayerKind.isFraming] at hframing
      · exact hin
    rw [Layers.start_of_ipv4 hinside hkind]
    exact ⟨_, hlayers, outer, k, rfl, rfl, houter⟩
  · exact absurd hkind (hnone l hmem)

end CaptureSieve
