import CaptureSieve.Proofs.Packet.Integrity
import CaptureSieve.Proofs.Packet.Nesting

/-!
No access to the bytes of a packet is out of bounds. The packet is read a second time with every slice checked, and with
nothing to say where the layers rule out a case; both readings are the same.
-/

namespace CaptureSieve

namespace Layer

def slice? (first last : Nat) (data : List UInt8) : Option (List UInt8) :=
  if first ≤ last ∧ last ≤ data.length then some (slice first last data) else none

variable {first last : Nat} {data bytes : List UInt8}

lemma slice?_of_le (hfirst : first ≤ last) (hlast : last ≤ data.length) :
    slice? first last data = some (slice first last data) :=
  if_pos ⟨hfirst, hlast⟩

lemma slice?_eq_some (h : slice? first last data = some bytes) :
    first ≤ last ∧ last ≤ data.length ∧ bytes = slice first last data := by
  rw [slice?] at h
  split at h
  · next hbounds => exact ⟨hbounds.1, hbounds.2, (Option.some.inj h).symm⟩
  · simp at h

lemma slice?_eq_none (h : slice? first last data = none) (hfirst : first ≤ last) : data.length < last := by
  by_contra hlast
  rw [slice?_of_le hfirst (Nat.not_lt.mp hlast)] at h
  simp at h

lemma slice_eq_drop (first : Nat) (data : List UInt8) : slice first data.length data = data.drop first := by
  rw [slice, ← List.length_drop, List.take_length]

lemma slice?_rest (first : Nat) (data : List UInt8) :
    slice? (min first data.length) data.length data = some (data.drop first) := by
  rw [slice?_of_le (Nat.min_le_right _ _) (Nat.le_refl _), slice_eq_drop]
  rcases Nat.le_total first data.length with hinside | hbehind
  · rw [Nat.min_eq_left hinside]
  · rw [Nat.min_eq_right hbehind, List.drop_length, List.drop_of_length_le hbehind]

lemma byteAt_slice {i : Nat} (hi : first + i < last) : byteAt (slice first last data) i = byteAt data (first + i) := by
  simp only [byteAt, List.getD_eq_getElem?_getD, slice]
  rw [List.getElem?_take_of_lt (by omega), List.getElem?_drop]

lemma word16_slice (order : ByteOrder) {i : Nat} (hi : first + i + 1 < last) :
    order.word16 (slice first last data) i = order.word16 data (first + i) := by
  rw [ByteOrder.word16, ByteOrder.word16, byteAt_slice (by omega), byteAt_slice (by omega), Nat.add_assoc]

lemma word32_slice (order : ByteOrder) {i : Nat} (hi : first + i + 3 < last) :
    order.word32 (slice first last data) i = order.word32 data (first + i) := by
  rw [ByteOrder.word32, ByteOrder.word32, word16_slice order (by omega), word16_slice order (by omega), Nat.add_assoc]

end Layer

/-! The checked reading, where `none` is an access out of bounds or a case that does not arise. -/
namespace Checked

section Layers

variable (data : List UInt8)

def transport (protocol : UInt8) (start stop : Nat) : Option (List Layer) := do
  let segment ← Layer.slice? start stop data
  return Layers.transport protocol start stop segment

def ipv4 (start : Nat) : Option (List Layer) := do
  let rest ← Layer.slice? (min start data.length) data.length data
  match Ipv4Header.ofBytes? rest with
  | none => return []
  | some h =>
    if h.totalLength < h.size then return []
    else
      let stop := start + min h.totalLength rest.length
      let flags ← Layer.slice? 6 8 h.bytes
      let inner ←
        if ByteOrder.big.word16 flags 0 % 0x4000 != 0 then some []
        else transport data h.protocol (start + h.size) stop
      return ⟨.ipv4, start, h.size, stop⟩ :: inner

def ipv6 (start : Nat) : Option (List Layer) := do
  let rest ← Layer.slice? (min start data.length) data.length data
  match Ipv6Header.ofBytes? rest with
  | none => return []
  | some h =>
    let stop := if h.payloadLength = 0 then data.length else start + min (40 + h.payloadLength) rest.length
    let inner ← transport data h.nextHeader (start + 40) stop
    return ⟨.ipv6, start, 40, stop⟩ :: inner

def family (start code : Nat) : Option (List Layer) :=
  if code = 2 then ipv4 data start
  else if code = 24 ∨ code = 28 ∨ code = 30 then ipv6 data start
  else some []

def loopback (familyOf : List UInt8 → Nat) : Option (Except PacketError (List Layer)) :=
  match Layer.slice? 0 4 data with
  | none => some (.error (.malformed (.shortLoopback data.length)))
  | some header => do
    let inner ← family data 4 (familyOf header)
    return .ok (⟨.loopback, 0, 4, data.length⟩ :: inner)

def pppoe (start : Nat) : Option (List Layer) :=
  match Layer.slice? start (start + 8) data with
  | none => some []
  | some header => do
    let protocol ← Layer.slice? 6 8 header
    let inner ←
      if ByteOrder.big.word16 protocol 0 = 0x0021 then ipv4 data (start + 8)
      else if ByteOrder.big.word16 protocol 0 = 0x0057 then ipv6 data (start + 8)
      else some []
    return ⟨.pppoe, start, 8, data.length⟩ :: inner

def tagged (start etherType : Nat) : Option (List Layer) :=
  if etherType = 0x8100 ∨ etherType = 0x88a8 ∨ etherType = 0x9100 then
    match hslice : Layer.slice? start data.length data with
    | none => none
    | some rest =>
      if hlength : rest.length < 4 then some []
      else do
        let inner ← tagged (start + 4) (ByteOrder.big.word16 rest 2)
        return ⟨.vlan, start, 4, data.length⟩ :: inner
  else if etherType = 0x0800 then ipv4 data start
  else if etherType = 0x86dd then ipv6 data start
  else if etherType = 0x8864 then pppoe data start
  else some []
termination_by data.length - start
decreasing_by
  obtain ⟨-, -, rfl⟩ := Layer.slice?_eq_some hslice
  rw [Layer.length_slice] at hlength
  omega

def ethernet : Option (Except PacketError (List Layer)) :=
  if data.length < 14 then some (.error (.malformed (.shortEthernet data.length)))
  else do
    let inner ← tagged data 14 (ByteOrder.big.word16 data 12)
    return .ok (⟨.ethernet, 0, 14, data.length⟩ :: inner)

def rawIp : Option (Except PacketError (List Layer)) :=
  match data with
  | [] => some (.error (.malformed .emptyRaw))
  | first :: _ =>
    let version := first.toNat / 16
    if version = 4 then (ipv4 data 0).map .ok
    else if version = 6 then (ipv6 data 0).map .ok
    else some (.error (.malformed (.rawVersion version)))

def decode (link : LinkType) : Option (Except PacketError (List Layer)) :=
  if link = .null then loopback data Layers.hostFamily
  else if link = .loop then loopback data (ByteOrder.big.word32 · 0)
  else if link = .ethernet then ethernet data
  else if link = .raw then rawIp data
  else some (.error (.unsupportedLink link))

end Layers

section Record

variable (r : Record)

def layer (kind : LayerKind) : Option (Except PacketError Layer) := do
  let layers ← decode r.data r.link
  return layers.bind (Layers.find kind)

def layerBytes (kind : LayerKind) : Option (Except PacketError (List UInt8)) := do
  match ← layer r kind with
  | .error e => return .error e
  | .ok l =>
    let bytes ← Layer.slice? l.start l.stop r.data
    return .ok bytes

def udpPayload : Option (Except PacketError (List UInt8)) := do
  match ← layer r .udp with
  | .error e => return .error e
  | .ok l =>
    let bytes ← Layer.slice? l.payloadStart l.stop r.data
    return .ok bytes

def header {α : Type} (kind : LayerKind) (ofBytes? : List UInt8 → Option α) : Option (Except PacketError α) := do
  let bytes ← layerBytes r kind
  return bytes.bind (Layers.header kind ofBytes?)

def ofSegment (ip : Ipv4Header) (scope : ChecksumScope) (segment : List UInt8) :
    Option (Except PacketError Verification) :=
  if 65536 ≤ segment.length then none else some (Verification.ofSegment ip scope segment)

def verifySegment (ip : Ipv4Header) (kind : LayerKind) (scope : ChecksumScope) :
    Option (Except PacketError Verification) := do
  match ← layerBytes r kind with
  | .error _ => return .ok (.unverifiable .noTransport)
  | .ok segment =>
    if scope = .udp then
      match ← header r .udp UdpHeader.ofBytes? with
      | .error _ => none
      | .ok h =>
        if h.checksum = 0 then return .ok (.unverifiable .udpChecksumAbsent)
        else ofSegment ip scope segment
    else ofSegment ip scope segment

def verify (transport : Bool) : Option (Except PacketError Verification) := do
  match ← header r .ipv4 Ipv4Header.ofBytes? with
  | .error e => return .error e
  | .ok ip =>
    if Checksum.internet [ip.bytes] ≠ 0 then return .error (.checksumMismatch .ipv4Header)
    else if !transport then return .ok .headerOnly
    else
      match ← layer r .ipv4 with
      | .error _ => none
      | .ok l =>
        if r.data.length - l.start < ip.totalLength then return .ok (.unverifiable .truncated)
        else
          match Verification.scope? ip.protocol with
          | none => return .ok (.unverifiable .noTransport)
          | some (kind, scope) => verifySegment r ip kind scope

end Record

section Layers

variable {data : List UInt8} {start stop : Nat}

lemma transport_eq (protocol : UInt8) (hstart : start ≤ stop) (hstop : stop ≤ data.length) :
    transport data protocol start stop = some (Layers.transport protocol start stop (Layer.slice start stop data)) := by
  rw [transport, Layer.slice?_of_le hstart hstop]
  rfl

lemma ipv4_eq (start : Nat) : ipv4 data start = some (Layers.ipv4 start (data.drop start)) := by
  rw [ipv4, Layer.slice?_rest, Layers.ipv4]
  simp only [Option.bind_eq_bind, Option.bind_some, Option.pure_def]
  cases hh : Ipv4Header.ofBytes? (data.drop start) with
  | none => rfl
  | some h =>
    obtain ⟨-, hleast, -, hrest, -⟩ := Ipv4Header.ofBytes?_eq_some hh
    have hflags : Layer.slice? 6 8 h.bytes = some (Layer.slice 6 8 h.bytes) :=
      Layer.slice?_of_le (by decide) (Nat.le_trans (by decide) hleast)
    have hfragment : (ByteOrder.big.word16 (Layer.slice 6 8 h.bytes) 0 % 0x4000 != 0) = h.isFragment := by
      rw [Layer.word16_slice _ (by decide)]
      rfl
    dsimp only
    split
    · rfl
    · next hsize =>
      simp only [hflags, Option.bind_some, hfragment, List.length_take]
      split
      · rfl
      · rw [List.length_drop] at hrest ⊢
        rw [transport_eq _ (by omega) (by omega), Layers.drop_take_eq_slice, List.length_take, List.length_drop]
        rfl

lemma ipv6_eq (start : Nat) : ipv6 data start = some (Layers.ipv6 start (data.drop start)) := by
  rw [ipv6, Layer.slice?_rest, Layers.ipv6]
  simp only [Option.bind_eq_bind, Option.bind_some, Option.pure_def]
  cases hh : Ipv6Header.ofBytes? (data.drop start) with
  | none => rfl
  | some h =>
    have hrest := (Ipv6Header.ofBytes?_eq_some hh).1
    rw [List.length_drop] at hrest
    dsimp only
    split
    · rw [transport_eq _ (by omega) (Nat.le_refl _), List.length_drop, List.drop_drop, Layer.slice_eq_drop,
        Nat.add_sub_cancel' (by omega)]
      rfl
    · rw [List.length_drop, transport_eq _ (by omega) (by omega), Layers.drop_take_eq_slice, List.length_take,
        List.length_drop]
      rfl

lemma family_eq (start code : Nat) : family data start code = some (Layers.family start code (data.drop start)) := by
  rw [family, Layers.family]
  split
  · exact ipv4_eq start
  · split
    · exact ipv6_eq start
    · rfl

lemma loopback_eq {familyOf : List UInt8 → Nat} (hfamily : familyOf (Layer.slice 0 4 data) = familyOf data) :
    loopback data familyOf = some (Layers.loopback familyOf data) := by
  rw [loopback, Layers.loopback]
  cases hslice : Layer.slice? 0 4 data with
  | none =>
    rw [if_pos (Layer.slice?_eq_none hslice (Nat.zero_le _))]
  | some header =>
    obtain ⟨-, hlength, rfl⟩ := Layer.slice?_eq_some hslice
    rw [if_neg (Nat.not_lt.mpr hlength)]
    simp only [family_eq, hfamily]
    rfl

lemma pppoe_eq (hstart : start ≤ data.length) : pppoe data start = some (Layers.pppoe start (data.drop start)) := by
  rw [pppoe, Layers.pppoe, List.length_drop, List.drop_drop]
  cases hslice : Layer.slice? start (start + 8) data with
  | none =>
    have hshort := Layer.slice?_eq_none hslice (Nat.le_add_right _ _)
    rw [if_pos (by omega)]
  | some header =>
    obtain ⟨-, hlength, rfl⟩ := Layer.slice?_eq_some hslice
    have hprotocol : Layer.slice? 6 8 (Layer.slice start (start + 8) data) =
        some (Layer.slice 6 8 (Layer.slice start (start + 8) data)) := by
      refine Layer.slice?_of_le (by decide) ?_
      rw [Layer.length_slice]
      omega
    have hword : ByteOrder.big.word16 (Layer.slice 6 8 (Layer.slice start (start + 8) data)) 0 =
        ByteOrder.big.word16 (data.drop start) 6 := by
      rw [Layer.word16_slice _ (by decide), Layer.word16_slice _ (by omega), ← Layer.slice_eq_drop,
        Layer.word16_slice _ (by omega)]
    rw [if_neg (by omega), Nat.add_sub_cancel' hstart]
    simp only [hprotocol, hword, Option.bind_eq_bind, Option.bind_some, Option.pure_def]
    split
    · rw [ipv4_eq]
      rfl
    · split
      · rw [ipv6_eq]
        rfl
      · rfl

lemma tagged_of_tag {etherType : Nat} (htag : etherType = 0x8100 ∨ etherType = 0x88a8 ∨ etherType = 0x9100)
    (hstart : start ≤ data.length) :
    tagged data start etherType =
      if (data.drop start).length < 4 then some []
      else (tagged data (start + 4) (ByteOrder.big.word16 (data.drop start) 2)).map
        (⟨.vlan, start, 4, data.length⟩ :: ·) := by
  have hslice : Layer.slice? start data.length data = some (data.drop start) := by
    rw [Layer.slice?_of_le hstart (Nat.le_refl _), Layer.slice_eq_drop]
  rw [tagged, if_pos htag]
  split
  · next hnone => simp [hslice] at hnone
  · next rest hsome =>
    obtain rfl := Option.some.inj (hslice.symm.trans hsome)
    simp only [dite_eq_ite, Option.map_eq_bind]
    rfl

lemma tagged_eq {etherType : Nat} {rest : List UInt8} (hrest : data.drop start = rest) (hstart : start ≤ data.length) :
    tagged data start etherType = some (Layers.tagged data.length start etherType rest) := by
  fun_induction Layers.tagged data.length start etherType rest with
  | case1 start etherType htag first second high low inner ih =>
    obtain ⟨hinner, hlength⟩ := Layers.behind_tag hrest
    have hlong : ¬ (first :: second :: high :: low :: inner).length < 4 := by simp
    have hdeeper := ih hinner hlength
    rw [tagged_of_tag htag hstart, hrest, if_neg hlong]
    exact congrArg _ hdeeper
  | case2 rest start etherType htag hfour =>
    have hshort : rest.length < 4 := by
      rcases rest with _ | ⟨first, _ | ⟨second, _ | ⟨high, _ | ⟨low, inner⟩⟩⟩⟩
      case cons.cons.cons.cons => exact absurd rfl (hfour first second high low inner)
      all_goals simp
    rw [tagged_of_tag htag hstart, hrest, if_pos hshort]
  | case3 rest start =>
    rw [tagged, ← hrest]
    exact ipv4_eq start
  | case4 rest start =>
    rw [tagged, ← hrest]
    exact ipv6_eq start
  | case5 rest start =>
    rw [tagged, ← hrest]
    exact pppoe_eq hstart
  | case6 rest start etherType htag hipv4 hipv6 hpppoe =>
    rw [tagged, if_neg htag, if_neg hipv4, if_neg hipv6, if_neg hpppoe]

lemma ethernet_eq : ethernet data = some (Layers.ethernet data) := by
  rw [ethernet, Layers.ethernet]
  split
  · rfl
  · next hlength =>
    rw [tagged_eq rfl (Nat.not_lt.mp hlength)]
    rfl

lemma rawIp_eq : rawIp data = some (Layers.rawIp data) := by
  unfold rawIp Layers.rawIp
  split
  · rfl
  · dsimp only
    split
    · rw [ipv4_eq]
      rfl
    · split
      · rw [ipv6_eq]
        rfl
      · rfl

lemma decode_eq (link : LinkType) (data : List UInt8) : decode data link = some (Layers.decode link data) := by
  rw [decode, Layers.decode]
  split
  · exact loopback_eq (by simp [Layers.hostFamily, Layer.word32_slice])
  · split
    · exact loopback_eq (Layer.word32_slice _ (by decide))
    · split
      · exact ethernet_eq
      · split
        · exact rawIp_eq
        · rfl

end Layers

end Checked

namespace Record

variable {r : Record} {l : Layer} {kind : LayerKind}

lemma fits_of_layer (hl : r.layer kind = .ok l) : l.Fits r.data ∧ l.kind = kind := by
  obtain ⟨layers, hlayers, hmem, hkind⟩ := mem_of_layer hl
  exact ⟨(Layers.stacked_decode hlayers).fits l hmem, hkind⟩

lemma header_of_layer {α : Type} {ofBytes? : List UInt8 → Option α} (hl : r.layer kind = .ok l)
    (hdecodes : (ofBytes? (l.bytes r.data)).isSome) : ∃ h, r.header kind ofBytes? = .ok h := by
  obtain ⟨h, hh⟩ := Option.isSome_iff_exists.mp hdecodes
  refine ⟨h, ?_⟩
  rw [header, layerBytes, hl]
  simp only [Except.map, Except.bind, Layers.header, hh]

lemma tcp_of_layer (hl : r.layer .tcp = .ok l) : ∃ t, r.tcp = .ok t := by
  obtain ⟨hfits, hkind⟩ := fits_of_layer hl
  have hdecodes := hfits.decodes
  rw [Layer.Decodes, hkind] at hdecodes
  exact header_of_layer hl hdecodes

lemma udp_of_layer (hl : r.layer .udp = .ok l) : ∃ u, r.udp = .ok u := by
  obtain ⟨hfits, hkind⟩ := fits_of_layer hl
  have hdecodes := hfits.decodes
  rw [Layer.Decodes, hkind] at hdecodes
  exact header_of_layer hl hdecodes

lemma layer_of_layerBytes {bytes : List UInt8} (hb : r.layerBytes kind = .ok bytes) :
    ∃ l, r.layer kind = .ok l ∧ bytes = l.bytes r.data := by
  rw [layerBytes] at hb
  cases hl : r.layer kind with
  | error e => simp [hl, Except.map] at hb
  | ok l =>
    rw [hl] at hb
    exact ⟨l, rfl, (Except.ok.inj hb).symm⟩

lemma layer_of_ipv4 {ip : Ipv4Header} (hip : r.ipv4 = .ok ip) : ∃ l, r.layer .ipv4 = .ok l := by
  cases hl : r.layer .ipv4 with
  | error e => simp [ipv4_of_no_layer hl] at hip
  | ok l => exact ⟨l, rfl⟩

lemma length_lt_of_layerBytes {ip : Ipv4Header} (hip : r.ipv4 = .ok ip) (hk : kind.isFraming = false)
    {bytes : List UInt8} (hb : r.layerBytes kind = .ok bytes) : bytes.length < 65536 := by
  obtain ⟨l, hl⟩ := layer_of_ipv4 hip
  rw [layerBytes_of_encloses (encloses_of_layer hl) hk] at hb
  cases hfound : Layers.find kind (Layers.ipv4 0 (r.data.drop l.start)) with
  | error e => simp [hfound, Except.map] at hb
  | ok m =>
    rw [hfound] at hb
    obtain rfl := Except.ok.inj hb
    obtain ⟨h, -, hstop⟩ := Layers.stop_of_ipv4 (Layers.find_eq_ok hfound).1
    have htotal := h.totalLength_lt
    have hlength := List.length_take_le (m.stop - m.start) ((r.data.drop l.start).drop m.start)
    simp only [Layer.bytes, Layer.slice]
    omega

end Record

namespace Checked

variable {r : Record}

lemma layer_eq (kind : LayerKind) : layer r kind = some (r.layer kind) := by
  rw [layer, decode_eq]
  rfl

lemma layerBytes_eq (kind : LayerKind) : layerBytes r kind = some (r.layerBytes kind) := by
  rw [layerBytes, layer_eq, Record.layerBytes]
  cases hl : r.layer kind with
  | error e => rfl
  | ok l =>
    have hfits := (Record.fits_of_layer hl).1
    have hordered : l.start ≤ l.stop := Nat.le_trans (Nat.le_add_right _ _) hfits.header
    simp [Layer.slice?_of_le hordered hfits.stop, Layer.bytes, Except.map]

lemma udpPayload_eq : udpPayload r = some r.udpPayload := by
  rw [udpPayload, layer_eq, Record.udpPayload]
  cases hl : r.layer .udp with
  | error e => rfl
  | ok l =>
    have hfits := (Record.fits_of_layer hl).1
    simp [Layer.slice?_of_le hfits.header hfits.stop, Layer.payload, Except.map]

lemma header_eq {α : Type} (kind : LayerKind) (ofBytes? : List UInt8 → Option α) :
    header r kind ofBytes? = some (r.header kind ofBytes?) := by
  rw [header, layerBytes_eq]
  rfl

lemma verifySegment_eq {ip : Ipv4Header} {kind : LayerKind} {scope : ChecksumScope} (hip : r.ipv4 = .ok ip)
    (hscope : Verification.scope? ip.protocol = some (kind, scope)) :
    verifySegment r ip kind scope = some (r.verifySegment ip kind scope) := by
  rw [verifySegment, layerBytes_eq, Record.verifySegment]
  cases hb : r.layerBytes kind with
  | error e => rfl
  | ok segment =>
    have hshort := Record.length_lt_of_layerBytes hip (Record.SameDatagram.isFraming_of_scope hscope) hb
    have hsegment : ofSegment ip scope segment = some (Verification.ofSegment ip scope segment) :=
      if_neg (Nat.not_le.mpr hshort)
    simp only [Option.bind_eq_bind, Option.bind_some, Option.pure_def]
    rcases Verification.scope_cases hscope with ⟨rfl, rfl⟩ | ⟨rfl, rfl⟩
    · exact hsegment
    · obtain ⟨l, hl, -⟩ := Record.layer_of_layerBytes hb
      obtain ⟨u, hu⟩ := Record.udp_of_layer hl
      rw [header_eq, ← Record.udp, hu]
      simp only [Option.bind_some, hsegment, if_true]
      split <;> rfl

lemma verify_eq (transport : Bool) : verify r transport = some (r.verify transport) := by
  rw [verify, header_eq, Record.verify, Record.ipv4]
  cases hip : r.header .ipv4 Ipv4Header.ofBytes? with
  | error e => rfl
  | ok ip =>
    obtain ⟨l, hl⟩ := Record.layer_of_ipv4 hip
    simp only [Option.bind_eq_bind, Option.bind_some, Option.pure_def, layer_eq, hl]
    split
    · rfl
    · split
      · rfl
      · split
        · rfl
        · cases hscope : Verification.scope? ip.protocol with
          | none => rfl
          | some found => exact verifySegment_eq hip hscope

end Checked

namespace Record

variable {r : Record}

lemma error_of_verify {transport : Bool} {e : PacketError} (hv : r.verify transport = .error e) :
    r.layer .ipv4 = .error e ∨ ∃ scope, e = .checksumMismatch scope := by
  cases hl : r.layer .ipv4 with
  | error e' =>
    rw [verify_of_no_layer hl] at hv
    exact .inl (congrArg _ (Except.error.inj hv))
  | ok l =>
    right
    obtain ⟨h, hd⟩ := datagram_of_layer hl
    by_cases hsum : h.headerSum = 0
    · cases transport with
      | false => simp [verify_false hl hd, hsum] at hv
      | true =>
        rw [verify_true hl hd hsum] at hv
        have hnone : ¬ ∃ v, h.finding (r.data.drop l.start) = .ok v := by simp [hv]
        rcases Ipv4Header.finding_mismatch_iff.mpr hnone with htcp | hudp
        · exact ⟨.tcp, Except.error.inj (hv.symm.trans htcp)⟩
        · exact ⟨.udp, Except.error.inj (hv.symm.trans hudp)⟩
    · rw [verify_of_headerSum hl hd hsum] at hv
      exact ⟨.ipv4Header, (Except.error.inj hv).symm⟩

lemma datagram_of_accept {transport unverified : Bool} (h : r.classify transport = .accept unverified) :
    ∃ bytes, r.datagram = .ok bytes := by
  obtain ⟨l, ip, hl, hd, -⟩ := ipv4_of_accept h
  exact ⟨_, (ipv4_of_layer hl hd).2⟩

structure Contained (r : Record) : Prop where
  nested : ∀ layers, r.layers = .ok layers → Layers.Nested r.data layers
  layers : Checked.decode r.data r.link = some r.layers
  layerBytes : ∀ kind, Checked.layerBytes r kind = some (r.layerBytes kind)
  udpPayload : Checked.udpPayload r = some r.udpPayload
  verify : ∀ transport, Checked.verify r transport = some (r.verify transport)
  ipv4 : ∀ l, r.layer .ipv4 = .ok l → ∃ h, r.ipv4 = .ok h
  tcp : ∀ l, r.layer .tcp = .ok l → ∃ h, r.tcp = .ok h
  udp : ∀ l, r.layer .udp = .ok l → ∃ h, r.udp = .ok h
  error : ∀ transport e, r.verify transport = .error e →
    r.layer .ipv4 = .error e ∨ ∃ scope, e = .checksumMismatch scope
  accepted : ∀ transport unverified, r.classify transport = .accept unverified → ∃ bytes, r.datagram = .ok bytes

theorem contained (r : Record) : r.Contained where
  nested _ hlayers := Layers.nested_of_stacked (Layers.stacked_decode hlayers)
  layers := Checked.decode_eq r.link r.data
  layerBytes := Checked.layerBytes_eq
  udpPayload := Checked.udpPayload_eq
  verify := Checked.verify_eq
  ipv4 _ hl := by
    obtain ⟨h, hd⟩ := datagram_of_layer hl
    exact ⟨h, (ipv4_of_layer hl hd).1⟩
  tcp _ := tcp_of_layer
  udp _ := udp_of_layer
  error _ _ := error_of_verify
  accepted _ _ := datagram_of_accept

-- A tagged frame with a datagram whose header gives no length, so that it takes all there is.
def lengthless : Record where
  time := .epoch
  link := .ethernet
  wireLength := 78
  data := List.replicate 12 2 ++ [0x81, 0, 0, 7, 0x86, 0xdd] ++ [0x60, 0, 0, 0, 0, 0, 6, 64] ++ List.replicate 32 1 ++
    [3, 0xe8, 0, 80, 0, 0, 0, 1, 0, 0, 0, 2, 0x50, 0x10, 0, 1, 0, 0, 0, 0]

theorem contained_lengthless :
    Layers.Nested lengthless.data
        [⟨.ethernet, 0, 14, 78⟩, ⟨.vlan, 14, 4, 78⟩, ⟨.ipv6, 18, 40, 78⟩, ⟨.tcp, 58, 20, 78⟩] ∧
      ∃ h, lengthless.tcp = .ok h :=
  ⟨(contained lengthless).nested _ (by decide), (contained lengthless).tcp ⟨.tcp, 58, 20, 78⟩ (by decide)⟩

end Record

end CaptureSieve
