import CaptureSieve.Proofs.Capture.Tails

/-!
Captures written by hand, in either format and either byte order: the bytes of their headers, records and blocks, and
what a reader finds in them.
-/

namespace CaptureSieve

namespace Pcap

def headerBytes (order : ByteOrder) (nanosecond : Bool) (snapLength : UInt32) (link : UInt16) : List UInt8 :=
  order.bytes32 (if nanosecond then 0xa1b23c4d else 0xa1b2c3d4) ++ (order.bytes16 2 ++ (order.bytes16 4 ++
    (order.bytes32 0 ++ (order.bytes32 0 ++ (order.bytes32 snapLength.toNat ++ order.bytes32 link.toNat)))))

def rowBytes (order : ByteOrder) (seconds fraction wireLength : UInt32) (data : List UInt8) : List UInt8 :=
  order.bytes32 seconds.toNat ++ (order.bytes32 fraction.toNat ++ (order.bytes32 data.length ++
    (order.bytes32 wireLength.toNat ++ data)))

variable (order : ByteOrder) (nanosecond : Bool) (snapLength : UInt32) (link : UInt16) (rest : List UInt8)

@[simp] lemma length_headerBytes : (headerBytes order nanosecond snapLength link).length = headerSize := by
  simp [headerBytes, headerSize]

@[simp] lemma length_rowBytes (seconds fraction wireLength : UInt32) (data : List UInt8) :
    (rowBytes order seconds fraction wireLength data).length = 16 + data.length := by
  simp only [rowBytes, List.length_append, ByteOrder.length_bytes32]
  omega

lemma take_headerBytes : (headerBytes order nanosecond snapLength link ++ rest).take 4 =
    order.bytes32 (if nanosecond then 0xa1b23c4d else 0xa1b2c3d4) := by
  rw [headerBytes, List.append_assoc]
  exact List.take_left' (order.length_bytes32 _)

lemma magic_headerBytes : Magic.ofWord?
    (ByteOrder.little.word32 (headerBytes order nanosecond snapLength link ++ rest) 0) =
      some ⟨order, nanosecond, false⟩ := by
  rw [← ByteOrder.little.word32_take (Nat.le_refl 4), take_headerBytes]
  cases order <;> cases nanosecond <;> decide

lemma ofBytes_headerBytes {available : Nat} (h : headerSize ≤ available) :
    FileHeader.ofBytes (headerBytes order nanosecond snapLength link ++ rest) available =
      .ok ⟨⟨order, nanosecond, false⟩, .ofNat link.toNat⟩ := by
  have hlink : order.word32 (headerBytes order nanosecond snapLength link ++ rest) 20 = link.toNat := by
    simp only [headerBytes, List.append_assoc, ByteOrder.word32_behind_bytes32, ByteOrder.word32_behind_bytes16]
    exact order.word32_bytes32 (Nat.lt_trans link.toNat_lt (by decide)) rest
  simp only [FileHeader.ofBytes, magic_headerBytes, FileHeader.fieldEnds_of_whole h, hlink]

lemma of_headerBytes : Opening.Of (headerBytes order nanosecond snapLength link ++ rest)
    ⟨Pcap.dialect, ⟨⟨order, nanosecond, false⟩, .ofNat link.toNat⟩, headerSize⟩ := by
  have hmagic : (headerBytes order nanosecond snapLength link ++ rest).take 4 ≠ Reader.pcapngMagic := by
    rw [take_headerBytes]
    cases order <;> cases nanosecond <;> decide
  have hlength : headerSize ≤ (headerBytes order nanosecond snapLength link ++ rest).length := by
    rw [List.length_append, length_headerBytes]
    exact Nat.le_add_right _ _
  exact .pcap hmagic (ofBytes_headerBytes order nanosecond snapLength link rest hlength)

variable (seconds fraction wireLength : UInt32) {data : List UInt8}

lemma settled_row (hlength : data.length < 0x1_0000_0000) {available : Nat} (ha : 16 + data.length ≤ available) :
    (FileHeader.frame ⟨⟨order, nanosecond, false⟩, .ofNat link.toNat⟩
        (rowBytes order seconds fraction wireLength data ++ rest) available).settled? =
      some (.ok (⟨.ofWords nanosecond seconds fraction, .ofNat link.toNat, wireLength, data⟩, 16 + data.length)) := by
  set bytes := rowBytes order seconds fraction wireLength data ++ rest with hbytes
  simp only [rowBytes, List.append_assoc] at hbytes
  have hseconds : order.word32 bytes 0 = seconds.toNat := by
    rw [hbytes, order.word32_bytes32 seconds.toNat_lt]
  have hfraction : order.word32 bytes 4 = fraction.toNat := by
    rw [hbytes, order.word32_behind_bytes32, order.word32_bytes32 fraction.toNat_lt]
  have hdata : order.word32 bytes 8 = data.length := by
    rw [hbytes, order.word32_behind_bytes32, order.word32_behind_bytes32, order.word32_bytes32 hlength]
  have hwire : order.word32 bytes 12 = wireLength.toNat := by
    rw [hbytes, order.word32_behind_bytes32, order.word32_behind_bytes32, order.word32_behind_bytes32,
      order.word32_bytes32 wireLength.toNat_lt]
  have hslice : (bytes.drop 16).take data.length = data := by
    simp only [hbytes, ByteOrder.drop_behind_bytes32, List.drop_zero, List.take_left]
  have hhead : ¬ available < 16 := by omega
  simp only [FileHeader.frame, Magic.recordHeaderSize, Bool.false_eq_true, if_false, hdata, hhead,
    Nat.not_lt.mpr ha, dite_false, Scan.settled?, FileHeader.record, hseconds, hfraction, hwire, hslice,
    UInt32.ofNat_toNat]

end Pcap

namespace Pcapng

variable (order : ByteOrder) (code : Nat) (content rest : List UInt8)

def blockBytes : List UInt8 :=
  order.bytes32 code ++ (order.bytes32 (content.length + 12) ++ (content ++ order.bytes32 (content.length + 12)))

@[simp] lemma length_blockBytes : (blockBytes order code content).length = content.length + 12 := by
  simp only [blockBytes, List.length_append, ByteOrder.length_bytes32]
  omega

variable {order code content}

lemma size_blockBytes (hsize : content.length + 12 < 0x1_0000_0000) :
    order.word32 (blockBytes order code content ++ rest) 4 = content.length + 12 := by
  simp only [blockBytes, List.append_assoc]
  rw [order.word32_behind_bytes32, order.word32_bytes32 hsize]

lemma missing_block (hleast : leastSize code ≤ content.length + 12) (hsize : content.length + 12 < 0x1_0000_0000)
    {available : Nat} (hhead : leastSize code ≤ available) (ha : available < content.length + 12) :
    blockFrame order code (blockBytes order code content ++ rest) available =
      .missing (if available < content.length + 8 then content.length + 8 - available
        else content.length + 12 - available) := by
  simp only [blockFrame, size_blockBytes rest hsize]
  rw [if_neg (Nat.not_lt.mpr hhead), dif_neg (Nat.not_lt.mpr hleast), dif_pos ha]
  exact (apply_ite Scan.missing ..).symm

lemma settled_block {b : Block} (hleast : leastSize code ≤ content.length + 12)
    (hsize : content.length + 12 < 0x1_0000_0000) (hbody : body order code content = .block b) {available : Nat}
    (ha : content.length + 12 ≤ available) :
    (blockFrame order code (blockBytes order code content ++ rest) available).settled? =
      some (.ok (b, content.length + 12)) := by
  set bytes := blockBytes order code content ++ rest with hbytes
  have hfirst : order.word32 bytes 4 = content.length + 12 := size_blockBytes rest hsize
  simp only [blockBytes, List.append_assoc] at hbytes
  have hlast : order.word32 bytes (content.length + 8) = content.length + 12 := by
    rw [hbytes, ← Nat.add_assoc content.length 4 4, order.word32_behind_bytes32, order.word32_behind_bytes32,
      order.word32_between hsize rfl]
  have hcontent : (bytes.drop 8).take content.length = content := by
    simp only [hbytes, ByteOrder.drop_behind_bytes32, List.drop_zero, List.take_left]
  have hrepeated : content.length + 12 - 4 = content.length + 8 := rfl
  simp only [blockFrame, hfirst, Nat.add_sub_cancel, hcontent, hbody, hrepeated, hlast]
  rw [if_neg (by omega), dif_neg (by omega), if_neg (by omega), dif_neg (by omega), if_neg (by simp)]
  rfl

lemma code_blockBytes (hcode : code < 0x1_0000_0000) : order.word32 (blockBytes order code content ++ rest) 0 = code := by
  rw [blockBytes, List.append_assoc, order.word32_bytes32 hcode]

lemma missing_frame {state : State} (hcode : code ≠ sectionCode) (hword : code < 0x1_0000_0000)
    (hleast : leastSize code ≤ content.length + 12) (hsize : content.length + 12 < 0x1_0000_0000)
    {available : Nat} (hhead : leastSize code ≤ available) (ha : available < content.length + 12) :
    state.frame (blockBytes state.order code content ++ rest) available =
      .missing (if available < content.length + 8 then content.length + 8 - available
        else content.length + 12 - available) := by
  have htwelve := twelve_le_leastSize code
  simp only [State.frame, code_blockBytes rest hword, if_neg hcode, if_neg (show ¬ available < 4 by omega)]
  exact missing_block rest hleast hsize hhead ha

lemma settled_frame {state : State} {b : Block} (hcode : code ≠ sectionCode) (hword : code < 0x1_0000_0000)
    (hleast : leastSize code ≤ content.length + 12) (hsize : content.length + 12 < 0x1_0000_0000)
    (hbody : body state.order code content = .block b) {available : Nat} (ha : content.length + 12 ≤ available) :
    (state.frame (blockBytes state.order code content ++ rest) available).settled? =
      some (.ok (b, content.length + 12)) := by
  simp only [State.frame, code_blockBytes rest hword, if_neg hcode, if_neg (show ¬ available < 4 by omega)]
  exact settled_block rest hleast hsize hbody ha

def sectionContent (order : ByteOrder) : List UInt8 :=
  order.bytes32 byteOrderMagic ++ (order.bytes16 1 ++ (order.bytes16 0 ++ List.replicate 8 0xff))

@[simp] lemma length_sectionContent (order : ByteOrder) : (sectionContent order).length = 16 := by
  simp [sectionContent]

def sectionBytes (order : ByteOrder) : List UInt8 := blockBytes order sectionCode (sectionContent order)

@[simp] lemma length_sectionBytes (order : ByteOrder) : (sectionBytes order).length = 28 := by
  simp [sectionBytes]

lemma take_sectionBytes (order : ByteOrder) (rest : List UInt8) :
    (sectionBytes order ++ rest).take 4 = Reader.pcapngMagic := by
  have hcode : order.bytes32 sectionCode = Reader.pcapngMagic := by
    cases order <;> decide
  rw [sectionBytes, blockBytes, List.append_assoc, hcode]
  exact List.take_left' rfl

lemma settled_section (state : State) (order : ByteOrder) (rest : List UInt8) {available : Nat} (ha : 28 ≤ available) :
    (state.frame (sectionBytes order ++ rest) available).settled? = some (.ok (.sectionHeader order, 28)) := by
  have hcode : state.order.word32 (sectionBytes order ++ rest) 0 = sectionCode :=
    code_of_magic (take_sectionBytes order rest) state.order
  have hmagic : ∀ o : ByteOrder, o.word32 (sectionBytes order ++ rest) 8 = o.word32 (order.bytes32 byteOrderMagic) 0 := by
    intro o
    simp only [sectionBytes, blockBytes, sectionContent, List.append_assoc, ByteOrder.word32_behind_bytes32]
    rw [← o.word32_take (Nat.le_refl 4), List.take_left' (order.length_bytes32 _)]
  have hlength := length_sectionContent order
  have hblock : (blockFrame order sectionCode (sectionBytes order ++ rest) available).settled? =
      some (.ok (.sectionHeader order, (sectionContent order).length + 12)) :=
    settled_block rest (by rw [hlength]; decide) (by rw [hlength]; decide) rfl (by rw [hlength]; exact ha)
  rw [hlength] at hblock
  simp only [State.frame, hcode, if_true, if_neg (show ¬ available < 4 by omega), sectionFrame, hmagic,
    if_neg (show ¬ available < 12 by omega)]
  cases order with
  | little =>
    rw [if_pos (by decide)]
    exact hblock
  | big =>
    rw [if_neg (by decide), if_pos (by decide)]
    exact hblock

lemma options_nil (order : ByteOrder) : options order [] = [] := by
  rw [options]
  rfl

lemma options_cons {order : ByteOrder} {code length : Nat} {value : List UInt8} (hcode : code < 65536)
    (hlength : length < 65536) (hvalue : value.length = padded length) (rest : List UInt8) :
    options order (order.bytes16 code ++ (order.bytes16 length ++ (value ++ rest))) =
      (code, value) :: options order rest := by
  have hhead : splitOff? 4 (order.bytes16 code ++ (order.bytes16 length ++ (value ++ rest))) =
      some (order.bytes16 code ++ order.bytes16 length, value ++ rest) :=
    splitOff?_eq_some_iff.mpr ⟨by simp, by simp only [List.append_assoc]⟩
  have hvalue' : splitOff? (padded length) (value ++ rest) = some (value, rest) :=
    splitOff?_eq_some_iff.mpr ⟨hvalue, rfl⟩
  have hwords : order.word16 (order.bytes16 code ++ order.bytes16 length) 0 = code ∧
      order.word16 (order.bytes16 code ++ order.bytes16 length) 2 = length := by
    have hlast := order.word16_bytes16 hlength []
    rw [List.append_nil] at hlast
    exact ⟨order.word16_bytes16 hcode _, (order.word16_behind_bytes16 order code 0 _).trans hlast⟩
  rw [options]
  split
  · next hnone => simp [hhead] at hnone
  · next head rest' hsome =>
    obtain ⟨rfl, rfl⟩ : _ ∧ _ := by simpa using hhead.symm.trans hsome
    rw [hwords.1]
    split
    · next hnone => simp [hwords.2, hvalue'] at hnone
    · next value' after hsome' =>
      rw [hwords.2] at hsome'
      obtain ⟨rfl, rfl⟩ : _ ∧ _ := by simpa using hvalue'.symm.trans hsome'
      rfl

def unitBytes (order : ByteOrder) : Option UInt8 → List UInt8
  | none => []
  | some unit => order.bytes16 9 ++ (order.bytes16 1 ++ ([unit, 0, 0, 0] ++ (order.bytes16 0 ++ (order.bytes16 0 ++ []))))

def interfaceContent (order : ByteOrder) (link : UInt16) (snapLength : UInt32) (unit? : Option UInt8) : List UInt8 :=
  order.bytes16 link.toNat ++ (order.bytes16 0 ++ (order.bytes32 snapLength.toNat ++ unitBytes order unit?))

lemma length_interfaceContent (order : ByteOrder) (link : UInt16) (snapLength : UInt32) (unit? : Option UInt8) :
    (interfaceContent order link snapLength unit?).length = if unit?.isSome then 20 else 8 := by
  cases unit? <;> simp [interfaceContent, unitBytes]

def unitOf : Option UInt8 → Nat
  | none => 1_000_000
  | some unit => Interface.resolution unit

lemma interfaceBody_interfaceContent (order : ByteOrder) (link : UInt16) (snapLength : UInt32) (unit? : Option UInt8) :
    interfaceBody order (interfaceContent order link snapLength unit?) =
      .block (.interface ⟨.ofNat link.toNat, unitOf unit?, 0⟩) := by
  have hlink : order.word16 (interfaceContent order link snapLength unit?) 0 = link.toNat :=
    order.word16_bytes16 link.toNat_lt _
  have hrest : (interfaceContent order link snapLength unit?).drop 8 = unitBytes order unit? := by
    rw [interfaceContent, ← List.append_assoc, ← List.append_assoc]
    exact List.drop_left' (by simp)
  rw [interfaceBody, hlink, hrest]
  cases unit? with
  | none => rw [unitBytes, options_nil]; rfl
  | some unit =>
    have hend : options order (order.bytes16 0 ++ (order.bytes16 0 ++ ([] ++ []))) = [(0, [])] := by
      rw [options_cons (by decide) (by decide) rfl, options_nil]
    rw [unitBytes, options_cons (by decide) (by decide) rfl]
    rw [List.nil_append] at hend
    rw [hend]
    rfl

def interfaceBytes (order : ByteOrder) (link : UInt16) (snapLength : UInt32) (unit? : Option UInt8) : List UInt8 :=
  blockBytes order interfaceCode (interfaceContent order link snapLength unit?)

def packetContent (order : ByteOrder) (interface : UInt32) (ticks : UInt64) (wireLength : UInt32) (data : List UInt8) :
    List UInt8 :=
  order.bytes32 interface.toNat ++ (order.bytes32 (ticks.toNat / 0x1_0000_0000) ++
    (order.bytes32 (ticks.toNat % 0x1_0000_0000) ++ (order.bytes32 data.length ++ (order.bytes32 wireLength.toNat ++
      (data ++ List.replicate (padded data.length - data.length) 0)))))

def packetBytes (order : ByteOrder) (interface : UInt32) (ticks : UInt64) (wireLength : UInt32) (data : List UInt8) :
    List UInt8 :=
  blockBytes order packetCode (packetContent order interface ticks wireLength data)

lemma le_padded (n : Nat) : n ≤ padded n := by
  simp only [padded]
  omega

lemma length_packetContent (order : ByteOrder) (interface : UInt32) (ticks : UInt64) (wireLength : UInt32)
    (data : List UInt8) : (packetContent order interface ticks wireLength data).length = 20 + padded data.length := by
  have := le_padded data.length
  simp only [packetContent, List.length_append, ByteOrder.length_bytes32, List.length_replicate]
  omega

lemma packetBody_packetContent (order : ByteOrder) (interface : UInt32) (ticks : UInt64) (wireLength : UInt32)
    {data : List UInt8} (hlength : data.length < maxLength) :
    packetBody order (packetContent order interface ticks wireLength data) =
      .block (.packet interface.toNat ticks wireLength data) := by
  have hhigh : ticks.toNat / 0x1_0000_0000 < 0x1_0000_0000 := by
    have := ticks.toNat_lt
    omega
  have hlow : ticks.toNat % 0x1_0000_0000 < 0x1_0000_0000 := Nat.mod_lt _ (by decide)
  have hwhole : ticks.toNat / 0x1_0000_0000 * 0x1_0000_0000 + ticks.toNat % 0x1_0000_0000 = ticks.toNat :=
    Nat.div_add_mod' _ _
  have hword : data.length < 0x1_0000_0000 := Nat.lt_trans hlength (by decide)
  have hpadding : data.length + (padded data.length - data.length) = padded data.length :=
    Nat.add_sub_cancel' (le_padded data.length)
  simp only [packetBody, packetContent, ByteOrder.word32_behind_bytes32, ByteOrder.drop_behind_bytes32, List.drop_zero,
    order.word32_bytes32 interface.toNat_lt, order.word32_bytes32 hhigh, order.word32_bytes32 hlow,
    order.word32_bytes32 hword, order.word32_bytes32 wireLength.toNat_lt, hwhole, List.take_left, List.length_append,
    List.length_replicate, hpadding, Nat.lt_irrefl, if_false, if_neg (Nat.not_le.mpr hlength), UInt32.ofNat_toNat,
    UInt64.ofNat_toNat]

lemma settled_interface (state : State) (link : UInt16) (snapLength : UInt32) (unit? : Option UInt8)
    (rest : List UInt8) {available : Nat}
    (ha : (interfaceBytes state.order link snapLength unit?).length ≤ available) :
    (state.frame (interfaceBytes state.order link snapLength unit? ++ rest) available).settled? =
      some (.ok (.interface ⟨.ofNat link.toNat, unitOf unit?, 0⟩,
        (interfaceBytes state.order link snapLength unit?).length)) := by
  have hlength := length_interfaceContent state.order link snapLength unit?
  rw [interfaceBytes, length_blockBytes] at ha ⊢
  apply settled_frame rest (by decide) (by decide) _ _ _ ha
  · rw [hlength]
    split <;> decide
  · rw [hlength]
    split <;> decide
  · exact interfaceBody_interfaceContent state.order link snapLength unit?

lemma settled_packet (state : State) (interface : UInt32) (ticks : UInt64) (wireLength : UInt32) {data : List UInt8}
    (hlength : data.length ≤ bufferSize) (rest : List UInt8) {available : Nat}
    (ha : (packetBytes state.order interface ticks wireLength data).length ≤ available) :
    (state.frame (packetBytes state.order interface ticks wireLength data ++ rest) available).settled? =
      some (.ok (.packet interface.toNat ticks wireLength data,
        (packetBytes state.order interface ticks wireLength data).length)) := by
  have hcontent := length_packetContent state.order interface ticks wireLength data
  have hpadded : padded data.length < 0xffff_0000 := by
    simp only [padded, bufferSize] at hlength ⊢
    omega
  rw [packetBytes, length_blockBytes] at ha ⊢
  apply settled_frame rest (by decide) (by decide) _ _ _ ha
  · rw [hcontent]
    exact Nat.add_le_add_right (Nat.le_add_right _ _) 12
  · omega
  · exact packetBody_packetContent state.order interface ticks wireLength (Nat.lt_of_le_of_lt hlength (by decide))

lemma parses_nil (state : State) : Pcapng.dialect.Parses state [] [] :=
  .last (show state.frame [] 0 = .missing 4 from rfl) (by decide)

lemma of_sectionBytes (order : ByteOrder) (rest : List UInt8) :
    Opening.Of (sectionBytes order ++ rest) ⟨Pcapng.dialect, ⟨order, []⟩, 28⟩ := by
  have hlength : 28 ≤ (sectionBytes order ++ rest).length := by
    rw [List.length_append, length_sectionBytes]
    exact Nat.le_add_right _ _
  exact .pcapng (take_sectionBytes order rest) (settled_section .start order rest hlength)

end Pcapng

end CaptureSieve
