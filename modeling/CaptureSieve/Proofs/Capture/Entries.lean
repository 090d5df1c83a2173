import CaptureSieve.Proofs.ByteOrder
import CaptureSieve.Proofs.Capture.Outlook
import CaptureSieve.Proofs.Writing.Contents

/-!
Reading back the records of a written capture, through a buffer that a large record may not fit.
-/

namespace CaptureSieve

section RecordHeader

variable {seconds micros length : Nat} {wireLength : UInt32} (rest : List UInt8)

lemma seconds_recordHeader (h : seconds < 0x1_0000_0000) :
    ByteOrder.little.word32 (recordHeader seconds micros length wireLength ++ rest) 0 = seconds := by
  simp only [recordHeader, List.append_assoc]
  exact ByteOrder.little.word32_bytes32 h _

lemma micros_recordHeader (h : micros < 0x1_0000_0000) :
    ByteOrder.little.word32 (recordHeader seconds micros length wireLength ++ rest) 4 = micros := by
  simp only [recordHeader, List.append_assoc, ByteOrder.word32_behind_bytes32]
  exact ByteOrder.little.word32_bytes32 h _

lemma captured_recordHeader (h : length < 0x1_0000_0000) :
    ByteOrder.little.word32 (recordHeader seconds micros length wireLength ++ rest) 8 = length := by
  simp only [recordHeader, List.append_assoc, ByteOrder.word32_behind_bytes32]
  exact ByteOrder.little.word32_bytes32 h _

lemma wireLength_recordHeader :
    ByteOrder.little.word32 (recordHeader seconds micros length wireLength ++ rest) 12 = wireLength.toNat := by
  simp only [recordHeader, List.append_assoc, ByteOrder.word32_behind_bytes32]
  exact ByteOrder.little.word32_bytes32 wireLength.toNat_lt _

end RecordHeader

namespace Entry

def size (e : Entry) : Nat := 16 + e.data.length

@[simp] lemma length_bytes (e : Entry) : e.bytes.length = e.size := by simp [bytes, size]

structure Fits (e : Entry) : Prop where
  length : e.data.length < 0x1_0000_0000
  time : e.time.micros < 0x1_0000_0000 * 1_000_000

def record (link : LinkType) (e : Entry) : Record where
  time := .ofWords false (UInt32.ofNat (e.time.micros / 1_000_000)) (UInt32.ofNat (e.time.micros % 1_000_000))
  link := link
  wireLength := e.wireLength
  data := e.data

lemma seconds_lt {e : Entry} (h : e.Fits) : e.time.micros / 1_000_000 < 4294967296 :=
  Nat.div_lt_of_lt_mul (by rw [Nat.mul_comm]; exact h.time)

lemma micros_lt (e : Entry) : e.time.micros % 1_000_000 < 4294967296 :=
  Nat.lt_trans (Nat.mod_lt _ (by decide)) (by decide)

lemma nanos_record {e : Entry} (h : e.Fits) (link : LinkType) :
    (e.record link).time.nanos = e.time.micros * 1000 := by
  have hseconds : (UInt32.ofNat (e.time.micros / 1_000_000)).toNat = e.time.micros / 1_000_000 :=
    UInt32.toNat_ofNat_of_lt' (seconds_lt h)
  have hmicros : (UInt32.ofNat (e.time.micros % 1_000_000)).toNat = e.time.micros % 1_000_000 :=
    UInt32.toNat_ofNat_of_lt' (micros_lt e)
  simp only [record, Instant.ofWords, hseconds, hmicros, Bool.false_eq_true, if_false]
  omega

lemma micros_epoch : Instant.epoch.micros < 0x1_0000_0000 * 1_000_000 := by decide

lemma record_epoch (link : LinkType) (wireLength : UInt32) (data : List UInt8) :
    record link ⟨.epoch, wireLength, data⟩ = ⟨.epoch, link, wireLength, data⟩ := by
  have htime : Instant.ofWords false (UInt32.ofNat (Instant.epoch.micros / 1_000_000))
    (UInt32.ofNat (Instant.epoch.micros % 1_000_000)) = .epoch := by decide
  rw [record, htime]

variable {e : Entry}

lemma word_seconds (h : e.Fits) (rest : List UInt8) :
    ByteOrder.little.word32 (e.bytes ++ rest) 0 = e.time.micros / 1_000_000 := by
  rw [bytes, List.append_assoc, seconds_recordHeader _ (seconds_lt h)]

lemma word_micros (rest : List UInt8) :
    ByteOrder.little.word32 (e.bytes ++ rest) 4 = e.time.micros % 1_000_000 := by
  rw [bytes, List.append_assoc, micros_recordHeader _ (micros_lt e)]

lemma word_length (h : e.Fits) (rest : List UInt8) :
    ByteOrder.little.word32 (e.bytes ++ rest) 8 = e.data.length := by
  rw [bytes, List.append_assoc, captured_recordHeader _ h.length]

lemma word_wireLength (rest : List UInt8) :
    ByteOrder.little.word32 (e.bytes ++ rest) 12 = e.wireLength.toNat := by
  rw [bytes, List.append_assoc, wireLength_recordHeader]

end Entry

namespace Pcap.FileHeader

def written (link : LinkType) : FileHeader := ⟨⟨.little, false, false⟩, link⟩

@[simp] lemma recordHeaderSize_written (link : LinkType) : (written link).magic.recordHeaderSize = 16 := rfl

@[simp] lemma order_written (link : LinkType) : (written link).magic.order = .little := rfl

variable {e : Entry} (link : LinkType) (rest : List UInt8) {available : Nat}

lemma record_written (h : e.Fits) :
    (written link).record (e.bytes ++ rest) e.data.length = e.record link := by
  have hdata : ((e.bytes ++ rest).drop 16).take e.data.length = e.data := by
    rw [Entry.bytes, List.append_assoc, List.drop_left' (by simp), List.take_left]
  simp only [record, recordHeaderSize_written, order_written, Entry.word_seconds h, Entry.word_micros,
    Entry.word_wireLength, hdata, UInt32.ofNat_toNat]
  rfl

lemma frame_of_short_header (ha : available < 16) (bytes : List UInt8) :
    (written link).frame bytes available = .missing (16 - available) := by
  simp [frame, ha]

lemma frame_of_short_data (h : e.Fits) (ha : 16 ≤ available) (hs : available < e.size) :
    (written link).frame (e.bytes ++ rest) available = .missing (e.size - available) := by
  simp only [frame, recordHeaderSize_written, order_written, Entry.word_length h, if_neg (Nat.not_lt.mpr ha)]
  exact dif_pos hs

lemma frame_of_whole (h : e.Fits) (hs : e.size ≤ available) :
    ∃ hpos hle, (written link).frame (e.bytes ++ rest) available = .found (e.record link) e.size hpos hle := by
  have hheader : ¬ available < 16 := by simp only [Entry.size] at hs; omega
  refine ⟨Nat.add_pos_left (by decide) _, hs, ?_⟩
  simp only [frame, recordHeaderSize_written, order_written, Entry.word_length h, if_neg hheader,
    record_written link rest h]
  exact dif_neg (Nat.not_lt.mpr hs)

lemma frame_entry (h : e.Fits) (available : Nat) :
    (∃ count, (written link).frame (e.bytes ++ rest) available = .missing count ∧ 0 < count ∧
      available + count ≤ e.size) ∨
    e.size ≤ available ∧
      ∃ hpos hle, (written link).frame (e.bytes ++ rest) available = .found (e.record link) e.size hpos hle := by
  by_cases hwhole : e.size ≤ available
  · exact .inr ⟨hwhole, frame_of_whole link rest h hwhole⟩
  by_cases ha : available < 16
  · refine .inl ⟨_, frame_of_short_header link ha _, by omega, ?_⟩
    simp only [Entry.size]
    omega
  · exact .inl ⟨_, frame_of_short_data link rest h (Nat.not_lt.mp ha) (Nat.not_le.mp hwhole), by omega, by omega⟩

end Pcap.FileHeader

namespace Intake

lemma fetch_frame_keeps {α : Type} {scan : Framing α} {s next : Intake} {value : α}
    (h : s.fetch scan = .frame value next) :
    next.ending = s.ending ∧ next.readSize = s.readSize ∧ (s.buffered ≤ bufferSize → next.buffered < bufferSize) := by
  fun_induction fetch scan s with
  | case1 s v size pos le hs =>
    obtain ⟨rfl, rfl⟩ := Fetched.frame.inj h
    refine ⟨rfl, rfl, fun hb => ?_⟩
    simp only [consume, bufferSize] at hb ⊢
    omega
  | case4 s count hs room more ih =>
    obtain ⟨hending, hsize, hbuffered⟩ := ih h
    refine ⟨hending, hsize, fun hb => hbuffered ?_⟩
    simp only [readMore]
    omega
  | case2 => simp at h
  | case3 => simp at h
  | case5 => simp at h
  | case6 => simp at h
  | case7 => simp at h

lemma unread_pos {s : Intake} (h : s.buffered < s.rest.length) : 0 < s.unread := by
  have := s.length_rest
  omega

variable {e : Entry} {link : LinkType} {tail : List UInt8}

lemma missing_entry (he : e.Fits) {s : Intake} (hrest : s.rest = e.bytes ++ tail) {count : Nat}
    (hs : (Pcap.FileHeader.written link).frame s.rest s.buffered = .missing count) :
    0 < count ∧ s.buffered + count ≤ e.size ∧ s.buffered < s.rest.length := by
  rw [hrest] at hs ⊢
  rcases Pcap.FileHeader.frame_entry link tail he s.buffered with ⟨c, hf, hpos, hcount⟩ | ⟨-, _, _, hf⟩
  · obtain rfl := Scan.missing.inj (hf.symm.trans hs)
    refine ⟨hpos, hcount, ?_⟩
    rw [List.length_append, Entry.length_bytes]
    omega
  · simp [hf] at hs

-- With reads of one byte the buffer never holds a whole frame of its own size: it is refused one byte earlier.
lemma fetch_entry (he : e.Fits) {s : Intake} (hrest : s.rest = e.bytes ++ tail) (hb : s.buffered ≤ bufferSize)
    (hslow : (∀ o, s.readSize o ≤ 1) → s.buffered < bufferSize) :
    (∃ next, s.fetch (Pcap.FileHeader.written link).frame = .frame (e.record link) next ∧ next.rest = tail ∧
      e.size ≤ bufferSize ∧ ((∀ o, s.readSize o ≤ 1) → e.size < bufferSize)) ∨
    (∃ t, s.fetch (Pcap.FileHeader.written link).frame = .failed .bufferFull t) ∧ bufferSize ≤ e.size := by
  fun_induction fetch (Pcap.FileHeader.written link).frame s with
  | case1 s v size pos le hs =>
    rw [hrest] at hs
    rcases Pcap.FileHeader.frame_entry link tail he s.buffered with ⟨_, hf, -⟩ | ⟨hwhole, _, _, hf⟩
    · simp [hf] at hs
    · obtain ⟨rfl, rfl⟩ := Scan.found.inj (hf.symm.trans hs)
      refine .inl ⟨_, rfl, ?_, by omega, fun hreads => by have := hslow hreads; omega⟩
      simp only [consume, Nat.min_eq_left hwhole, hrest]
      exact List.drop_left' (Entry.length_bytes e)
  | case2 s fault hs =>
    rw [hrest] at hs
    rcases Pcap.FileHeader.frame_entry link tail he s.buffered with ⟨_, hf, -⟩ | ⟨-, _, _, hf⟩ <;> simp [hf] at hs
  | case3 s count hs full =>
    -- No more is asked for than the record has, so it is the record that leaves no room.
    obtain ⟨-, hcount, -⟩ := missing_entry he hrest hs
    exact .inr ⟨⟨s, rfl⟩, by omega⟩
  | case4 s count hs room more ih =>
    obtain ⟨hpos, hcount, -⟩ := missing_entry he hrest hs
    refine ih hrest ?_ fun hreads => ?_
    · simp only [readMore]
      omega
    · have hread : s.readSize s.offset ≤ 1 := hreads s.offset
      simp only [readMore]
      omega
  | case5 s count hs room done => exact (done (unread_pos (missing_entry he hrest hs).2.2)).elim
  | case6 s count hs room done => exact (done (unread_pos (missing_entry he hrest hs).2.2)).elim
  | case7 s count hs room done => exact (done (unread_pos (missing_entry he hrest hs).2.2)).elim

end Intake

end CaptureSieve
