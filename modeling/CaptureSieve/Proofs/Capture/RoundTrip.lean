import CaptureSieve.Proofs.Capture.FullBuffer
import CaptureSieve.Proofs.Writing.Words

/-!
Which captures can be read back: a writer takes data up to any snap length, but a reader has room for one record
only, its header included.
-/

namespace CaptureSieve

lemma Pcap.FileHeader.fieldEnds_of_whole {n : Nat} (h : headerSize ≤ n) : fieldEnds.find? (n < ·) = none := by
  simp only [headerSize] at h
  simp only [List.find?_eq_none, fieldEnds, List.mem_cons, List.not_mem_nil, or_false, decide_eq_true_eq]
  omega

lemma Pcap.FileHeader.ofBytes_fileHeader (snapLength : UInt32) (link : LinkType) (body : List UInt8) {available : Nat}
    (h : 24 ≤ available) :
    FileHeader.ofBytes (fileHeader snapLength link ++ body) available = .ok (written link) := by
  have hbegins := begins_fileHeader snapLength link body
  rw [ofBytes, hbegins.magic]
  simp only [Magic.ofWord?, if_true, fieldEnds_of_whole h, hbegins.link]
  simp only [LinkType.ofNat, UInt32.ofNat_toNat]
  rfl

namespace Intake

structure Holds (entries : List Entry) (s : Intake) : Prop where
  rest : s.rest = entries.flatMap Entry.bytes
  closed : s.ending = .closed
  room : s.buffered < bufferSize

lemma fetch_of_holds_nil {s : Intake} (h : Holds [] s) (link : LinkType) :
    s.fetch (Pcap.FileHeader.written link).frame = .finished := by
  have hlength : s.buffered + s.unread = 0 := by
    rw [← s.length_rest, h.rest]
    rfl
  have hbuffered : s.buffered = 0 := by omega
  have hunread : ¬ 0 < s.unread := by omega
  have hshort : (Pcap.FileHeader.written link).frame s.rest s.buffered = .missing (16 - s.buffered) :=
    Pcap.FileHeader.frame_of_short_header link (by omega) _
  rw [fetch, hshort]
  simp only [hunread, h.closed, hbuffered, dite_false, if_true]
  exact dif_neg (by decide)

end Intake

namespace Reader

variable {link : LinkType} {entries : List Entry} {s : Intake}

lemma next_of_holds_nil (h : Intake.Holds [] s) : (pcap (.written link) s).next = .finished := by
  rw [next, nextPcap, Intake.fetch_of_holds_nil h]

lemma next_of_holds_cons {e : Entry} {rest : List Entry} (he : e.Fits) (h : Intake.Holds (e :: rest) s) :
    (∃ t, (pcap (.written link) s).next = .record (e.record link) (pcap (.written link) t) ∧ Intake.Holds rest t ∧
      t.readSize = s.readSize ∧ e.size ≤ bufferSize ∧ ((∀ o, s.readSize o ≤ 1) → e.size < bufferSize)) ∨
    (∃ error r, (pcap (.written link) s).next = .failed error r) ∧ bufferSize ≤ e.size := by
  have hrest : s.rest = e.bytes ++ rest.flatMap Entry.bytes := by rw [h.rest, List.flatMap_cons]
  rcases @Intake.fetch_entry e link _ he s hrest (Nat.le_of_lt h.room) (fun _ => h.room) with
    ⟨t, hf, htail, hsize, hslow⟩ | ⟨⟨t, hf⟩, hsize⟩
  · obtain ⟨hending, hreads, hroom⟩ := Intake.fetch_frame_keeps hf
    refine .inl ⟨t, ?_, ⟨htail, hending.trans h.closed, hroom (Nat.le_of_lt h.room)⟩, hreads, hsize, hslow⟩
    simp only [next, nextPcap, hf]
  · refine .inr ⟨⟨Step.failure .pcap .bufferFull, pcap (.written link) t, ?_⟩, hsize⟩
    simp only [next, nextPcap, hf]

lemma outlook_of_small (h : Intake.Holds entries s) (hfits : ∀ e ∈ entries, e.Fits)
    (hsmall : ∀ e ∈ entries, e.size < bufferSize) :
    (pcap (.written link) s).outlook none = ⟨entries.map (Entry.record link), none⟩ := by
  induction entries generalizing s with
  | nil => exact outlook_of_finished (next_of_holds_nil h)
  | cons e rest ih =>
    obtain ⟨he, hrest⟩ := List.forall_mem_cons.mp hfits
    obtain ⟨hsize, hsizes⟩ := List.forall_mem_cons.mp hsmall
    rcases next_of_holds_cons he h with ⟨t, hn, ht, -⟩ | ⟨-, hlarge⟩
    · rw [outlook_of_record hn, ih ht hrest hsizes]
      rfl
    · exact absurd hsize (Nat.not_lt.mpr hlarge)

lemma outlook_of_failure_none (h : Intake.Holds entries s) (hfits : ∀ e ∈ entries, e.Fits)
    (hnone : ((pcap (.written link) s).outlook none).failure = none) :
    (∀ e ∈ entries, e.size ≤ bufferSize) ∧ ((∀ o, s.readSize o ≤ 1) → ∀ e ∈ entries, e.size < bufferSize) := by
  induction entries generalizing s with
  | nil => exact ⟨by simp, by simp⟩
  | cons e rest ih =>
    obtain ⟨he, hrest⟩ := List.forall_mem_cons.mp hfits
    rcases next_of_holds_cons he h with ⟨t, hn, ht, hreads, hsize, hslow⟩ | ⟨⟨error, r, hn⟩, -⟩
    · rw [outlook_of_record hn] at hnone
      obtain ⟨hsizes, hslows⟩ := ih ht hrest hnone
      rw [hreads] at hslows
      exact ⟨List.forall_mem_cons.mpr ⟨hsize, hsizes⟩,
        fun hone => List.forall_mem_cons.mpr ⟨hslow hone, hslows hone⟩⟩
    · simp [outlook_of_failed hn] at hnone

lemma magic_of_fileHeader (snapLength : UInt32) (link : LinkType) (body : List UInt8) :
    (fileHeader snapLength link ++ body).take 4 ≠ pcapngMagic := by
  rw [fileHeader]
  simp only [List.append_assoc]
  rw [List.take_left' (ByteOrder.length_bytes32 _ _)]
  decide

lemma ofStream_written (snapLength : UInt32) (link : LinkType) (entries : List Entry) (readSize : Nat → Nat) :
    ∃ s, ofStream ⟨fileHeader snapLength link ++ entries.flatMap Entry.bytes, .closed, readSize⟩ =
      .ok (pcap (.written link) s) ∧ Intake.Holds entries s ∧ s.readSize = readSize ∧
      s.buffered = min (24 + (entries.flatMap Entry.bytes).length) bufferSize - 24 := by
  set bytes := fileHeader snapLength link ++ entries.flatMap Entry.bytes with hbytes
  have hlength : 24 ≤ bytes.length := by
    rw [hbytes, List.length_append, Writer.length_fileHeader]
    exact Nat.le_add_right _ _
  have hbuffered : 24 ≤ min bytes.length bufferSize := Nat.le_min.mpr ⟨hlength, by decide⟩
  have hheader : Pcap.FileHeader.ofBytes bytes (min bytes.length bufferSize) = .ok (.written link) :=
    Pcap.FileHeader.ofBytes_fileHeader snapLength link _ hbuffered
  have hmagic : bytes.take 4 ≠ pcapngMagic := magic_of_fileHeader snapLength link _
  refine ⟨(Intake.filled ⟨bytes, .closed, readSize⟩).consume Pcap.headerSize, ?_, ⟨?_, rfl, ?_⟩, rfl, ?_⟩
  · have hfour : ¬ min bytes.length bufferSize < 4 := by omega
    simp only [ofStream, Intake.ofStream, Intake.filled, hfour, hmagic, if_false, openPcap, hheader]
  · simp only [Intake.consume, Intake.filled, Pcap.headerSize, Nat.min_eq_left hbuffered]
    exact List.drop_left' (Writer.length_fileHeader _ _)
  · simp only [Intake.consume, Intake.filled, Pcap.headerSize, Nat.min_eq_left hbuffered]
    omega
  · simp only [Intake.consume, Intake.filled, Pcap.headerSize, Nat.min_eq_left hbuffered]
    rw [hbytes, List.length_append, Writer.length_fileHeader]

end Reader

def Restores (link : LinkType) (entries : List Entry) (stream : ByteStream) : Prop :=
  ∃ source, Source.ofStream stream none = .ok source ∧ source.drain.failure = none ∧
    source.drain.items.map (fun r => (r.time.nanos, r.link, r.wireLength, r.data)) =
      entries.map fun e => (e.time.micros * 1000, link, e.wireLength, e.data)

section Restores

variable {snapLength : UInt32} {link : LinkType} {entries : List Entry} {readSize : Nat → Nat}

lemma rounds_of_restores {stream : ByteStream} (h : Restores link entries stream) :
    ∀ e ∈ entries, e.time.Rounds := by
  obtain ⟨source, -, -, hitems⟩ := h
  intro e he
  have hmem : (e.time.micros * 1000, link, e.wireLength, e.data) ∈
      source.drain.items.map fun r => (r.time.nanos, r.link, r.wireLength, r.data) := by
    rw [hitems]
    exact List.mem_map_of_mem he
  obtain ⟨r, -, hr⟩ := List.mem_map.mp hmem
  have hnanos : r.time.nanos = e.time.micros * 1000 := (Prod.mk.inj hr).1
  have hlt := r.time.nanos_lt
  rw [Instant.Rounds]
  omega

lemma outlook_opened (reader : Reader) : Source.outlook ⟨some reader, none, []⟩ = reader.outlook none := rfl

lemma restores_of_small (hfits : ∀ e ∈ entries, e.Fits) (hsmall : ∀ e ∈ entries, e.size < bufferSize) :
    Restores link entries ⟨fileHeader snapLength link ++ entries.flatMap Entry.bytes, .closed, readSize⟩ := by
  obtain ⟨s, hopen, hholds, -⟩ := Reader.ofStream_written snapLength link entries readSize
  have hahead := @Reader.outlook_of_small link entries s hholds hfits hsmall
  rw [← outlook_opened] at hahead
  have hitems := Source.drain_items (congrArg Outlook.failure hahead)
  refine ⟨⟨some (.pcap (.written link) s), none, []⟩, ?_, ?_, ?_⟩
  · simp only [Source.ofStream, hopen, Except.map]
  · rw [Source.drain_failure, hahead]
  · rw [hitems, hahead, List.map_map]
    refine List.map_congr_left fun e he => ?_
    simp only [Function.comp_apply, Entry.nanos_record (hfits e he)]
    rfl

lemma sizes_of_restores (hfits : ∀ e ∈ entries, e.Fits)
    (h : Restores link entries ⟨fileHeader snapLength link ++ entries.flatMap Entry.bytes, .closed, readSize⟩) :
    (∀ e ∈ entries, e.size ≤ bufferSize) ∧ ((∀ o, readSize o ≤ 1) → ∀ e ∈ entries, e.size < bufferSize) := by
  obtain ⟨s, hopen, hholds, hreads, -⟩ := Reader.ofStream_written snapLength link entries readSize
  obtain ⟨source, hsource, hnone, -⟩ := h
  rw [Source.ofStream, hopen] at hsource
  obtain rfl := Except.ok.inj hsource
  rw [Source.drain_failure, outlook_opened] at hnone
  rw [← hreads]
  exact Reader.outlook_of_failure_none hholds hfits hnone

end Restores

lemma Entry.size_lt_iff (e : Entry) : e.size < bufferSize ↔ e.data.length < 65520 := by
  simp only [size, bufferSize]
  omega

lemma Entry.size_le_iff (e : Entry) : e.size ≤ bufferSize ↔ e.data.length ≤ 65520 := by
  simp only [size, bufferSize]
  omega

theorem restores_written_iff {sink out : Sink} (hsink : sink.accepted = []) {snapLength : UInt32} {link : LinkType}
    {entries : List Entry} {w : Writer} (hwrite : (Writer.ofSink sink snapLength link).writeAll entries = .ok w)
    (hclose : w.close = (.ok (), out)) :
    ((∀ readSize, Restores link entries ⟨out.accepted, .closed, readSize⟩) ↔
      ∀ e ∈ entries, e.data.length < 65520 ∧ e.time.Rounds) ∧
    ∀ readSize, Restores link entries ⟨out.accepted, .closed, readSize⟩ → ∀ e ∈ entries, e.data.length ≤ 65520 := by
  have hwritten : (∀ e ∈ entries, e.time.Rounds) → (∀ e ∈ entries, e.Fits) ∧
      out.accepted = fileHeader snapLength link ++ entries.flatMap Entry.bytes := by
    intro hrounds
    obtain ⟨hcontents, hchecked⟩ := Writer.writeAll_contents hrounds hwrite
    refine ⟨fun e he => ?_, ?_⟩
    · obtain ⟨hlength, htime⟩ := hchecked e he
      exact ⟨Nat.lt_of_le_of_lt hlength (UInt32.toNat_lt _), htime⟩
    · rw [Writer.close_accepted hclose, hcontents, Writer.contents_ofSink, hsink, List.nil_append]
  refine ⟨⟨fun hall => ?_, fun hsmall => ?_⟩, fun readSize h => ?_⟩
  -- Reads of one byte are the ones that leave the least room.
  · have hone := hall fun _ => 1
    have hrounds := rounds_of_restores hone
    obtain ⟨hfits, hout⟩ := hwritten hrounds
    rw [hout] at hone
    have hsizes := (sizes_of_restores hfits hone).2 fun _ => Nat.le_refl 1
    exact fun e he => ⟨e.size_lt_iff.mp (hsizes e he), hrounds e he⟩
  · obtain ⟨hfits, hout⟩ := hwritten fun e he => (hsmall e he).2
    intro readSize
    rw [hout]
    exact restores_of_small hfits fun e he => e.size_lt_iff.mpr (hsmall e he).1
  · obtain ⟨hfits, hout⟩ := hwritten (rounds_of_restores h)
    rw [hout] at h
    exact fun e he => e.size_le_iff.mp ((sizes_of_restores hfits h).1 e he)

def lateSecond : List Entry :=
  [⟨⟨9_999_999_500, by decide⟩, 1500, [0x45, 0, 1]⟩, ⟨⟨1_234_499, by decide⟩, 0, []⟩]

theorem restores_lateSecond :
    ∃ w out, (Writer.ofSink .unbounded 65535 .raw).writeAll lateSecond = .ok w ∧ w.close = (.ok (), out) ∧
      ∀ readSize, Restores .raw lateSecond ⟨out.accepted, .closed, readSize⟩ := by
  obtain ⟨w, out, hwrite, hclose, -⟩ := @Writer.exists_written .unbounded rfl 65535 .raw lateSecond (by decide)
  exact ⟨w, out, hwrite, hclose, (restores_written_iff rfl hwrite hclose).1.mpr (by decide)⟩

def fullBuffer : Entry := ⟨.epoch, 65520, List.replicate 65520 0⟩

lemma length_fullBuffer : fullBuffer.data.length = 65520 := List.length_replicate

/-- Behind a file header it fills the buffer, so that the next record comes into an empty one. -/
def spacer : Entry := ⟨.epoch, 65496, List.replicate 65496 0⟩

lemma length_spacer : spacer.data.length = 65496 := List.length_replicate

lemma size_spacer : spacer.size = bufferSize - 24 := by
  rw [Entry.size, length_spacer]
  rfl

lemma Entry.Fits.of_epoch {e : Entry} (htime : e.time = .epoch) (hlength : e.data.length ≤ 65520) : e.Fits :=
  ⟨Nat.lt_of_le_of_lt hlength (by decide), htime ▸ Entry.micros_epoch⟩

lemma fits_spacer : spacer.Fits := .of_epoch rfl (by rw [length_spacer]; decide)

lemma Intake.fetch_of_large {e : Entry} (he : e.Fits) {s : Intake} {tail : List UInt8}
    (hrest : s.rest = e.bytes ++ tail) (hheader : 16 ≤ s.buffered) (hpart : s.buffered < e.size)
    (hlarge : bufferSize ≤ e.size) (link : LinkType) :
    s.fetch (Pcap.FileHeader.written link).frame = .failed .bufferFull s := by
  have hmissing : (Pcap.FileHeader.written link).frame s.rest s.buffered = .missing (e.size - s.buffered) := by
    rw [hrest]
    exact Pcap.FileHeader.frame_of_short_data link tail he hheader hpart
  rw [fetch, hmissing]
  exact dif_pos (by omega)

theorem fullBuffer_not_restored :
    fullBuffer.data.length ≤ (65535 : UInt32).toNat ∧
    ∃ w out, (Writer.ofSink .unbounded 65535 .raw).writeAll [fullBuffer] = .ok w ∧ w.close = (.ok (), out) ∧
      ∀ readSize, ¬ Restores .raw [fullBuffer] ⟨out.accepted, .closed, readSize⟩ := by
  have hsize : fullBuffer.data.length ≤ (65535 : UInt32).toNat := by rw [length_fullBuffer]; decide
  have hfits : fullBuffer.Fits := ⟨by rw [length_fullBuffer]; decide, by decide⟩
  obtain ⟨w, out, hwrite, hclose, hout⟩ := @Writer.exists_written .unbounded rfl 65535 .raw [fullBuffer]
    (by simp only [List.mem_singleton, forall_eq]; exact ⟨by decide, hsize, hfits.time⟩)
  refine ⟨hsize, w, out, hwrite, hclose, fun readSize h => ?_⟩
  obtain ⟨s, hopen, hholds, -, hbuffered⟩ := Reader.ofStream_written 65535 .raw [fullBuffer] readSize
  obtain ⟨source, hsource, hnone, -⟩ := h
  have haccepted : out.accepted = fileHeader 65535 .raw ++ [fullBuffer].flatMap Entry.bytes := by
    rw [hout, Sink.unbounded, List.nil_append]
  rw [haccepted, Source.ofStream, hopen] at hsource
  obtain rfl := Except.ok.inj hsource
  have hlarge : fullBuffer.size = 65536 := by rw [Entry.size, length_fullBuffer]
  have hrest : s.rest = fullBuffer.bytes ++ [] := by rw [hholds.rest, List.flatMap_singleton, List.append_nil]
  have hroom : s.buffered = 65512 := by
    rw [hbuffered, List.flatMap_singleton, Entry.length_bytes, hlarge]
    decide
  have hfetch := Intake.fetch_of_large hfits hrest (by omega) (by omega) (by rw [hlarge]; decide) .raw
  have hnext : (Reader.pcap (.written .raw) s).next =
      .failed (Step.failure .pcap .bufferFull) (.pcap (.written .raw) s) := by
    simp only [Reader.next, Reader.nextPcap, hfetch]
  rw [Source.drain_failure, outlook_opened, Reader.outlook_of_failed hnext] at hnone
  simp at hnone

lemma Intake.fetch_at_once {e : Entry} (he : e.Fits) (hfull : e.size = bufferSize) {s : Intake} (hrest : s.rest = e.bytes)
    (hclosed : s.ending = .closed) (hempty : s.buffered = 0) (hreads : bufferSize ≤ s.readSize s.offset)
    (link : LinkType) :
    ∃ t, s.fetch (Pcap.FileHeader.written link).frame = .frame (e.record link) t ∧ Holds [] t := by
  have hunread : s.unread = e.size := by
    have htotal := s.length_rest
    rw [hrest, Entry.length_bytes] at htotal
    omega
  have hmissing : (Pcap.FileHeader.written link).frame s.rest s.buffered = .missing (16 - s.buffered) :=
    Pcap.FileHeader.frame_of_short_header link (by omega) _
  have hroom : ¬ bufferSize ≤ s.buffered + (16 - s.buffered) := by
    rw [hempty]
    decide
  have hmore : 0 < s.unread := by
    rw [hunread, hfull]
    decide
  have hfilled : s.readMore.buffered = e.size := by
    simp only [readMore]
    omega
  obtain ⟨_, _, hfound⟩ := Pcap.FileHeader.frame_of_whole link [] he (Nat.le_of_eq hfilled.symm)
  rw [List.append_nil, ← hrest, ← rest_readMore] at hfound
  refine ⟨s.readMore.consume e.size, ?_, ?_, hclosed, ?_⟩
  · rw [fetch_of_more hmissing hroom hmore, fetch_of_found hfound]
  · simp only [consume, hfilled, rest_readMore, hrest, Nat.min_self]
    exact List.drop_of_length_le (Nat.le_of_eq (Entry.length_bytes e))
  · simp only [consume, hfilled, Nat.min_self, Nat.sub_self]
    decide

namespace Source

variable {snapLength : UInt32} {link : LinkType} {readSize : Nat → Nat}

lemma ofStream_written_small {entries : List Entry} (hfits : ∀ e ∈ entries, e.Fits)
    (hsmall : ∀ e ∈ entries, e.size < bufferSize) :
    ∃ s, ofStream ⟨fileHeader snapLength link ++ entries.flatMap Entry.bytes, .closed, readSize⟩ none = .ok s ∧
      s.outlook = ⟨entries.map (Entry.record link), none⟩ := by
  obtain ⟨s, hopen, hholds, -⟩ := Reader.ofStream_written snapLength link entries readSize
  refine ⟨⟨some (.pcap (.written link) s), none, []⟩, ?_, ?_⟩
  · simp only [ofStream, hopen, Except.map]
  · rw [outlook_opened]
    exact Reader.outlook_of_small hholds hfits hsmall

lemma ofStream_written_large {e : Entry} (he : e.Fits) (hlarge : bufferSize ≤ e.size) :
    ∃ s, ofStream ⟨fileHeader snapLength link ++ e.bytes, .closed, readSize⟩ none = .ok s ∧
      s.outlook = ⟨[], some (Step.failure .pcap .bufferFull)⟩ := by
  obtain ⟨s, hopen, hholds, -, hbuffered⟩ := Reader.ofStream_written snapLength link [e] readSize
  rw [List.flatMap_singleton] at hopen hbuffered
  have hrest : s.rest = e.bytes ++ [] := by rw [hholds.rest, List.flatMap_singleton, List.append_nil]
  have hroom : s.buffered = bufferSize - 24 := by
    rw [hbuffered, Entry.length_bytes]
    omega
  have hfetch := Intake.fetch_of_large he hrest (by rw [hroom]; decide)
    (by rw [hroom]; exact Nat.lt_of_lt_of_le (by decide) hlarge) hlarge link
  have hnext : (Reader.pcap (.written link) s).next =
      .failed (Step.failure .pcap .bufferFull) (.pcap (.written link) s) := by
    simp only [Reader.next, Reader.nextPcap, hfetch]
  refine ⟨⟨some (.pcap (.written link) s), none, []⟩, ?_, ?_⟩
  · simp only [ofStream, hopen, Except.map]
  · rw [outlook_opened]
    exact Reader.outlook_of_failed hnext

lemma ofStream_written_at_once {a b : Entry} (ha : a.Fits) (hb : b.Fits) (hgap : a.size = bufferSize - 24)
    (hfull : b.size = bufferSize) (hreads : ∀ o, bufferSize ≤ readSize o) :
    ∃ s, ofStream ⟨fileHeader snapLength link ++ [a, b].flatMap Entry.bytes, .closed, readSize⟩ none = .ok s ∧
      s.outlook = ⟨[a.record link, b.record link], none⟩ := by
  obtain ⟨s, hopen, hholds, hsize, hbuffered⟩ := Reader.ofStream_written snapLength link [a, b] readSize
  have hbytes : [a, b].flatMap Entry.bytes = a.bytes ++ b.bytes := by
    simp only [List.flatMap_cons, List.flatMap_nil, List.append_nil]
  have hfilled : s.buffered = a.size := by
    rw [hbuffered, hbytes, List.length_append, Entry.length_bytes, Entry.length_bytes, hgap, hfull]
    rfl
  have hrest : s.rest = a.bytes ++ b.bytes := by rw [hholds.rest, hbytes]
  obtain ⟨_, _, hfound⟩ := Pcap.FileHeader.frame_of_whole link b.bytes ha (Nat.le_of_eq hfilled.symm)
  have hfirst : (Reader.pcap (.written link) s).next =
      .record (a.record link) (.pcap (.written link) (s.consume a.size)) := by
    rw [← hrest] at hfound
    simp only [Reader.next, Reader.nextPcap, Intake.fetch, hfound]
  have hrest' : (s.consume a.size).rest = b.bytes := by
    simp only [Intake.consume, hfilled, hrest, Nat.min_self]
    exact List.drop_left' (Entry.length_bytes a)
  have hempty : (s.consume a.size).buffered = 0 := by
    simp only [Intake.consume, hfilled, Nat.min_self, Nat.sub_self]
  obtain ⟨t, hfetch, hdone⟩ := Intake.fetch_at_once hb hfull hrest' hholds.closed hempty
    (by simp only [Intake.consume, hsize]; exact hreads _) link
  have hsecond : (Reader.pcap (.written link) (s.consume a.size)).next =
      .record (b.record link) (.pcap (.written link) t) := by
    simp only [Reader.next, Reader.nextPcap, hfetch]
  refine ⟨⟨some (.pcap (.written link) s), none, []⟩, by simp only [ofStream, hopen, Except.map], ?_⟩
  rw [outlook_opened, Reader.outlook_of_record hfirst, Reader.outlook_of_record hsecond,
    Reader.outlook_of_finished (Reader.next_of_holds_nil hdone)]
  rfl

lemma ofStream_written_slow {a b : Entry} (ha : a.Fits) (hb : b.Fits) (hsmall : a.size < bufferSize)
    (hlarge : bufferSize ≤ b.size) (hslow : ∀ o, readSize o ≤ 1) :
    ∃ s e, ofStream ⟨fileHeader snapLength link ++ [a, b].flatMap Entry.bytes, .closed, readSize⟩ none = .ok s ∧
      s.outlook = ⟨[a.record link], some e⟩ := by
  obtain ⟨s, hopen, hholds, hreads, -⟩ := Reader.ofStream_written snapLength link [a, b] readSize
  rcases Reader.next_of_holds_cons ha hholds with ⟨t, hfirst, ht, htreads, -⟩ | ⟨-, hnever⟩
  · rcases Reader.next_of_holds_cons hb ht with ⟨_, -, -, -, -, hless⟩ | ⟨⟨e, r, hsecond⟩, -⟩
    · have hless := hless (by rw [htreads, hreads]; exact hslow)
      exact absurd hlarge (Nat.not_le.mpr hless)
    · refine ⟨⟨some (.pcap (.written link) s), none, []⟩, e, by simp only [ofStream, hopen, Except.map], ?_⟩
      rw [outlook_opened, Reader.outlook_of_record hfirst, Reader.outlook_of_failed hsecond]
      rfl
  · exact absurd hsmall (Nat.not_lt.mpr hnever)

end Source

end CaptureSieve
