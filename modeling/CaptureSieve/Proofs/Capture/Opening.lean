import CaptureSieve.Proofs.Capture.Dialect

/-!
How a capture begins, in either format, and how the reader goes on from there. A part of the capture that reaches beyond
the opening opens alike.
-/

namespace CaptureSieve

/-- How a capture begins: its dialect, the bytes that opening it takes, and the state behind them. -/
structure Opening where
  dialect : Dialect
  state : dialect.State
  size : Nat

inductive Opening.Of (bytes : List UInt8) : Opening → Prop
  | pcap {header : Pcap.FileHeader} (magic : bytes.take 4 ≠ Reader.pcapngMagic)
      (h : Pcap.FileHeader.ofBytes bytes bytes.length = .ok header) : Of bytes ⟨Pcap.dialect, header, Pcap.headerSize⟩
  | pcapng {block : Pcapng.Block} {size : Nat} (magic : bytes.take 4 = Reader.pcapngMagic)
      (h : (Pcapng.State.start.frame bytes bytes.length).settled? = some (.ok (block, size))) :
      Of bytes ⟨Pcapng.dialect, Pcapng.State.start.after block, size⟩

namespace Pcap.FileHeader

lemma ofBytes_of_whole {bytes : List UInt8} {a b : Nat} {header : FileHeader} (h : ofBytes bytes a = .ok header)
    (hb : headerSize ≤ b) : ofBytes bytes b = .ok header := by
  rw [ofBytes, fieldEnds_of_whole (headerSize_le h)] at h
  rw [ofBytes, fieldEnds_of_whole hb]
  exact h

lemma ofBytes_take (bytes : List UInt8) {k : Nat} (hk : headerSize ≤ k) (a : Nat) :
    ofBytes (bytes.take k) a = ofBytes bytes a := by
  simp only [headerSize] at hk
  have hlink : ∀ order : ByteOrder, order.word32 (bytes.take k) 20 = order.word32 bytes 20 :=
    fun order => order.word32_take (by omega) bytes
  simp only [ofBytes, ByteOrder.little.word32_take (show 0 + 4 ≤ k by omega), hlink]

end Pcap.FileHeader

namespace Pcapng

lemma sectionHeader_of_blockFrame {order : ByteOrder} {bytes : List UInt8} {a size : Nat} {block : Block}
    (h : (blockFrame order sectionCode bytes a).settled? = some (.ok (block, size))) :
    block = .sectionHeader order := by
  have hbody : ∀ content, body order sectionCode content = .block (.sectionHeader order) := fun _ => rfl
  simp only [blockFrame, hbody] at h
  repeat' split at h
  all_goals simp [Scan.settled?] at h
  exact h.1.symm

lemma four_le_of_magic {bytes : List UInt8} (h : bytes.take 4 = Reader.pcapngMagic) : 4 ≤ bytes.length := by
  have hlength : Reader.pcapngMagic.length ≤ bytes.length := h ▸ List.length_take_le' 4 bytes
  exact hlength

-- The code of a section header reads the same in both byte orders.
lemma code_of_magic {bytes : List UInt8} (h : bytes.take 4 = Reader.pcapngMagic) (order : ByteOrder) :
    order.word32 bytes 0 = sectionCode := by
  rw [← order.word32_take (Nat.le_refl 4) bytes, h]
  cases order <;> decide

lemma sectionHeader_of_magic {bytes : List UInt8} (hmagic : bytes.take 4 = Reader.pcapngMagic) {a size : Nat}
    {block : Block} (h : (State.start.frame bytes a).settled? = some (.ok (block, size))) :
    ∃ order, block = .sectionHeader order := by
  have hcode : State.start.order.word32 bytes 0 = sectionCode := code_of_magic hmagic _
  simp only [State.frame, hcode, if_true, sectionFrame] at h
  split at h
  · simp [Scan.settled?] at h
  split at h
  · simp [Scan.settled?] at h
  split at h
  · exact ⟨_, sectionHeader_of_blockFrame h⟩
  split at h
  · exact ⟨_, sectionHeader_of_blockFrame h⟩
  · simp [Scan.settled?] at h

end Pcapng

namespace Opening

variable {bytes : List UInt8} {o o' : Opening}

lemma Of.unique (h : o.Of bytes) (h' : o'.Of bytes) : o = o' := by
  cases h with
  | pcap magic h =>
    cases h' with
    | pcap magic' h' =>
      obtain rfl := Except.ok.inj (h.symm.trans h')
      rfl
    | pcapng magic' h' => exact absurd magic' magic
  | pcapng magic h =>
    cases h' with
    | pcap magic' h' => exact absurd magic magic'
    | pcapng magic' h' =>
      obtain ⟨rfl, rfl⟩ : _ ∧ _ := by simpa using h.symm.trans h'
      rfl

lemma Of.size_pos (h : o.Of bytes) : 0 < o.size := by
  cases h with
  | pcap magic h => exact (show 0 < Pcap.headerSize by decide)
  | pcapng magic h =>
    obtain ⟨hpos, -, -⟩ := Scan.eq_found h
    exact hpos

lemma Of.of_take {n : Nat} (h : o.Of (bytes.take n)) : o.Of bytes ∧ o.size ≤ n := by
  have hlength : (bytes.take n).length ≤ n := List.length_take_le n bytes
  cases h with
  | pcap magic h =>
    have hsize : Pcap.headerSize ≤ n := Nat.le_trans (Pcap.FileHeader.headerSize_le h) hlength
    have hfour : (bytes.take n).take 4 = bytes.take 4 := by
      rw [List.take_take, Nat.min_eq_left (Nat.le_trans (by decide) hsize)]
    rw [hfour] at magic
    rw [Pcap.FileHeader.ofBytes_take bytes hsize] at h
    have hwhole := Nat.le_trans (Pcap.FileHeader.headerSize_le h) (List.length_take_le' n bytes)
    exact ⟨.pcap magic (Pcap.FileHeader.ofBytes_of_whole h hwhole), hsize⟩
  | pcapng magic h =>
    obtain ⟨-, hle, -⟩ := Scan.eq_found h
    have hfour : 4 ≤ n := Nat.le_trans (Pcapng.four_le_of_magic magic) hlength
    rw [List.take_take, Nat.min_eq_left hfour] at magic
    rw [Pcapng.State.near_frame .start bytes hlength] at h
    exact ⟨.pcapng magic ((Pcapng.State.steady_frame .start bytes).keeps h (List.length_take_le' n bytes)),
      Nat.le_trans hle hlength⟩

lemma Of.take {n : Nat} (h : o.Of bytes) (hn : o.size ≤ n) : o.Of (bytes.take n) := by
  cases h with
  | @pcap header magic h =>
    have hsize : Pcap.headerSize ≤ n := hn
    have hlength : Pcap.headerSize ≤ (bytes.take n).length := by
      rw [List.length_take]
      exact Nat.le_min.mpr ⟨hsize, Pcap.FileHeader.headerSize_le h⟩
    have hfour : (bytes.take n).take 4 = bytes.take 4 := by
      rw [List.take_take, Nat.min_eq_left (Nat.le_trans (by decide) hsize)]
    apply Of.pcap (hfour ▸ magic)
    rw [Pcap.FileHeader.ofBytes_take bytes hsize]
    exact Pcap.FileHeader.ofBytes_of_whole h hlength
  | @pcapng block size magic h =>
    have hsize : size ≤ n := hn
    have htight := Pcapng.State.tight_frame .start bytes
    have hlength : size ≤ (bytes.take n).length := by
      obtain ⟨-, hle, -⟩ := Scan.eq_found h
      rw [List.length_take]
      exact Nat.le_min.mpr ⟨hsize, hle⟩
    have hfour : (bytes.take n).take 4 = bytes.take 4 := by
      have hleast := htight.least_le h
      rw [List.take_take, Nat.min_eq_left (by omega)]
    apply Of.pcapng (hfour.trans magic)
    rw [Pcapng.State.near_frame .start bytes (List.length_take_le n bytes)]
    exact htight.whole h hlength

structure Heads (o : Opening) (bytes : List UInt8) (pieces : List Piece) : Prop where
  opens : o.Of bytes
  size_le : o.size ≤ window bytes
  parses : o.dialect.Parses o.state (bytes.drop o.size) pieces

lemma Heads.unique {pieces pieces' : List Piece} (h : o.Heads bytes pieces) (h' : o'.Heads bytes pieces') :
    o = o' ∧ pieces = pieces' := by
  obtain rfl := h.opens.unique h'.opens
  exact ⟨rfl, h.parses.unique h'.parses⟩

lemma Heads.extent_iff {pieces : List Piece} (h : o.Heads bytes pieces) :
    Piece.extent pieces = (bytes.drop o.size).length ↔ o.size + Piece.extent pieces = bytes.length := by
  have hlength : o.size ≤ bytes.length := Nat.le_trans h.size_le (Nat.min_le_left _ _)
  rw [List.length_drop]
  omega

lemma heads_written (snapLength : UInt32) (link : LinkType) {entries : List Entry} (hfits : ∀ e ∈ entries, e.Fits)
    (hsizes : ∀ e ∈ entries, e.size ≤ bufferSize) {tail : List UInt8} (htail : tail.length < 16) :
    Heads ⟨Pcap.dialect, .written link, Pcap.headerSize⟩
      (fileHeader snapLength link ++ (entries.flatMap Entry.bytes ++ tail)) (entries.map (Entry.piece link)) := by
  set body := entries.flatMap Entry.bytes ++ tail
  have hlength : 24 ≤ (fileHeader snapLength link ++ body).length := by
    rw [List.length_append, Writer.length_fileHeader]
    exact Nat.le_add_right _ _
  have hdrop : (fileHeader snapLength link ++ body).drop Pcap.headerSize = body :=
    List.drop_left' (Writer.length_fileHeader _ _)
  refine ⟨?_, Nat.le_min.mpr ⟨hlength, show 24 ≤ bufferSize by decide⟩, ?_⟩
  · exact .pcap (Reader.magic_of_fileHeader snapLength link body)
      (Pcap.FileHeader.ofBytes_fileHeader snapLength link body hlength)
  · dsimp only
    rw [hdrop]
    exact Dialect.parses_entries link hfits hsizes htail

structure LeadsTo (o : Opening) (bytes : List UInt8) (reader : Reader) (s : Intake) : Prop where
  opens : o.Of bytes
  size_le : o.size ≤ window bytes
  rest : s.rest = bytes.drop o.size
  room : s.buffered ≤ bufferSize
  next : reader.next = (o.dialect.reader o.state s).next
  format : reader.format = o.dialect.format

lemma consume_filled {x : ByteStream} {size : Nat} (h : size ≤ window x.bytes) :
    ((Intake.filled x).consume size).rest = x.bytes.drop size ∧ ((Intake.filled x).consume size).buffered ≤ bufferSize ∧
      ((Intake.filled x).consume size).buffered + size = window x.bytes := by
  have hthere : size ≤ (Intake.filled x).buffered := h
  simp only [Intake.consume, Nat.min_eq_left hthere]
  exact ⟨rfl, Nat.le_trans (Nat.sub_le _ _) (Nat.min_le_right _ _), Nat.sub_add_cancel h⟩

lemma leadsTo_of_pcap {x : ByteStream} {reader : Reader} (hmagic : x.bytes.take 4 ≠ Reader.pcapngMagic)
    (h : Reader.openPcap (.filled x) = .ok reader) :
    ∃ o s, LeadsTo o x.bytes reader s ∧ s.ending = x.ending ∧ s.readSize = x.readSize ∧
      s.buffered + o.size = window x.bytes := by
  rw [Reader.openPcap] at h
  split at h
  · next header hheader =>
    obtain rfl := Except.ok.inj h
    have hwindow : Pcap.headerSize ≤ window x.bytes := Pcap.FileHeader.headerSize_le hheader
    obtain ⟨hrest, hroom, hbuffered⟩ := consume_filled hwindow
    refine ⟨⟨Pcap.dialect, header, Pcap.headerSize⟩, (Intake.filled x).consume Pcap.headerSize,
      ⟨?_, hwindow, hrest, hroom, rfl, rfl⟩, rfl, rfl, hbuffered⟩
    exact .pcap hmagic (Pcap.FileHeader.ofBytes_of_whole hheader (Nat.le_trans hwindow (Nat.min_le_left _ _)))
  · simp at h

lemma leadsTo_of_pcapng {x : ByteStream} {reader : Reader} (hmagic : x.bytes.take 4 = Reader.pcapngMagic)
    (h : Reader.openPcapng (.filled x) = .ok reader) :
    ∃ o s, LeadsTo o x.bytes reader s ∧ s.ending = x.ending ∧ s.readSize = x.readSize ∧
      s.buffered + o.size = window x.bytes := by
  rw [Reader.openPcapng] at h
  split at h
  · next block size hpos hle hfound =>
    obtain rfl := Except.ok.inj h
    have hsettled : (Pcapng.State.start.frame x.bytes (window x.bytes)).settled? = some (.ok (block, size)) := by
      have hframe : Pcapng.State.start.frame x.bytes (window x.bytes) = .found block size hpos hle := hfound
      rw [hframe]
      rfl
    obtain ⟨order, rfl⟩ := Pcapng.sectionHeader_of_magic hmagic hsettled
    obtain ⟨hrest, hroom, hbuffered⟩ := consume_filled hle
    refine ⟨⟨Pcapng.dialect, Pcapng.State.start.after (.sectionHeader order), size⟩, (Intake.filled x).consume size,
      ⟨?_, hle, hrest, hroom, ?_, rfl⟩, rfl, rfl, hbuffered⟩
    · exact .pcapng hmagic ((Pcapng.State.steady_frame .start x.bytes).keeps hsettled (Nat.min_le_left _ _))
    · -- The section header is only looked at when the capture is opened, and taken by the first call.
      exact Dialect.next_of_frame (d := Pcapng.dialect) (Intake.fetch_of_found hfound)
  · simp at h
  · simp at h

lemma opens_of_ofStream {x : ByteStream} {reader : Reader} (h : Reader.ofStream x = .ok reader) :
    x.bytes.take 4 = Reader.pcapngMagic ∧ Reader.openPcapng (.filled x) = .ok reader ∨
      x.bytes.take 4 ≠ Reader.pcapngMagic ∧ Reader.openPcap (.filled x) = .ok reader := by
  rw [Reader.ofStream] at h
  cases hi : Intake.ofStream x with
  | error reason => simp [hi] at h
  | ok intake =>
    have hfilled : intake = .filled x := by
      rw [Intake.ofStream] at hi
      repeat' split at hi
      all_goals simp at hi
      all_goals exact hi.symm
    subst hfilled
    simp only [hi] at h
    split at h
    · simp at h
    split at h
    · next hmagic => exact .inl ⟨hmagic, h⟩
    · next hmagic => exact .inr ⟨hmagic, h⟩

lemma leadsTo_of_ofStream {x : ByteStream} {reader : Reader} (h : Reader.ofStream x = .ok reader) :
    ∃ o s, LeadsTo o x.bytes reader s ∧ s.ending = x.ending ∧ s.readSize = x.readSize ∧
      s.buffered + o.size = window x.bytes := by
  rcases opens_of_ofStream h with ⟨hmagic, hopen⟩ | ⟨hmagic, hopen⟩
  · exact leadsTo_of_pcapng hmagic hopen
  · exact leadsTo_of_pcap hmagic hopen

lemma Of.ofStream (h : o.Of bytes) (hsize : o.size ≤ window bytes) (readSize : Nat → Nat) :
    ∃ reader, Reader.ofStream ⟨bytes, .closed, readSize⟩ = .ok reader := by
  have hfilled := @Reader.ofStream_of_filled ⟨bytes, .closed, readSize⟩ rfl
  cases h with
  | @pcap header magic h =>
    have hfour : ¬ window bytes < 4 := Nat.not_lt.mpr (Nat.le_trans (show 4 ≤ Pcap.headerSize by decide) hsize)
    have hheader : Pcap.FileHeader.ofBytes (Intake.filled ⟨bytes, .closed, readSize⟩).rest
        (Intake.filled ⟨bytes, .closed, readSize⟩).buffered = .ok header :=
      Pcap.FileHeader.ofBytes_of_whole h hsize
    rw [hfilled, if_neg hfour, if_neg magic, Reader.openPcap, hheader]
    exact ⟨_, rfl⟩
  | @pcapng block size magic h =>
    have hfour : ¬ window bytes < 4 :=
      Nat.not_lt.mpr (Nat.le_min.mpr ⟨Pcapng.four_le_of_magic magic, show 4 ≤ bufferSize by decide⟩)
    obtain ⟨hpos, hle, hfound⟩ := Scan.eq_found ((Pcapng.State.tight_frame .start bytes).whole h hsize)
    have hsection : Pcapng.State.start.frame (Intake.filled ⟨bytes, .closed, readSize⟩).rest
        (Intake.filled ⟨bytes, .closed, readSize⟩).buffered = .found block size hpos hle := hfound
    rw [hfilled, if_neg hfour, if_pos magic, Reader.openPcapng, hsection]
    exact ⟨_, rfl⟩

end Opening

end CaptureSieve
