import CaptureSieve.Proofs.Capture.Encodings
import Mathlib.Data.List.DropRight

/-!
Sections of pcapng captures. A section header leaves nothing of the section before it, so captures can be put one behind
the other, and a packet has its interface from its own section.
-/

namespace CaptureSieve

namespace Dialect

variable {d : Dialect} {state : d.State} {bytes : List UInt8} {result : Except Fault (d.Value × Nat)}

lemma settled_append (h : (d.scan state bytes bytes.length).settled? = some result) (more : List UInt8) :
    (d.scan state (bytes ++ more) (bytes ++ more).length).settled? = some result := by
  have hnear := d.near state (bytes ++ more) (Nat.le_refl bytes.length)
  rw [List.take_left] at hnear
  rw [hnear] at h
  exact (d.steady state (bytes ++ more)).keeps h (by rw [List.length_append]; exact Nat.le_add_right _ _)

end Dialect

namespace Pcapng

namespace Block

def isSection : Block → Bool
  | sectionHeader _ => true
  | _ => false

def isPacket : Block → Bool
  | packet .. => true
  | _ => false

def interface? : Block → Option Interface
  | interface i => some i
  | _ => none

end Block

inductive Blocks : ByteOrder → List UInt8 → List (Block × Nat) → Prop
  | nil (order : ByteOrder) : Blocks order [] []
  | cons {order : ByteOrder} {bytes : List UInt8} {block : Block} {size : Nat} {blocks : List (Block × Nat)}
      (h : ((State.mk order []).frame bytes bytes.length).settled? = some (.ok (block, size)))
      (later : Blocks ((State.mk order []).after block).order (bytes.drop size) blocks) :
      Blocks order bytes ((block, size) :: blocks)

def interfacesBehind (blocks : List Block) : List Interface :=
  (blocks.rtakeWhile (!·.isSection)).filterMap Block.interface?

/-- The records are those of the packets among the blocks, one for each. A packet has the link type, and its time the
unit and offset, of the interface with its index in the section so far. -/
structure Attributed (blocks : List Block) (records : List Record) : Prop where
  length : records.length = blocks.countP Block.isPacket
  packet : ∀ before index ticks wireLength data after, blocks = before ++ .packet index ticks wireLength data :: after →
    let i := (interfacesBehind before).getD index .unknown
    records[before.countP Block.isPacket]? = some ⟨i.time ticks, i.link, wireLength, data⟩

namespace State

def records : State → List Block → List Record
  | _, [] => []
  | s, block :: blocks => (s.record? block).toList ++ (s.after block).records blocks

def pieces : State → List (Block × Nat) → List Piece
  | _, [] => []
  | s, (block, size) :: blocks => ⟨s.record? block, size⟩ :: (s.after block).pieces blocks

variable (s : State)

lemma records_pieces (blocks : List (Block × Nat)) :
    Piece.records (s.pieces blocks) = s.records (blocks.map Prod.fst) := by
  induction blocks generalizing s with
  | nil => rfl
  | cons b blocks ih => rw [pieces, Piece.records_cons, List.map_cons, records, ih]

lemma records_append (blocks more : List Block) :
    s.records (blocks ++ more) = s.records blocks ++ (blocks.foldl after s).records more := by
  induction blocks generalizing s with
  | nil => rfl
  | cons b blocks ih => rw [List.cons_append, records, records, List.foldl_cons, ih, List.append_assoc]

lemma length_records (blocks : List Block) : (s.records blocks).length = blocks.countP Block.isPacket := by
  induction blocks generalizing s with
  | nil => rfl
  | cons b blocks ih =>
    rw [records, List.length_append, ih, List.countP_cons, Nat.add_comm]
    cases b <;> rfl

lemma map_size_pieces (blocks : List (Block × Nat)) :
    (s.pieces blocks).map Piece.size = blocks.map Prod.snd := by
  induction blocks generalizing s with
  | nil => rfl
  | cons b blocks ih => rw [pieces, List.map_cons, List.map_cons, ih]

lemma interfaces_after (blocks : List Block) : (blocks.foldl after start).interfaces = interfacesBehind blocks := by
  induction blocks using List.reverseRecOn with
  | nil => rfl
  | append_singleton blocks b ih =>
    rw [List.foldl_append, List.foldl_cons, List.foldl_nil, interfacesBehind, List.rtakeWhile_concat]
    cases b with
    | sectionHeader order => rfl
    | interface i =>
      simp only [after, ih, Block.isSection, Bool.not_false, if_true, List.filterMap_append]
      rfl
    | packet => simp [after, ih, Block.isSection, Block.interface?, interfacesBehind]
    | other => simp [after, ih, Block.isSection, Block.interface?, interfacesBehind]

lemma attributed_records (blocks : List Block) : Attributed blocks (start.records blocks) where
  length := start.length_records blocks
  packet := by
    rintro before index ticks wireLength data after rfl i
    rw [records_append, List.getElem?_append_right (Nat.le_of_eq (start.length_records before)), length_records,
      Nat.sub_self]
    simp only [records, record?, Option.toList_some, List.singleton_append, List.getElem?_cons_zero, record,
      interfaceAt, interfaces_after]
    rfl

-- Only the byte order of the section tells what a block is.
lemma order_after {s t : State} (h : s.order = t.order) (block : Block) : (s.after block).order = (t.after block).order := by
  cases block with
  | sectionHeader order => rfl
  | interface i => exact h
  | packet => exact h
  | other => exact h

end State

namespace Blocks

variable {order : ByteOrder} {bytes more : List UInt8} {blocks later : List (Block × Nat)}

lemma of_parses {state : Pcapng.dialect.State} {pieces : List Piece} (h : Pcapng.dialect.Parses state bytes pieces)
    (hwhole : Piece.extent pieces = bytes.length) :
    ∃ blocks, Blocks (State.order state) bytes blocks ∧ (∀ b ∈ blocks, b.2 ≤ bufferSize) ∧
      pieces = State.pieces state blocks := by
  induction h with
  | @last state bytes count h room =>
    obtain rfl := List.length_eq_zero_iff.mp hwhole.symm
    exact ⟨[], .nil _, List.forall_mem_nil _, rfl⟩
  | @piece state bytes block size pieces h room later ih =>
    have hsize := Dialect.size_le_of_settled h
    obtain ⟨blocks, hblocks, hroom, rfl⟩ :=
      ih (by rw [List.length_drop, ← hwhole, Piece.extent, Nat.add_sub_cancel_left])
    have horder := State.order_after (s := ⟨State.order state, []⟩) (t := state) rfl block
    exact ⟨(block, size) :: blocks, .cons h (horder ▸ hblocks), List.forall_mem_cons.mpr ⟨room, hroom⟩, rfl⟩

lemma parses (h : Blocks order bytes blocks) (hroom : ∀ b ∈ blocks, b.2 ≤ bufferSize) {s : State}
    (hstate : s.order = order) :
    Pcapng.dialect.Parses s bytes (s.pieces blocks) ∧ Piece.extent (s.pieces blocks) = bytes.length := by
  induction h generalizing s with
  | nil order => exact ⟨parses_nil s, rfl⟩
  | @cons order bytes block size blocks h later ih =>
    subst hstate
    obtain ⟨hsize, hroom⟩ := List.forall_mem_cons.mp hroom
    have hle : size ≤ bytes.length := Dialect.size_le_of_settled (d := Pcapng.dialect) h
    obtain ⟨hparses, hextent⟩ := ih hroom (State.order_after (s := s) (t := ⟨s.order, []⟩) rfl block)
    refine ⟨.piece h hsize hparses, ?_⟩
    rw [State.pieces, Piece.extent, hextent, List.length_drop]
    exact Nat.add_sub_cancel' hle

lemma size_le (h : Blocks order bytes blocks) {b : Block × Nat} (hb : b ∈ blocks) : b.2 ≤ bytes.length := by
  induction h with
  | nil => simp at hb
  | @cons order bytes block size blocks h later ih =>
    rcases List.mem_cons.mp hb with rfl | hb
    · exact Dialect.size_le_of_settled (d := Pcapng.dialect) h
    · exact Nat.le_trans (ih hb) (by rw [List.length_drop]; exact Nat.sub_le _ _)

lemma opens (hmagic : bytes.take 4 = Reader.pcapngMagic) (h : Blocks .little bytes blocks) :
    ∃ own size rest, blocks = (.sectionHeader own, size) :: rest := by
  cases h with
  | nil => simp [Reader.pcapngMagic] at hmagic
  | @cons _ _ block size rest h later =>
    obtain ⟨own, rfl⟩ := sectionHeader_of_magic hmagic h
    exact ⟨own, size, rest, rfl⟩

lemma of_magic (hmagic : bytes.take 4 = Reader.pcapngMagic) (h : Blocks .little bytes blocks) (order : ByteOrder) :
    Blocks order bytes blocks := by
  obtain ⟨own, size, rest, rfl⟩ := h.opens hmagic
  cases h with
  | cons h later =>
    refine .cons ?_ later
    rw [← h]
    simp only [State.frame, code_of_magic hmagic, if_true]

lemma append (h : Blocks order bytes blocks) (hmagic : more.take 4 = Reader.pcapngMagic)
    (hmore : Blocks .little more later) : Blocks order (bytes ++ more) (blocks ++ later) := by
  induction h with
  | nil order => exact of_magic hmagic hmore order
  | @cons order bytes block size blocks h _ ih =>
    have hle : size ≤ bytes.length := Dialect.size_le_of_settled (d := Pcapng.dialect) h
    apply Blocks.cons (Dialect.settled_append (d := Pcapng.dialect) h more)
    rw [List.drop_append_of_le_length hle]
    exact ih

lemma records_append (hmagic : more.take 4 = Reader.pcapngMagic) (hmore : Blocks .little more later) :
    State.start.records ((blocks ++ later).map Prod.fst) =
      State.start.records (blocks.map Prod.fst) ++ State.start.records (later.map Prod.fst) := by
  obtain ⟨own, size, rest, rfl⟩ := hmore.opens hmagic
  rw [List.map_append, State.records_append]
  rfl

end Blocks

end Pcapng

namespace Source

open Pcapng

variable {x : ByteStream} {bytes : List UInt8} {filter : Option Filter} {source : Source} {blocks : List (Block × Nat)}

lemma blocks_of_clean (hmagic : x.bytes.take 4 = Reader.pcapngMagic) (hx : ofStream x filter = .ok source)
    (hclean : source.drain.failure = none) (hwhole : source.drain.warnings = []) :
    ∃ blocks, Blocks .little x.bytes blocks ∧ (∀ b ∈ blocks, b.2 ≤ bufferSize) ∧
      source.drain.items = (State.start.records (blocks.map Prod.fst)).filter (admits filter) := by
  obtain ⟨o, pieces, hheads, hgives⟩ := gives_of_clean hx hclean
  have hextent : o.size + Piece.extent pieces = x.bytes.length := by
    by_contra htail
    rw [hgives.warnings, if_neg htail] at hwhole
    exact absurd hwhole (List.cons_ne_nil _ _)
  rw [← hheads.extent_iff] at hextent
  obtain ⟨hopens, hsize, hparses⟩ := hheads
  cases hopens with
  | pcap magic => exact absurd hmagic magic
  | @pcapng block size _ h =>
    obtain ⟨order, rfl⟩ := sectionHeader_of_magic hmagic h
    obtain ⟨blocks, hblocks, hroom, rfl⟩ := Blocks.of_parses hparses hextent
    have hfirst : size ≤ bufferSize := Nat.le_trans hsize (Nat.min_le_right _ _)
    refine ⟨(.sectionHeader order, size) :: blocks, .cons h hblocks, List.forall_mem_cons.mpr ⟨hfirst, hroom⟩, ?_⟩
    rw [hgives.items, State.records_pieces]
    rfl

lemma heads_of_blocks (hmagic : bytes.take 4 = Reader.pcapngMagic) (h : Blocks .little bytes blocks)
    (hroom : ∀ b ∈ blocks, b.2 ≤ bufferSize) :
    ∃ (o : Opening) (pieces : List Piece), o.Heads bytes pieces ∧ o.size + Piece.extent pieces = bytes.length ∧
      Piece.records pieces = State.start.records (blocks.map Prod.fst) ∧
      pieces.map Piece.size = blocks.tail.map Prod.snd := by
  obtain ⟨own, size, rest, rfl⟩ := h.opens hmagic
  obtain ⟨hfirst, hroom⟩ := List.forall_mem_cons.mp hroom
  cases h with
  | cons h later =>
    have hle : size ≤ bytes.length := Dialect.size_le_of_settled (d := Pcapng.dialect) h
    obtain ⟨hparses, hextent⟩ := later.parses hroom (s := ⟨own, []⟩) rfl
    have hheads : Opening.Heads ⟨Pcapng.dialect, ⟨own, []⟩, size⟩ bytes (State.pieces ⟨own, []⟩ rest) :=
      ⟨.pcapng hmagic h, Nat.le_min.mpr ⟨hle, hfirst⟩, hparses⟩
    exact ⟨_, _, hheads, hheads.extent_iff.mp hextent, State.records_pieces _ rest, State.map_size_pieces _ rest⟩

lemma gives_blocks_iff (hmagic : bytes.take 4 = Reader.pcapngMagic) (h : Blocks .little bytes blocks)
    (hroom : ∀ b ∈ blocks, b.2 ≤ bufferSize) (filter : Option Filter) :
    (∀ readSize, ∃ source, ofStream ⟨bytes, .closed, readSize⟩ filter = .ok source ∧
      source.Gives ((State.start.records (blocks.map Prod.fst)).filter (admits filter)) []) ↔
      ∀ b ∈ blocks.tail, b.2 ≠ bufferSize := by
  obtain ⟨o, pieces, hheads, hextent, hrecords, hsizes⟩ := heads_of_blocks hmagic h hroom
  have hfree : (∀ b ∈ blocks.tail, b.2 ≠ bufferSize) ↔ ∀ p ∈ pieces, p.size ≠ bufferSize := by
    rw [← List.forall_mem_map (P := (· ≠ bufferSize)), ← hsizes, List.forall_mem_map]
  rw [hfree]
  constructor
  · intro hgives p hp hfull
    obtain ⟨source, hsource, hgives⟩ := hgives fun _ => 1
    obtain ⟨slow, hslow, hfailure⟩ := refused_of_slow hheads ⟨p, hp, hfull⟩ filter
    obtain rfl := Except.ok.inj (hslow.symm.trans hsource)
    simp [hgives.failure] at hfailure
  · intro hfree readSize
    obtain ⟨source, hsource, hgives⟩ := gives_of_heads hheads hfree readSize filter
    rw [if_pos hextent, hrecords] at hgives
    exact ⟨source, hsource, hgives⟩

theorem gives_sections_iff {x y : ByteStream} {front back : Source} {filter : Option Filter}
    {first second : List Record} (hx : x.bytes.take 4 = Reader.pcapngMagic) (hy : y.bytes.take 4 = Reader.pcapngMagic)
    (hfront : ofStream x filter = .ok front) (hback : ofStream y filter = .ok back)
    (hfirst : front.Gives first []) (hsecond : back.Gives second []) :
    ∃ blocks later records more,
      Blocks .little x.bytes blocks ∧ Attributed (blocks.map Prod.fst) records ∧
      Blocks .little y.bytes later ∧ Attributed (later.map Prod.fst) more ∧
      Blocks .little (x.bytes ++ y.bytes) (blocks ++ later) ∧
      Attributed ((blocks ++ later).map Prod.fst) (records ++ more) ∧
      first = records.filter (admits filter) ∧ second = more.filter (admits filter) ∧
      ((∀ readSize, ∃ source, ofStream ⟨x.bytes ++ y.bytes, .closed, readSize⟩ filter = .ok source ∧
        source.Gives (first ++ second) []) ↔ ∀ b ∈ blocks.tail ++ later, b.2 ≠ bufferSize) := by
  obtain ⟨blocks, hblocks, hroom, hitems⟩ := blocks_of_clean hx hfront hfirst.failure hfirst.warnings
  obtain ⟨later, hlater, hlaterRoom, hlaterItems⟩ := blocks_of_clean hy hback hsecond.failure hsecond.warnings
  rw [hfirst.items] at hitems
  rw [hsecond.items] at hlaterItems
  have happend := hblocks.append hy hlater
  have hrecords : State.start.records ((blocks ++ later).map Prod.fst) =
      State.start.records (blocks.map Prod.fst) ++ State.start.records (later.map Prod.fst) :=
    Blocks.records_append hy hlater
  have hmagic : (x.bytes ++ y.bytes).take 4 = Reader.pcapngMagic := by
    rw [List.take_append_of_le_length (four_le_of_magic hx), hx]
  have htail : (blocks ++ later).tail = blocks.tail ++ later := by
    obtain ⟨own, size, rest, rfl⟩ := hblocks.opens hx
    rfl
  have hgives := gives_blocks_iff hmagic happend
    (fun b hb => (List.mem_append.mp hb).elim (hroom b) (hlaterRoom b)) filter
  rw [hrecords, htail, List.filter_append, ← hitems, ← hlaterItems] at hgives
  exact ⟨blocks, later, _, _, hblocks, State.attributed_records _, hlater, State.attributed_records _, happend,
    hrecords ▸ State.attributed_records _, hitems, hlaterItems, hgives⟩

def overRaw : List UInt8 :=
  sectionBytes .big ++ (interfaceBytes .big 101 65535 (some 9) ++ packetBytes .big 0 1_000_000_007 60 [0x45, 0])

-- It names the interface 0, which this section does not have.
def overNothing : List UInt8 := sectionBytes .little ++ packetBytes .little 0 1_000_007 14 [2, 0]

theorem gives_sections_overRaw :
    let first : Record := ⟨⟨1_000_000_007, by decide⟩, .raw, 60, [0x45, 0]⟩
    let second : Record := ⟨⟨1_000_007_000, by decide⟩, .ethernet, 14, [2, 0]⟩
    ∃ front back, ofStream ⟨overRaw, .closed, fun _ => 1⟩ none = .ok front ∧ front.Gives [first] [] ∧
      ofStream ⟨overNothing, .closed, fun _ => 1⟩ none = .ok back ∧ back.Gives [second] [] ∧
      ∀ readSize, ∃ source, ofStream ⟨overRaw ++ overNothing, .closed, readSize⟩ none = .ok source ∧
        source.Gives [first, second] [] := by
  intro first second
  obtain ⟨front, hfront, hfirst⟩ := exists_gives_of_checked
    (show (ofStream ⟨overRaw, .closed, fun _ => 1⟩ none).toOption.any (fun s => s.Gives [first] []) = true by
      decide +kernel)
  obtain ⟨back, hback, hsecond⟩ := exists_gives_of_checked
    (show (ofStream ⟨overNothing, .closed, fun _ => 1⟩ none).toOption.any (fun s => s.Gives [second] []) = true by
      decide +kernel)
  obtain ⟨blocks, later, -, -, hblocks, -, hlater, -, -, -, -, -, hgives⟩ :=
    gives_sections_iff (by decide) (by decide) hfront hback hfirst hsecond
  refine ⟨front, back, hfront, hfirst, hback, hsecond, hgives.mpr fun b hb => Nat.ne_of_lt ?_⟩
  rcases List.mem_append.mp hb with hb | hb
  · exact Nat.lt_of_le_of_lt (hblocks.size_le (List.mem_of_mem_tail hb)) (by decide)
  · exact Nat.lt_of_le_of_lt (hlater.size_le hb) (by decide)

-- With its head and its length at the end it is exactly as large as the buffer.
def fullBlock : List UInt8 := packetBytes .little 0 0 65504 (List.replicate 65504 0)

lemma length_fullBlock : fullBlock.length = bufferSize := by
  rw [fullBlock, packetBytes, length_blockBytes, length_packetContent, List.length_replicate]
  rfl

lemma missing_fullBlock {a : Nat} (hhead : 32 ≤ a) (ha : a < bufferSize) :
    State.frame ⟨.little, []⟩ fullBlock a = .missing (if a < 65532 then 65532 - a else 65536 - a) := by
  set content := packetContent .little 0 0 65504 (List.replicate 65504 0) with hcontent
  have hlength : content.length = 65524 := by
    rw [hcontent, length_packetContent, List.length_replicate]
    rfl
  have hmissing : State.frame ⟨.little, []⟩ (blockBytes .little packetCode content ++ []) a =
      .missing (if a < content.length + 8 then content.length + 8 - a else content.length + 12 - a) :=
    missing_frame [] (by decide) (by decide) (by rw [hlength]; decide) (by rw [hlength]; decide) hhead
      (by rw [hlength]; exact ha)
  rw [hlength, List.append_nil] at hmissing
  exact hmissing

lemma settled_fullBlock {a : Nat} (ha : bufferSize ≤ a) :
    (State.frame ⟨.little, []⟩ fullBlock a).settled? =
      some (.ok (.packet 0 0 65504 (List.replicate 65504 0), bufferSize)) := by
  have hdata : (List.replicate 65504 (0 : UInt8)).length ≤ bufferSize := by
    rw [List.length_replicate]
    decide
  have hthere : fullBlock.length ≤ a := length_fullBlock ▸ ha
  have hsettled := settled_packet ⟨.little, []⟩ 0 0 65504 hdata [] hthere
  rw [List.append_nil] at hsettled
  rw [← length_fullBlock]
  exact hsettled

lemma fetch_fullBlock_more {s : Intake} (hrest : s.rest = fullBlock) (hhead : 32 ≤ s.buffered)
    (hshort : s.buffered < 65532) :
    s.fetch (State.frame ⟨.little, []⟩) = s.readMore.fetch (State.frame ⟨.little, []⟩) ∧
      s.readMore.buffered = s.buffered + min (max 1 (s.readSize s.offset)) (65536 - s.buffered) := by
  have hlength := s.length_rest
  rw [hrest, length_fullBlock, bufferSize] at hlength
  have hmissing := missing_fullBlock hhead (Nat.lt_trans hshort (by decide))
  rw [if_pos hshort, ← hrest] at hmissing
  refine ⟨Intake.fetch_of_more hmissing (by simp only [bufferSize]; omega) (by omega), ?_⟩
  simp only [Intake.readMore, bufferSize]
  omega

lemma yields_fullBlock {s : Intake} (hrest : s.rest = fullBlock) (hclosed : s.ending = .closed)
    (hthere : s.buffered = 65508) (hreads : 28 ≤ s.readSize s.offset) :
    (Pcapng.dialect.reader (⟨.little, []⟩ : State) s).Yields [⟨.epoch, .ethernet, 65504, List.replicate 65504 0⟩] [] := by
  obtain ⟨hmore, hread⟩ := fetch_fullBlock_more hrest (by omega) (by omega)
  rw [Nat.min_eq_right (by omega), hthere] at hread
  obtain ⟨_, hle, hfound⟩ := Scan.eq_found (settled_fullBlock (Nat.le_of_eq hread.symm))
  have hscan : State.frame ⟨.little, []⟩ s.readMore.rest s.readMore.buffered = .found _ _ _ hle := hrest ▸ hfound
  have hfetch := hmore.trans (Intake.fetch_of_found hscan)
  have hempty : (s.readMore.consume bufferSize).rest = [] := by
    simp only [Intake.consume, Nat.min_eq_left hle, Intake.rest_readMore, hrest]
    exact List.drop_of_length_le (Nat.le_of_eq length_fullBlock)
  have hend := (parses_nil ⟨.little, []⟩).yields (List.forall_mem_nil _) hempty hclosed
  exact .record (Dialect.next_of_frame (d := Pcapng.dialect) hfetch) hend

lemma refused_fullBlock {s : Intake} (hrest : s.rest = fullBlock) (hthere : s.buffered = 65480)
    (hreads : s.readSize s.offset = 52) :
    ((Pcapng.dialect.reader (⟨.little, []⟩ : State) s).outlook none).failure =
      some (.capture .pcapng .next .bufferFull) := by
  obtain ⟨hmore, hread⟩ := fetch_fullBlock_more hrest (by omega) (by omega)
  rw [hreads, hthere] at hread
  have hmissing := missing_fullBlock (a := s.readMore.buffered) (by omega) (by rw [hread]; decide)
  rw [← hrest] at hmissing
  have hfull := Intake.fetch_of_full (s := s.readMore) hmissing (by rw [hread]; decide)
  exact Dialect.failure_of_refused (d := Pcapng.dialect) (hmore.trans hfull)

lemma fetch_section {s : Intake} {order : ByteOrder} {rest : List UInt8} (state : State)
    (hrest : s.rest = sectionBytes order ++ rest) (hthere : 28 ≤ s.buffered) :
    s.fetch state.frame = .frame (.sectionHeader order) (s.consume 28) ∧ (s.consume 28).rest = rest ∧
      (s.consume 28).buffered = s.buffered - 28 := by
  obtain ⟨_, _, hfound⟩ := Scan.eq_found (settled_section state order rest hthere)
  rw [← hrest] at hfound
  refine ⟨Intake.fetch_of_found hfound, ?_, ?_⟩
  · simp only [Intake.consume, Nat.min_eq_left hthere, hrest]
    exact List.drop_left' (length_sectionBytes order)
  · simp only [Intake.consume, Nat.min_eq_left hthere]

lemma begins_of_section (rest : List UInt8) (readSize : Nat → Nat) :
    ∃ source s, Begins ⟨Pcapng.dialect, ⟨.little, []⟩, 28⟩ ⟨sectionBytes .little ++ rest, .closed, readSize⟩ none source s ∧
      s.rest = rest ∧ s.buffered = min rest.length (bufferSize - 28) := by
  have hlength : (sectionBytes .little ++ rest).length = 28 + rest.length := by
    rw [List.length_append, length_sectionBytes]
  have hsize : 28 ≤ window (sectionBytes .little ++ rest) := by
    rw [window, hlength]
    exact Nat.le_min.mpr ⟨Nat.le_add_right _ _, by decide⟩
  obtain ⟨source, s, hbegins⟩ := begins_of_opening (of_sectionBytes .little rest) hsize readSize none
  refine ⟨source, s, hbegins, hbegins.rest.trans (List.drop_left' (length_sectionBytes .little)), ?_⟩
  have hbuffered : s.buffered + 28 = min (28 + rest.length) bufferSize := hlength ▸ hbegins.buffered
  simp only [bufferSize] at hbuffered ⊢
  omega

theorem sections_refused_at_fullBlock :
    let x := sectionBytes .little
    let y := sectionBytes .little ++ fullBlock
    ∃ front back both, ofStream ⟨x, .closed, fun _ => 52⟩ none = .ok front ∧ front.Gives [] [] ∧
      ofStream ⟨y, .closed, fun _ => 52⟩ none = .ok back ∧
      back.Gives [⟨.epoch, .ethernet, 65504, List.replicate 65504 0⟩] [] ∧
      ofStream ⟨x ++ y, .closed, fun _ => 52⟩ none = .ok both ∧
      both.drain.failure = some (.capture .pcapng .next .bufferFull) := by
  intro x y
  obtain ⟨front, hfront, hfirst⟩ := exists_gives_of_checked
    (show (ofStream ⟨x, .closed, fun _ => 52⟩ none).toOption.any (fun s => s.Gives [] []) = true by decide +kernel)
  obtain ⟨back, s, hback, hrest, hthere⟩ := begins_of_section fullBlock fun _ => 52
  rw [length_fullBlock] at hthere
  have hreads : s.readSize s.offset = 52 := congrFun hback.readSize s.offset
  have hyields := yields_fullBlock hrest hback.ending hthere (by omega)
  obtain ⟨both, t, hboth, hrest', hthere'⟩ := begins_of_section y fun _ => 52
  have hlength : y.length = 28 + bufferSize := by
    rw [List.length_append, length_sectionBytes, length_fullBlock]
  rw [hlength] at hthere'
  obtain ⟨hsection, hrest'', hthere''⟩ := fetch_section ⟨.little, []⟩ hrest' (by rw [hthere']; decide)
  have hrefused : ((Pcapng.dialect.reader (⟨.little, []⟩ : State) t).outlook none).failure =
      some (.capture .pcapng .next .bufferFull) := by
    rw [Dialect.outlook_of_frame (d := Pcapng.dialect) hsection]
    exact refused_fullBlock hrest'' (by rw [hthere'', hthere']; rfl) (congrFun hboth.readSize _)
  exact ⟨front, back, both, hfront, hfirst, hback.opened, hback.gives hyields, hboth.opened, hboth.fails hrefused⟩

end Source

end CaptureSieve
