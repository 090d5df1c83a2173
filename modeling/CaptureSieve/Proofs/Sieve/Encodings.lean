import CaptureSieve.Proofs.Capture.Encodings
import CaptureSieve.Proofs.Sieve.Reframing

/-!
One list of packets in the encodings that captures use: pcap in either byte order and either unit of time, and pcapng
with one interface. What is read back is the list, so a run over any of them comes out the same.
-/

namespace CaptureSieve

inductive TimeUnit where
  | micros
  | nanos
  deriving DecidableEq

namespace TimeUnit

def perMicro : TimeUnit → Nat
  | micros => 1
  | nanos => 1000

/-- The negative power of ten that an interface names its unit by. -/
def exponent : TimeUnit → UInt8
  | micros => 6
  | nanos => 9

end TimeUnit

structure Sample where
  seconds : UInt32
  micros : Nat
  wireLength : UInt32
  data : List UInt8
  micros_lt : micros < 1_000_000
  length_le : data.length ≤ 65_000

namespace Sample

def ticks (s : Sample) : Nat := s.seconds.toNat * 1_000_000 + s.micros

lemma ticks_lt (s : Sample) : s.ticks < 0x1_0000_0000 * 1_000_000 := by
  have hseconds := s.seconds.toNat_lt
  have hmicros := s.micros_lt
  rw [ticks]
  omega

def record (link : UInt16) (s : Sample) : Record where
  time := ⟨s.ticks * 1000, by have := s.ticks_lt; omega⟩
  link := .ofNat link.toNat
  wireLength := s.wireLength
  data := s.data

end Sample

/-- The encodings of a list of packets. An interface that names no unit counts microseconds. -/
inductive Encoding where
  | pcap (order : ByteOrder) (unit : TimeUnit)
  | pcapng (order : ByteOrder) (unit? : Option TimeUnit)

namespace Encoding

def pcapRow (order : ByteOrder) (unit : TimeUnit) (s : Sample) : List UInt8 :=
  Pcap.rowBytes order s.seconds (UInt32.ofNat (s.micros * unit.perMicro)) s.wireLength s.data

def pcapngRow (order : ByteOrder) (unit : TimeUnit) (s : Sample) : List UInt8 :=
  Pcapng.packetBytes order 0 (UInt64.ofNat (s.ticks * unit.perMicro)) s.wireLength s.data

def bytes (snapLength : UInt32) (link : UInt16) (samples : List Sample) : Encoding → List UInt8
  | pcap order unit =>
    Pcap.headerBytes order (unit = .nanos) snapLength link ++ samples.flatMap (pcapRow order unit)
  | pcapng order unit? =>
    Pcapng.sectionBytes order ++ (Pcapng.interfaceBytes order link snapLength (unit?.map TimeUnit.exponent) ++
      samples.flatMap (pcapngRow order (unit?.getD .micros)))

variable (snapLength : UInt32) (link : UInt16)

lemma ofWords_sample (unit : TimeUnit) (s : Sample) :
    Instant.ofWords (unit = .nanos) s.seconds (UInt32.ofNat (s.micros * unit.perMicro)) = (s.record link).time := by
  have hmicros := s.micros_lt
  have hfraction : (UInt32.ofNat (s.micros * unit.perMicro)).toNat = s.micros * unit.perMicro := by
    apply UInt32.toNat_ofNat_of_lt'
    cases unit <;> simp only [TimeUnit.perMicro, UInt32.size] <;> omega
  simp only [Instant.ofWords, hfraction, Sample.record, Sample.ticks, Instant.mk.injEq]
  cases unit <;> simp [TimeUnit.perMicro] <;> omega

lemma unitOf_exponent (unit? : Option TimeUnit) :
    Pcapng.unitOf (unit?.map TimeUnit.exponent) = 1_000_000 * (unit?.getD .micros).perMicro := by
  cases unit? with
  | none => rfl
  | some unit => cases unit <;> decide

lemma time_sample (unit? : Option TimeUnit) (s : Sample) :
    (⟨.ofNat link.toNat, Pcapng.unitOf (unit?.map TimeUnit.exponent), 0⟩ : Pcapng.Interface).time
      (UInt64.ofNat (s.ticks * (unit?.getD .micros).perMicro)) = (s.record link).time := by
  rw [unitOf_exponent]
  generalize unit?.getD .micros = unit
  have hticks := s.ticks_lt
  have hmicros := s.micros_lt
  have hword : (UInt64.ofNat (s.ticks * unit.perMicro)).toNat = s.ticks * unit.perMicro := by
    apply UInt64.toNat_ofNat_of_lt'
    cases unit <;> simp only [TimeUnit.perMicro, UInt64.size] <;> omega
  have hpos : max 1 (1_000_000 * unit.perMicro) = 1_000_000 * unit.perMicro := by cases unit <;> decide
  simp only [Pcapng.Interface.time, hword, hpos, Sample.record, Instant.mk.injEq]
  cases unit <;> simp only [TimeUnit.perMicro, Nat.reduceMul] <;> omega

def pieces (row : Sample → List UInt8) (samples : List Sample) : List Piece :=
  samples.map fun s => ⟨some (s.record link), (row s).length⟩

lemma records_pieces (row : Sample → List UInt8) (samples : List Sample) :
    Piece.records (pieces link row samples) = samples.map (Sample.record link) := by
  rw [Piece.records, pieces, List.filterMap_map]
  exact congrFun List.filterMap_eq_map samples

lemma extent_pieces (row : Sample → List UInt8) (samples : List Sample) :
    Piece.extent (pieces link row samples) = (samples.flatMap row).length := by
  induction samples with
  | nil => rfl
  | cons s samples ih =>
    rw [List.flatMap_cons, List.length_append, ← ih]
    rfl

lemma length_pcapRow (order : ByteOrder) (unit : TimeUnit) (s : Sample) :
    (pcapRow order unit s).length = 16 + s.data.length := Pcap.length_rowBytes ..

lemma length_pcapngRow (order : ByteOrder) (unit : TimeUnit) (s : Sample) :
    (pcapngRow order unit s).length = Pcapng.padded s.data.length + 32 := by
  rw [pcapngRow, Pcapng.packetBytes, Pcapng.length_blockBytes, Pcapng.length_packetContent]
  omega

lemma pcapRow_lt (order : ByteOrder) (unit : TimeUnit) (s : Sample) : (pcapRow order unit s).length < bufferSize := by
  have hlength := s.length_le
  rw [length_pcapRow]
  simp only [bufferSize]
  omega

lemma pcapngRow_lt (order : ByteOrder) (unit : TimeUnit) (s : Sample) :
    (pcapngRow order unit s).length < bufferSize := by
  have hlength := s.length_le
  rw [length_pcapngRow]
  simp only [bufferSize, Pcapng.padded]
  omega

lemma parses_pcapRows (order : ByteOrder) (unit : TimeUnit) (samples : List Sample) :
    Pcap.dialect.Parses ⟨⟨order, unit = .nanos, false⟩, .ofNat link.toNat⟩ (samples.flatMap (pcapRow order unit))
      (pieces link (pcapRow order unit) samples) := by
  set header : Pcap.FileHeader := ⟨⟨order, unit = .nanos, false⟩, .ofNat link.toNat⟩
  have hscan : ∀ s ∈ samples, ∀ rest, (Pcap.dialect.scan header (pcapRow order unit s ++ rest)
      (pcapRow order unit s ++ rest).length).settled? = some (.ok (s.record link, (pcapRow order unit s).length)) := by
    intro s _ rest
    have hword : s.data.length < 0x1_0000_0000 := Nat.lt_of_le_of_lt s.length_le (by decide)
    have hthere : 16 + s.data.length ≤ (pcapRow order unit s ++ rest).length := by
      rw [List.length_append, length_pcapRow]
      exact Nat.le_add_right _ _
    have hsettled := Pcap.settled_row order (unit = .nanos) link rest s.seconds
      (UInt32.ofNat (s.micros * unit.perMicro)) s.wireLength hword hthere
    rw [ofWords_sample link] at hsettled
    rw [length_pcapRow]
    exact hsettled
  have hend : Pcap.dialect.Parses header [] [] := .last (show header.frame [] 0 = .missing 16 from rfl) (by decide)
  have hparses := Dialect.Parses.rows hscan (fun s _ => Nat.le_of_lt (pcapRow_lt order unit s)) (fun _ _ => rfl) hend
  rw [List.append_nil, List.append_nil] at hparses
  exact hparses

lemma parses_pcapngRows (order : ByteOrder) (unit? : Option TimeUnit) (samples : List Sample) :
    Pcapng.dialect.Parses ⟨order, [⟨.ofNat link.toNat, Pcapng.unitOf (unit?.map TimeUnit.exponent), 0⟩]⟩
      (samples.flatMap (pcapngRow order (unit?.getD .micros)))
      (pieces link (pcapngRow order (unit?.getD .micros)) samples) := by
  set state : Pcapng.State := ⟨order, [⟨.ofNat link.toNat, Pcapng.unitOf (unit?.map TimeUnit.exponent), 0⟩]⟩ with hstate
  set unit := unit?.getD .micros with hunit
  have hscan : ∀ s ∈ samples, ∀ rest, (Pcapng.dialect.scan state (pcapngRow order unit s ++ rest)
      (pcapngRow order unit s ++ rest).length).settled? =
        some (.ok (.packet 0 (UInt64.ofNat (s.ticks * unit.perMicro)) s.wireLength s.data,
          (pcapngRow order unit s).length)) := by
    intro s _ rest
    have hlength : s.data.length ≤ bufferSize := Nat.le_trans s.length_le (by decide)
    have hthere : (pcapngRow order unit s).length ≤ (pcapngRow order unit s ++ rest).length := by
      rw [List.length_append]
      exact Nat.le_add_right _ _
    exact Pcapng.settled_packet state 0 _ s.wireLength hlength rest hthere
  have hparses := Dialect.Parses.rows hscan (fun s _ => Nat.le_of_lt (pcapngRow_lt order unit s)) (fun _ _ => rfl)
    (Pcapng.parses_nil state)
  have hrecord : ∀ s : Sample, Pcapng.dialect.record? state
      (.packet 0 (UInt64.ofNat (s.ticks * unit.perMicro)) s.wireLength s.data) = some (s.record link) := by
    intro s
    have htime := time_sample link unit? s
    rw [← hunit] at htime
    simp only [Pcapng.dialect, Pcapng.State.record?, Pcapng.State.record, Pcapng.State.interfaceAt, hstate,
      List.getD_cons_zero, htime]
    rfl
  simp only [hrecord, List.append_nil] at hparses
  exact hparses

structure Holds (samples : List Sample) (bytes : List UInt8) (o : Opening) (pieces : List Piece) : Prop where
  heads : o.Heads bytes pieces
  records : Piece.records pieces = samples.map (Sample.record link)
  sizes : ∀ p ∈ pieces, p.size < bufferSize
  whole : o.size + Piece.extent pieces = bytes.length

lemma holds_pcap (order : ByteOrder) (unit : TimeUnit) (samples : List Sample) :
    ∃ o pieces, Holds link samples (bytes snapLength link samples (.pcap order unit)) o pieces := by
  refine ⟨⟨Pcap.dialect, ⟨⟨order, unit = .nanos, false⟩, .ofNat link.toNat⟩, Pcap.headerSize⟩,
    pieces link (pcapRow order unit) samples, ⟨Pcap.of_headerBytes .., ?_, ?_⟩, records_pieces .., ?_, ?_⟩
  · rw [bytes, window, List.length_append, Pcap.length_headerBytes]
    exact Nat.le_min.mpr ⟨Nat.le_add_right _ _, show 24 ≤ bufferSize by decide⟩
  · rw [bytes, List.drop_left' (Pcap.length_headerBytes ..)]
    exact parses_pcapRows link order unit samples
  · intro p hp
    obtain ⟨s, -, rfl⟩ := List.mem_map.mp hp
    exact pcapRow_lt order unit s
  · rw [bytes, List.length_append, Pcap.length_headerBytes, extent_pieces]

lemma holds_pcapng (order : ByteOrder) (unit? : Option TimeUnit) (samples : List Sample) :
    ∃ o pieces, Holds link samples (bytes snapLength link samples (.pcapng order unit?)) o pieces := by
  set description := Pcapng.interfaceBytes order link snapLength (unit?.map TimeUnit.exponent) with hdescription
  set rows := samples.flatMap (pcapngRow order (unit?.getD .micros)) with hrows
  have hshort : description.length < bufferSize := by
    rw [hdescription, Pcapng.interfaceBytes, Pcapng.length_blockBytes, Pcapng.length_interfaceContent]
    split <;> decide
  have hthere : description.length ≤ (description ++ rows).length := by
    rw [List.length_append]
    exact Nat.le_add_right _ _
  have hparses : Pcapng.dialect.Parses ⟨order, []⟩ (description ++ rows)
      (⟨none, description.length⟩ :: pieces link (pcapngRow order (unit?.getD .micros)) samples) := by
    have hinterface := Pcapng.settled_interface ⟨order, []⟩ link snapLength (unit?.map TimeUnit.exponent) rows hthere
    apply @Dialect.Parses.piece Pcapng.dialect ⟨order, []⟩ _ _ _ _ hinterface (Nat.le_of_lt hshort)
    rw [List.drop_left' rfl]
    exact parses_pcapngRows link order unit? samples
  refine ⟨⟨Pcapng.dialect, ⟨order, []⟩, 28⟩,
    ⟨none, description.length⟩ :: pieces link (pcapngRow order (unit?.getD .micros)) samples,
    ⟨Pcapng.of_sectionBytes .., ?_, ?_⟩, records_pieces link _ samples, ?_, ?_⟩
  · rw [bytes, window, List.length_append, Pcapng.length_sectionBytes]
    exact Nat.le_min.mpr ⟨Nat.le_add_right _ _, show 28 ≤ bufferSize by decide⟩
  · rw [bytes, List.drop_left' (Pcapng.length_sectionBytes order)]
    exact hparses
  · refine List.forall_mem_cons.mpr ⟨hshort, fun p hp => ?_⟩
    obtain ⟨s, -, rfl⟩ := List.mem_map.mp hp
    exact pcapngRow_lt order (unit?.getD .micros) s
  · rw [bytes, List.length_append, List.length_append, Pcapng.length_sectionBytes, Piece.extent, extent_pieces]

lemma gives_of_bytes (e : Encoding) (samples : List Sample) (readSize : Nat → Nat) :
    ∃ source, Source.ofStream ⟨e.bytes snapLength link samples, .closed, readSize⟩ none = .ok source ∧
      source.Gives (samples.map (Sample.record link)) [] := by
  obtain ⟨o, pieces, hholds⟩ : ∃ o pieces, Holds link samples (e.bytes snapLength link samples) o pieces := by
    cases e with
    | pcap order unit => exact holds_pcap snapLength link order unit samples
    | pcapng order unit? => exact holds_pcapng snapLength link order unit? samples
  have hfree : ∀ p ∈ pieces, p.size ≠ bufferSize := fun p hp => Nat.ne_of_lt (hholds.sizes p hp)
  obtain ⟨source, hsource, hgives⟩ := Source.gives_of_heads hholds.heads hfree readSize none
  have hall : (Piece.records pieces).filter (Source.admits none) = samples.map (Sample.record link) := by
    rw [hholds.records]
    exact List.filter_eq_self.mpr fun _ _ => rfl
  rw [if_pos hholds.whole, hall] at hgives
  exact ⟨source, hsource, hgives⟩

end Encoding

namespace Sieve

theorem distill_of_encoding (e : Encoding) (snapLength : UInt32) (link : UInt16) (samples : List Sample)
    (readSize : Nat → Nat) :
    (∃ source, Source.ofStream ⟨e.bytes snapLength link samples, .closed, readSize⟩ none = .ok source ∧
      source.Gives (samples.map (Sample.record link)) []) ∧
    ∀ (e' : Encoding) (snapLength' : UInt32) (readSize' : Nat → Nat) settings filter dns sink,
      SameOutcome (distill settings ⟨⟨e.bytes snapLength link samples, .closed, readSize⟩, filter, dns⟩ sink)
        (distill settings ⟨⟨e'.bytes snapLength' link samples, .closed, readSize'⟩, filter, dns⟩ sink) := by
  refine ⟨e.gives_of_bytes snapLength link samples readSize, ?_⟩
  intro e' snapLength' readSize' settings filter dns sink
  obtain ⟨s, hs, hgives⟩ := e.gives_of_bytes snapLength link samples readSize
  obtain ⟨t, ht, hgives'⟩ := e'.gives_of_bytes snapLength' link samples readSize'
  have hrecords : s.outlook.records = t.outlook.records := by
    rw [← Source.drain_items hgives.outlook_failure, ← Source.drain_items hgives'.outlook_failure, hgives.items,
      hgives'.items]
  have halike : List.Forall₂ Record.Alike s.outlook.records t.outlook.records := by
    rw [hrecords]
    exact List.forall₂_same.mpr fun r _ => .refl r
  apply distill_of_alike
  exact Source.alike_of_ofStream hs ht halike (by rw [hgives.outlook_failure, hgives'.outlook_failure])

end Sieve

end CaptureSieve
