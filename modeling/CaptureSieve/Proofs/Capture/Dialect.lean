import CaptureSieve.Proofs.Capture.Cuts
import CaptureSieve.Proofs.Capture.Frames

/-!
Captures as rows of pieces, in either format. Cut short, a row keeps the pieces before the cut; a reader takes piece
after piece and warns of what is left behind the last.
-/

namespace CaptureSieve

/-- A capture format: the pieces of its captures, with the record that a piece may stand for, and their reading. -/
structure Dialect where
  format : Format
  State : Type
  Value : Type
  scan : State → Framing Value
  after : State → Value → State
  record? : State → Value → Option Record
  reader : State → Intake → Reader
  steady : ∀ state bytes, Steady (scan state bytes)
  tight : ∀ state bytes, Tight 0 (scan state bytes)
  near : ∀ state, (scan state).Near
  format_reader : ∀ state s, (reader state s).format = format
  next_reader : ∀ state s, (reader state s).next =
    match s.fetch (scan state) with
    | .frame value next =>
      match record? state value with
      | some r => .record r (reader (after state value) next)
      | none => (reader (after state value) next).next
    | .finished => .finished
    | .truncated => .truncated
    | .failed fault t => .failed (Step.failure format fault) (reader state t)

def Pcap.dialect : Dialect where
  format := .pcap
  State := FileHeader
  Value := Record
  scan := FileHeader.frame
  after header _ := header
  record? _ r := some r
  reader := .pcap
  steady := FileHeader.steady_frame
  tight := FileHeader.tight_frame
  near := FileHeader.near_frame
  format_reader _ _ := rfl
  next_reader header s := by
    simp only [Reader.next, Reader.nextPcap]
    cases s.fetch header.frame <;> rfl

def Pcapng.State.record? (state : State) : Block → Option Record
  | .packet interface ticks wireLength data => some (state.record interface ticks wireLength data)
  | _ => none

def Pcapng.dialect : Dialect where
  format := .pcapng
  State := State
  Value := Block
  scan := State.frame
  after := State.after
  record? := State.record?
  reader := .pcapng
  steady := State.steady_frame
  tight state bytes := (state.tight_frame bytes).mono (Nat.zero_le _)
  near := State.near_frame
  format_reader _ _ := rfl
  next_reader state s := by
    simp only [Reader.next]
    rw [Reader.nextPcapng_eq]
    cases s.fetch state.frame with
    | frame block next => cases block <;> rfl
    | finished => rfl
    | truncated => rfl
    | failed fault t => rfl

/-- A stretch of a capture that stands for a record or for something else. -/
structure Piece where
  record? : Option Record
  size : Nat

def Entry.piece (link : LinkType) (e : Entry) : Piece := ⟨some (e.record link), e.size⟩

@[simp] lemma Entry.size_piece (link : LinkType) (e : Entry) : (e.piece link).size = e.size := rfl

namespace Piece

def records (pieces : List Piece) : List Record := pieces.filterMap Piece.record?

def extent : List Piece → Nat
  | [] => 0
  | p :: rest => p.size + extent rest

lemma records_cons (p : Piece) (pieces : List Piece) :
    records (p :: pieces) = p.record?.toList ++ records pieces := by
  rw [records, List.filterMap_cons]
  cases p.record? <;> rfl

def within : Nat → List Piece → List Piece
  | _, [] => []
  | n, p :: rest => if p.size ≤ n then p :: within (n - p.size) rest else []

lemma within_initial (n : Nat) (pieces : List Piece) : within n pieces <+: pieces := by
  induction pieces generalizing n with
  | nil => exact List.prefix_rfl
  | cons p rest ih =>
    rw [within]
    split
    · exact (List.prefix_cons_inj p).mpr (ih (n - p.size))
    · exact List.nil_prefix

lemma mem_of_within {n : Nat} {pieces : List Piece} {p : Piece} (h : p ∈ within n pieces) : p ∈ pieces :=
  (within_initial n pieces).subset h

end Piece

namespace Dialect

variable {d : Dialect} {state : d.State} {bytes : List UInt8} {pieces : List Piece} {s : Intake}

/-- The bytes are these pieces, one behind the other, with less than another piece behind the last. -/
inductive Parses (d : Dialect) : d.State → List UInt8 → List Piece → Prop
  | last {state : d.State} {bytes : List UInt8} {count : Nat} (h : d.scan state bytes bytes.length = .missing count)
      (room : bytes.length + count < bufferSize) : Parses d state bytes []
  | piece {state : d.State} {bytes : List UInt8} {value : d.Value} {size : Nat} {pieces : List Piece}
      (h : (d.scan state bytes bytes.length).settled? = some (.ok (value, size))) (room : size ≤ bufferSize)
      (later : Parses d (d.after state value) (bytes.drop size) pieces) :
      Parses d state bytes (⟨d.record? state value, size⟩ :: pieces)

lemma Parses.unique (h : d.Parses state bytes pieces) {pieces' : List Piece} (h' : d.Parses state bytes pieces') :
    pieces = pieces' := by
  induction h generalizing pieces' with
  | last h =>
    cases h' with
    | last => rfl
    | piece h' => simp [h, Scan.settled?] at h'
  | piece h room later ih =>
    cases h' with
    | last h' => simp [h', Scan.settled?] at h
    | piece h' room' later' =>
      obtain ⟨rfl, rfl⟩ : _ ∧ _ := by simpa using h.symm.trans h'
      rw [ih later']

lemma scan_take (d : Dialect) (state : d.State) (bytes : List UInt8) (k : Nat) {a : Nat}
    (ha : a ≤ (bytes.take k).length) : d.scan state (bytes.take k) a = d.scan state bytes a :=
  d.near state bytes (Nat.le_trans ha (List.length_take_le k bytes))

lemma missing_of_less {count : Nat} (h : d.scan state bytes bytes.length = .missing count)
    (room : bytes.length + count < bufferSize) {a : Nat} (ha : a ≤ bytes.length) :
    ∃ more, d.scan state bytes a = .missing more ∧ a + more < bufferSize := by
  have hsteady := d.steady state bytes
  have hunsettled : (d.scan state bytes a).settled? = none := by
    by_contra hsettled
    obtain ⟨result, hresult⟩ := Option.ne_none_iff_exists'.mp hsettled
    have hkept := hsteady.keeps hresult ha
    simp [h, Scan.settled?] at hkept
  obtain ⟨more, hmore⟩ := Scan.eq_missing hunsettled
  refine ⟨more, hmore, ?_⟩
  by_contra hfull
  obtain ⟨c, hc, hnever⟩ := hsteady.refuses hmore (Nat.not_lt.mp hfull) ha (by omega)
  obtain rfl := Scan.missing.inj (h.symm.trans hc)
  omega

lemma size_le_of_settled {a : Nat} {value : d.Value} {size : Nat}
    (h : (d.scan state bytes a).settled? = some (.ok (value, size))) : size ≤ a := by
  obtain ⟨-, hle, -⟩ := Scan.eq_found h
  exact hle

lemma Parses.take (h : d.Parses state bytes pieces) (hfree : ∀ p ∈ pieces, p.size ≠ bufferSize) (k : Nat) :
    d.Parses state (bytes.take k) (Piece.within k pieces) := by
  induction h generalizing k with
  | @last state bytes count h room =>
    obtain ⟨more, hmore, hroom⟩ := missing_of_less h room (List.length_take_le' k bytes)
    rw [← d.scan_take state bytes k (Nat.le_refl _)] at hmore
    exact .last hmore hroom
  | @piece state bytes value size pieces h room later ih =>
    obtain ⟨hsize, hlater⟩ := List.forall_mem_cons.mp hfree
    have htight := d.tight state bytes
    by_cases hk : size ≤ k
    · have hlength : size ≤ (bytes.take k).length := by
        rw [List.length_take]
        exact Nat.le_min.mpr ⟨hk, size_le_of_settled h⟩
      have hwhole := htight.whole h hlength
      rw [← d.scan_take state bytes k (Nat.le_refl _)] at hwhole
      rw [Piece.within, if_pos hk]
      apply Parses.piece hwhole room
      rw [List.drop_take]
      exact ih hlater (k - size)
    · have hshort : (bytes.take k).length < size := Nat.lt_of_le_of_lt (List.length_take_le k bytes) (Nat.not_le.mp hk)
      obtain ⟨count, hcount, -, hle⟩ := htight.part h hshort
      rw [← d.scan_take state bytes k (Nat.le_refl _)] at hcount
      rw [Piece.within, if_neg hk]
      exact .last hcount (Nat.lt_of_le_of_lt hle (Nat.lt_of_le_of_ne room hsize))

end Dialect

namespace Reader

inductive Yields : Reader → List Record → List Warning → Prop
  | record {reader next : Reader} {r : Record} {records : List Record} {warnings : List Warning}
      (h : reader.next = .record r next) (later : Yields next records warnings) : Yields reader (r :: records) warnings
  | finished {reader : Reader} (h : reader.next = .finished) : Yields reader [] []
  | truncated {reader : Reader} (h : reader.next = .truncated) : Yields reader [] [.partialTail reader.format]

variable {reader other : Reader} {records : List Record} {warnings : List Warning}

lemma Yields.congr (h : reader.Yields records warnings) (hnext : other.next = reader.next)
    (hformat : other.format = reader.format) : other.Yields records warnings := by
  cases h with
  | record h later => exact .record (hnext.trans h) later
  | finished h => exact .finished (hnext.trans h)
  | truncated h =>
    rw [← hformat]
    exact .truncated (hnext.trans h)

lemma outlook_congr (hnext : other.next = reader.next) (filter : Option Filter) :
    other.outlook filter = reader.outlook filter := by
  cases hn : reader.next with
  | record r next => rw [outlook_of_record hn, outlook_of_record (hnext.trans hn)]
  | finished => rw [outlook_of_finished hn, outlook_of_finished (hnext.trans hn)]
  | truncated => rw [outlook_of_truncated hn, outlook_of_truncated (hnext.trans hn)]
  | failed e state => rw [outlook_of_failed hn, outlook_of_failed (hnext.trans hn)]

lemma Yields.outlook (h : reader.Yields records warnings) : reader.outlook none = ⟨records, none⟩ := by
  induction h with
  | record h later ih =>
    rw [outlook_of_record h, ih]
    rfl
  | finished h => rw [outlook_of_finished h]
  | truncated h => rw [outlook_of_truncated h]

end Reader

namespace Dialect

variable {d : Dialect} {state : d.State} {bytes : List UInt8} {pieces : List Piece} {s : Intake}

lemma next_of_frame {value : d.Value} {next : Intake} (h : s.fetch (d.scan state) = .frame value next) :
    (d.reader state s).next =
      match d.record? state value with
      | some r => .record r (d.reader (d.after state value) next)
      | none => (d.reader (d.after state value) next).next := by
  rw [d.next_reader, h]

lemma outlook_of_frame {value : d.Value} {next : Intake} (h : s.fetch (d.scan state) = .frame value next) :
    (d.reader state s).outlook none =
      ⟨(d.record? state value).toList ++ ((d.reader (d.after state value) next).outlook none).records,
        ((d.reader (d.after state value) next).outlook none).failure⟩ := by
  have hnext := next_of_frame h
  cases hr : d.record? state value with
  | some r =>
    rw [hr] at hnext
    rw [Reader.outlook_of_record hnext]
    rfl
  | none =>
    rw [hr] at hnext
    exact Reader.outlook_congr hnext none

lemma records_of_no_frame (h : ∀ value next, s.fetch (d.scan state) ≠ .frame value next) :
    ((d.reader state s).outlook none).records = [] := by
  have hnext := d.next_reader state s
  cases hfetch : s.fetch (d.scan state) with
  | frame value next => exact absurd hfetch (h value next)
  | finished =>
    rw [hfetch] at hnext
    rw [Reader.outlook_of_finished hnext]
  | truncated =>
    rw [hfetch] at hnext
    rw [Reader.outlook_of_truncated hnext]
  | failed fault t =>
    rw [hfetch] at hnext
    rw [Reader.outlook_of_failed hnext]

lemma yields_of_frame {value : d.Value} {size : Nat} {next : Intake} (h : s.fetch (d.scan state) = .frame value next)
    (hsize : size ≤ s.rest.length) (hrest : next.rest = s.rest.drop size)
    (later : (d.reader (d.after state value) next).Yields (Piece.records pieces)
      (if Piece.extent pieces = next.rest.length then [] else [.partialTail d.format])) :
    (d.reader state s).Yields (Piece.records (⟨d.record? state value, size⟩ :: pieces))
      (if Piece.extent (⟨d.record? state value, size⟩ :: pieces) = s.rest.length then [] else
        [.partialTail d.format]) := by
  have hextent : Piece.extent (⟨d.record? state value, size⟩ :: pieces) = s.rest.length ↔
      Piece.extent pieces = next.rest.length := by
    simp only [Piece.extent, hrest, List.length_drop]
    omega
  have hnext := next_of_frame h
  simp only [Piece.records_cons, hextent]
  cases hr : d.record? state value with
  | some r =>
    rw [hr] at hnext
    exact .record hnext later
  | none =>
    rw [hr] at hnext
    exact later.congr hnext (by rw [d.format_reader, d.format_reader])

lemma Parses.yields (h : d.Parses state bytes pieces) (hfree : ∀ p ∈ pieces, p.size ≠ bufferSize)
    (hrest : s.rest = bytes) (hclosed : s.ending = .closed) :
    (d.reader state s).Yields (Piece.records pieces)
      (if Piece.extent pieces = bytes.length then [] else [.partialTail d.format]) := by
  induction h generalizing s with
  | @last state bytes count h room =>
    subst hrest
    have hfetch := Intake.fetch_of_part (d.steady state s.rest) hclosed h room
    have hnext := d.next_reader state s
    rw [hfetch] at hnext
    by_cases hempty : s.rest = []
    · rw [if_pos hempty] at hnext
      rw [if_pos (by rw [hempty]; rfl)]
      exact .finished hnext
    · rw [if_neg hempty] at hnext
      rw [if_neg (fun hzero => hempty (List.length_eq_zero_iff.mp hzero.symm)), ← d.format_reader state s]
      exact .truncated hnext
  | @piece state bytes value size pieces h room later ih =>
    subst hrest
    obtain ⟨hsize, hlater⟩ := List.forall_mem_cons.mp hfree
    rcases Intake.fetch_of_whole (d.tight state s.rest) h with ⟨next, hfetch, hrest⟩ | ⟨-, hlarge⟩
    · obtain ⟨hending, -, -⟩ := Intake.fetch_frame_keeps hfetch
      have hyields := ih hlater hrest (hending.trans hclosed)
      rw [← hrest] at hyields
      exact yields_of_frame hfetch (size_le_of_settled h) hrest hyields
    · exact absurd (Nat.le_antisymm room hlarge) hsize

lemma yields_of_part (h : s.fetch (d.scan state) = .finished ∨ s.fetch (d.scan state) = .truncated) :
    ∃ pieces, d.Parses state s.rest pieces ∧ (d.reader state s).Yields (Piece.records pieces)
      (if Piece.extent pieces = s.rest.length then [] else [.partialTail d.format]) := by
  obtain ⟨hclosed, count, hpart, hroom⟩ := Intake.part_of_fetch h
  have hparses := Parses.last hpart hroom
  exact ⟨[], hparses, hparses.yields (List.forall_mem_nil _) rfl hclosed⟩

lemma yields_of_clean (hs : s.buffered ≤ bufferSize) (h : ((d.reader state s).outlook none).failure = none) :
    ∃ pieces, d.Parses state s.rest pieces ∧ (d.reader state s).Yields (Piece.records pieces)
      (if Piece.extent pieces = s.rest.length then [] else [.partialTail d.format]) := by
  induction hn : s.rest.length using Nat.strongRecOn generalizing state s with
  | ind n ih =>
    subst hn
    cases hfetch : s.fetch (d.scan state) with
    | frame value next =>
      obtain ⟨size, hwhole, hroom, hrest⟩ := Intake.whole_of_fetch (d.steady state s.rest) hs hfetch
      obtain ⟨-, -, hless⟩ := Intake.fetch_frame_keeps hfetch
      rw [outlook_of_frame hfetch] at h
      obtain ⟨pieces, hparses, hyields⟩ := ih _ (Intake.fetch_lt hfetch) (Nat.le_of_lt (hless hs)) h rfl
      exact ⟨_, .piece hwhole hroom (hrest ▸ hparses),
        yields_of_frame hfetch (size_le_of_settled hwhole) hrest hyields⟩
    | finished => exact yields_of_part (.inl hfetch)
    | truncated => exact yields_of_part (.inr hfetch)
    | failed fault t =>
      have hnext := d.next_reader state s
      rw [hfetch] at hnext
      simp [Reader.outlook_of_failed hnext] at h

lemma failure_of_refused {t : Intake} (h : s.fetch (d.scan state) = .failed .bufferFull t) :
    ((d.reader state s).outlook none).failure = some (Step.failure d.format .bufferFull) := by
  have hnext := d.next_reader state s
  rw [h] at hnext
  rw [Reader.outlook_of_failed hnext]

lemma failure_of_lacking {value : d.Value}
    (h : (d.scan state bytes bytes.length).settled? = some (.ok (value, bufferSize)))
    (hrest : s.rest = bytes.take (bufferSize - 1)) :
    ((d.reader state s).outlook none).failure = some (Step.failure d.format .bufferFull) := by
  have hle := size_le_of_settled h
  have hpos : 0 < bufferSize := by decide
  have hlength : s.rest.length + 1 = bufferSize := by
    rw [hrest, List.length_take]
    omega
  have hpart : ∀ a ≤ s.rest.length, ∃ count, d.scan state s.rest a = .missing count ∧ 0 < count := by
    intro a ha
    obtain ⟨count, hcount, hpos, -⟩ := (d.tight state bytes).part h (show a < bufferSize by omega)
    rw [hrest] at ha
    refine ⟨count, ?_, hpos⟩
    rw [hrest, d.scan_take state bytes _ ha, hcount]
  obtain ⟨t, hfetch⟩ := Intake.fetch_of_lacking hlength hpart
  exact failure_of_refused hfetch

lemma Parses.refused {before after : List Piece} {p : Piece} (h : d.Parses state bytes (before ++ p :: after))
    (hfull : p.size = bufferSize) :
    Piece.extent before + bufferSize ≤ bytes.length ∧
    ∀ s : Intake, s.rest = bytes.take (Piece.extent before + (bufferSize - 1)) →
      ((d.reader state s).outlook none).failure = some (Step.failure d.format .bufferFull) := by
  induction before generalizing state bytes with
  | nil =>
    cases h with
    | @piece _ _ value size _ h room later =>
      obtain rfl : size = bufferSize := hfull
      rw [Piece.extent, Nat.zero_add, Nat.zero_add]
      exact ⟨size_le_of_settled h, fun s hrest => failure_of_lacking h hrest⟩
  | cons g before ih =>
    cases h with
    | @piece _ _ value size _ h room later =>
      have hle := size_le_of_settled h
      obtain ⟨hextent, hrefused⟩ := ih later
      rw [List.length_drop] at hextent
      simp only [Piece.extent]
      refine ⟨by omega, fun s hrest => ?_⟩
      have hlength : size ≤ s.rest.length := by
        rw [hrest, List.length_take]
        omega
      have hsame : d.scan state s.rest s.rest.length = d.scan state bytes s.rest.length := by
        rw [hrest]
        exact d.scan_take state bytes _ (Nat.le_refl _)
      have hwhole := (d.tight state bytes).whole h hlength
      rw [← hsame] at hwhole
      rcases Intake.fetch_of_whole (d.tight state s.rest) hwhole with ⟨next, hfetch, hnext⟩ | ⟨⟨t, hfetch⟩, -⟩
      · rw [outlook_of_frame hfetch]
        apply hrefused
        rw [hnext, hrest, List.drop_take, Nat.add_assoc, Nat.add_sub_cancel_left]
      · exact failure_of_refused hfetch

lemma Parses.refused_slowly (h : d.Parses state bytes pieces) (hfull : ∃ p ∈ pieces, p.size = bufferSize)
    (hrest : s.rest = bytes) (hslow : ∀ o, s.readSize o ≤ 1) (hroom : s.buffered < bufferSize) :
    ((d.reader state s).outlook none).failure = some (Step.failure d.format .bufferFull) := by
  induction h generalizing s with
  | last => simp at hfull
  | @piece state bytes value size pieces h room later ih =>
    subst hrest
    have htight := d.tight state s.rest
    by_cases hsize : size = bufferSize
    · subst hsize
      obtain ⟨t, hfetch⟩ := Intake.fetch_of_slow hslow hroom htight h
      exact failure_of_refused hfetch
    · have hlater : ∃ p ∈ pieces, p.size = bufferSize := by simpa [hsize] using hfull
      rcases Intake.fetch_of_whole htight h with ⟨next, hfetch, hrest⟩ | ⟨⟨t, hfetch⟩, -⟩
      · obtain ⟨-, hsame, hless⟩ := Intake.fetch_frame_keeps hfetch
        rw [outlook_of_frame hfetch]
        exact ih hlater hrest (hsame ▸ hslow) (hless (Nat.le_of_lt hroom))
      · exact failure_of_refused hfetch

lemma Parses.rows {α : Type} {rows : List α} {bytes : α → List UInt8} {value : α → d.Value}
    (hscan : ∀ a ∈ rows, ∀ rest, (d.scan state (bytes a ++ rest) (bytes a ++ rest).length).settled? =
      some (.ok (value a, (bytes a).length)))
    (hroom : ∀ a ∈ rows, (bytes a).length ≤ bufferSize) (hstays : ∀ a ∈ rows, d.after state (value a) = state)
    {tail : List UInt8} {pieces : List Piece} (htail : d.Parses state tail pieces) :
    d.Parses state (rows.flatMap bytes ++ tail)
      (rows.map (fun a => ⟨d.record? state (value a), (bytes a).length⟩) ++ pieces) := by
  induction rows with
  | nil => exact htail
  | cons a rows ih =>
    obtain ⟨hfirst, hscan⟩ := List.forall_mem_cons.mp hscan
    obtain ⟨hsize, hroom⟩ := List.forall_mem_cons.mp hroom
    obtain ⟨hstay, hstays⟩ := List.forall_mem_cons.mp hstays
    rw [List.flatMap_cons, List.append_assoc, List.map_cons, List.cons_append]
    apply Parses.piece (hfirst _) hsize
    rw [hstay, List.drop_left]
    exact ih hscan hroom hstays

lemma parses_entries (link : LinkType) {entries : List Entry} (hfits : ∀ e ∈ entries, e.Fits)
    (hsizes : ∀ e ∈ entries, e.size ≤ bufferSize) {tail : List UInt8} (htail : tail.length < 16) :
    Pcap.dialect.Parses (Pcap.FileHeader.written link) (entries.flatMap Entry.bytes ++ tail)
      (entries.map (Entry.piece link)) := by
  have hscan : ∀ e ∈ entries, ∀ rest, (Pcap.dialect.scan (Pcap.FileHeader.written link) (e.bytes ++ rest)
      (e.bytes ++ rest).length).settled? = some (.ok (e.record link, e.bytes.length)) := by
    intro e he rest
    have hlength : e.size ≤ (e.bytes ++ rest).length := by
      rw [List.length_append, Entry.length_bytes]
      exact Nat.le_add_right _ _
    obtain ⟨_, _, hfound⟩ := Pcap.FileHeader.frame_of_whole link rest (hfits e he) hlength
    have hframe : Pcap.dialect.scan (Pcap.FileHeader.written link) = (Pcap.FileHeader.written link).frame := rfl
    rw [hframe, hfound, Entry.length_bytes]
    rfl
  have hend : Pcap.dialect.Parses (Pcap.FileHeader.written link) tail [] := by
    apply Parses.last (Pcap.FileHeader.frame_of_short_header link htail tail)
    simp only [bufferSize]
    omega
  have hparses := Parses.rows hscan (fun e he => Entry.length_bytes e ▸ hsizes e he) (fun _ _ => rfl) hend
  simp only [List.append_nil, Entry.length_bytes] at hparses
  exact hparses

end Dialect

end CaptureSieve
