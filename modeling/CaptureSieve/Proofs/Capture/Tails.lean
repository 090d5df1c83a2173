import CaptureSieve.Proofs.Capture.Opening

/-!
What is read of a capture that is cut short: the records before the cut, and a soft end inside the next piece. Only a
piece exactly as large as the reader's buffer is refused for want of its last byte.
-/

namespace CaptureSieve

namespace Source

def Rests : Option Reader → List Warning → Prop
  | none, warnings => warnings = []
  | some reader, warnings => ∃ records, reader.Yields records warnings

variable {warnings : List Warning}

lemma reader_of_readAhead_empty {filter : Option Filter} {room : Nat} {reader : Reader} (hroom : 0 < room)
    (hempty : (readAhead filter room reader).records = []) (hclean : (readAhead filter room reader).failure = none) :
    (readAhead filter room reader).reader = none := by
  fun_induction readAhead filter room reader with
  | case1 => simp at hroom
  | case2 => simp at hempty
  | case3 reader rest r next hn shorter hadmit ih => exact ih hroom hempty hclean
  | case4 => rfl
  | case5 => rfl
  | case6 => simp at hclean

lemma readAhead_of_yields {reader : Reader} {records : List Record} (h : reader.Yields records warnings)
    (filter : Option Filter) (room : Nat) :
    ∃ later, (readAhead filter room reader).warnings ++ later = warnings ∧
      (readAhead filter room reader).failure = none ∧ Rests (readAhead filter room reader).reader later := by
  induction h generalizing room with
  | @record reader next r records warnings h later ih =>
    cases room with
    | zero =>
      rw [readAhead]
      exact ⟨warnings, rfl, rfl, _, .record h later⟩
    | succ room =>
      rw [readAhead_succ, h]
      by_cases hpass : admits filter r
      · simp only [hpass, if_true]
        exact ih room
      · simp only [hpass]
        exact ih (room + 1)
  | @finished reader h =>
    cases room with
    | zero =>
      rw [readAhead]
      exact ⟨[], rfl, rfl, _, .finished h⟩
    | succ room =>
      rw [readAhead_succ, h]
      exact ⟨[], rfl, rfl, rfl⟩
  | @truncated reader h =>
    cases room with
    | zero =>
      rw [readAhead]
      exact ⟨_, rfl, rfl, _, .truncated h⟩
    | succ room =>
      rw [readAhead_succ, h]
      exact ⟨[], rfl, rfl, rfl⟩

lemma next_of_rests {s : Source} (h : Rests s.reader warnings) :
    ∃ later, s.next.warnings ++ later = warnings ∧ Rests s.next.state.reader later ∧
      (∀ e, s.next.answer ≠ .error e) ∧ (s.next.answer = .ok none → later = []) := by
  obtain ⟨reader, filter, queue⟩ := s
  cases queue with
  | cons r rest => exact ⟨warnings, rfl, h, by simp [next, restock, Call.andThen, Call.ok], by
      simp [next, restock, Call.andThen, Call.ok]⟩
  | nil =>
    cases reader with
    | none => exact ⟨warnings, rfl, h, by simp [next, restock, Call.andThen, Call.ok], fun _ => h⟩
    | some reader =>
      obtain ⟨records, hyields⟩ := h
      obtain ⟨later, hwarnings, hfailure, hrests⟩ := readAhead_of_yields hyields filter batchSize
      refine ⟨later, ?_, ?_, ?_, ?_⟩
      · simpa [next, restock, Call.andThen, Call.ok, hfailure] using hwarnings
      · simpa [next, restock, Call.andThen, Call.ok, hfailure] using hrests
      · simp [next, restock, Call.andThen, Call.ok, hfailure]
      · intro hnone
        have hrecords : (readAhead filter batchSize reader).records = [] := by
          simpa [next, restock, Call.andThen, Call.ok, hfailure] using hnone
        rw [reader_of_readAhead_empty (by decide) hrecords hfailure] at hrests
        exact hrests

lemma drain_of_rests (s : Source) : ∀ warnings, Rests s.reader warnings → s.drain.warnings = warnings := by
  fun_induction drain s with
  | case1 s c e he =>
    intro warnings h
    obtain ⟨-, -, -, hnever, -⟩ := next_of_rests h
    exact absurd he (hnever e)
  | case2 s c hn =>
    intro warnings h
    obtain ⟨later, hwarnings, -, -, hend⟩ := next_of_rests h
    rw [hend hn, List.append_nil] at hwarnings
    exact hwarnings
  | case3 s c r hr lighter rest ih =>
    intro warnings h
    obtain ⟨later, hwarnings, hrests, -, -⟩ := next_of_rests h
    rw [← hwarnings, ← ih later hrests]

structure Gives (s : Source) (records : List Record) (warnings : List Warning) : Prop where
  failure : s.drain.failure = none
  items : s.drain.items = records
  warnings : s.drain.warnings = warnings

instance (s : Source) (records : List Record) (warnings : List Warning) : Decidable (s.Gives records warnings) :=
  decidable_of_iff (s.drain.failure = none ∧ s.drain.items = records ∧ s.drain.warnings = warnings)
    ⟨fun ⟨h, h', h''⟩ => ⟨h, h', h''⟩, fun ⟨h, h', h''⟩ => ⟨h, h', h''⟩⟩

lemma exists_gives_of_checked {x : ByteStream} {filter : Option Filter} {records : List Record}
    (h : (ofStream x filter).toOption.any (fun s => s.Gives records warnings) = true) :
    ∃ source, ofStream x filter = .ok source ∧ source.Gives records warnings := by
  cases hx : ofStream x filter with
  | error e => simp [hx, Except.toOption] at h
  | ok source => exact ⟨source, rfl, of_decide_eq_true (by rwa [hx] at h)⟩

lemma Gives.outlook_failure {s : Source} {records : List Record} (h : s.Gives records warnings) :
    s.outlook.failure = none := by
  rw [← drain_failure]
  exact h.failure

lemma gives_of_yields {reader : Reader} {records : List Record} (h : reader.Yields records warnings)
    (filter : Option Filter) : Gives ⟨some reader, filter, []⟩ (records.filter (admits filter)) warnings := by
  have houtlook : outlook ⟨some reader, filter, []⟩ = ⟨records.filter (admits filter), none⟩ := by
    have hahead : outlook ⟨some reader, filter, []⟩ = reader.outlook filter := rfl
    rw [hahead, Reader.outlook_eq_filter, h.outlook]
  exact ⟨by rw [drain_failure, houtlook], by rw [drain_items (by rw [houtlook]), houtlook],
    drain_of_rests _ warnings ⟨records, h⟩⟩

variable {x : ByteStream} {filter : Option Filter} {source cut : Source} {bytes : List UInt8} {o : Opening}
  {pieces : List Piece} {n : Nat} {readSize : Nat → Nat}

lemma gives_of_clean (hx : ofStream x filter = .ok source) (hclean : source.drain.failure = none) :
    ∃ (o : Opening) (pieces : List Piece), o.Heads x.bytes pieces ∧
      source.Gives ((Piece.records pieces).filter (admits filter))
        (if o.size + Piece.extent pieces = x.bytes.length then [] else [.partialTail o.dialect.format]) := by
  obtain ⟨reader, hreader, rfl⟩ := opened_of_ofStream hx
  obtain ⟨o, s, hleads, -⟩ := Opening.leadsTo_of_ofStream hreader
  have houtlook : outlook ⟨some reader, filter, []⟩ = reader.outlook filter := rfl
  rw [drain_failure, houtlook, Reader.outlook_eq_filter] at hclean
  rw [Reader.outlook_congr hleads.next] at hclean
  obtain ⟨pieces, hparses, hyields⟩ := Dialect.yields_of_clean hleads.room hclean
  have hheads : o.Heads x.bytes pieces := ⟨hleads.opens, hleads.size_le, hleads.rest ▸ hparses⟩
  rw [hleads.rest] at hyields
  simp only [hheads.extent_iff] at hyields
  refine ⟨o, pieces, hheads, gives_of_yields (hyields.congr hleads.next ?_) filter⟩
  rw [hleads.format, o.dialect.format_reader]

lemma pieces_of_clean (hx : ofStream x filter = .ok source) (hclean : source.drain.failure = none) :
    ∃ (o : Opening) (pieces : List Piece), o.Heads x.bytes pieces ∧
      source.drain.items = (Piece.records pieces).filter (admits filter) := by
  obtain ⟨o, pieces, hheads, hgives⟩ := gives_of_clean hx hclean
  exact ⟨o, pieces, hheads, hgives.items⟩

structure Begins (o : Opening) (x : ByteStream) (filter : Option Filter) (source : Source) (s : Intake) : Prop where
  opened : ofStream x filter = .ok source
  rest : s.rest = x.bytes.drop o.size
  ending : s.ending = x.ending
  readSize : s.readSize = x.readSize
  buffered : s.buffered + o.size = window x.bytes
  gives : ∀ {records warnings}, (o.dialect.reader o.state s).Yields records warnings →
    source.Gives (records.filter (admits filter)) warnings
  fails : ∀ {e}, ((o.dialect.reader o.state s).outlook none).failure = some e → source.drain.failure = some e

lemma begins_of_opening (h : o.Of bytes) (hsize : o.size ≤ window bytes) (readSize : Nat → Nat)
    (filter : Option Filter) : ∃ source s, Begins o ⟨bytes, .closed, readSize⟩ filter source s := by
  obtain ⟨reader, hreader⟩ := h.ofStream hsize readSize
  obtain ⟨o', s, hleads, hclosed, hreads, hbuffered⟩ := Opening.leadsTo_of_ofStream hreader
  obtain rfl := h.unique hleads.opens
  refine ⟨⟨some reader, filter, []⟩, s, by rw [ofStream, hreader]; rfl, hleads.rest, hclosed, hreads, hbuffered, ?_, ?_⟩
  · intro records warnings hyields
    exact gives_of_yields (hyields.congr hleads.next (by rw [hleads.format, o.dialect.format_reader])) filter
  · intro e hfailure
    have houtlook : outlook ⟨some reader, filter, []⟩ = reader.outlook filter := rfl
    rw [drain_failure, houtlook, Reader.outlook_eq_filter, Reader.outlook_congr hleads.next]
    exact hfailure

lemma gives_of_heads (h : o.Heads bytes pieces) (hfree : ∀ p ∈ pieces, p.size ≠ bufferSize) (readSize : Nat → Nat)
    (filter : Option Filter) :
    ∃ source, ofStream ⟨bytes, .closed, readSize⟩ filter = .ok source ∧
      source.Gives ((Piece.records pieces).filter (admits filter))
        (if o.size + Piece.extent pieces = bytes.length then [] else [.partialTail o.dialect.format]) := by
  obtain ⟨source, s, hbegins⟩ := begins_of_opening h.opens h.size_le readSize filter
  have hyields := h.parses.yields hfree hbegins.rest hbegins.ending
  simp only [h.extent_iff] at hyields
  exact ⟨source, hbegins.opened, hbegins.gives hyields⟩

lemma gives_of_cut (h : o.Heads bytes pieces) (hfree : ∀ p ∈ pieces, p.size ≠ bufferSize)
    (hcut : ofStream ⟨bytes.take n, .closed, readSize⟩ filter = .ok cut) :
    cut.Gives ((Piece.records (Piece.within (n - o.size) pieces)).filter (admits filter))
      (if o.size + Piece.extent (Piece.within (n - o.size) pieces) = (bytes.take n).length then []
        else [.partialTail o.dialect.format]) := by
  obtain ⟨reader, hreader, -⟩ := opened_of_ofStream hcut
  obtain ⟨o', s, hleads, -⟩ := Opening.leadsTo_of_ofStream hreader
  obtain ⟨ho', -⟩ := hleads.opens.of_take
  obtain rfl := h.opens.unique ho'
  have hheads : o.Heads (bytes.take n) (Piece.within (n - o.size) pieces) := by
    refine ⟨hleads.opens, hleads.size_le, ?_⟩
    rw [List.drop_take]
    exact h.parses.take hfree (n - o.size)
  have hwithin : ∀ p ∈ Piece.within (n - o.size) pieces, p.size ≠ bufferSize :=
    fun p hp => hfree p (Piece.mem_of_within hp)
  obtain ⟨source, hsource, hgives⟩ := gives_of_heads hheads hwithin readSize filter
  obtain rfl := Except.ok.inj (hsource.symm.trans hcut)
  exact hgives

lemma refused_of_cut {before after : List Piece} {p : Piece} (h : o.Heads bytes (before ++ p :: after))
    (hfull : p.size = bufferSize) (hn : o.size + (Piece.extent before + (bufferSize - 1)) = n) (readSize : Nat → Nat)
    (filter : Option Filter) :
    ∃ cut, ofStream ⟨bytes.take n, .closed, readSize⟩ filter = .ok cut ∧
      cut.drain.failure = some (Step.failure o.dialect.format .bufferFull) := by
  subst hn
  obtain ⟨hextent, hrefused⟩ := h.parses.refused hfull
  have htake := h.opens.take (Nat.le_add_right o.size (Piece.extent before + (bufferSize - 1)))
  have hwindow : o.size ≤ window (bytes.take (o.size + (Piece.extent before + (bufferSize - 1)))) := by
    have hsize := h.size_le
    rw [List.length_drop] at hextent
    simp only [window, List.length_take] at hsize ⊢
    omega
  obtain ⟨cut, s, hbegins⟩ := begins_of_opening htake hwindow readSize filter
  refine ⟨cut, hbegins.opened, hbegins.fails (hrefused s ?_)⟩
  rw [hbegins.rest, List.drop_take, Nat.add_sub_cancel_left]

lemma refused_of_slow (h : o.Heads bytes pieces) (hfull : ∃ p ∈ pieces, p.size = bufferSize) (filter : Option Filter) :
    ∃ source, ofStream ⟨bytes, .closed, fun _ => 1⟩ filter = .ok source ∧
      source.drain.failure = some (Step.failure o.dialect.format .bufferFull) := by
  obtain ⟨source, s, hbegins⟩ := begins_of_opening h.opens h.size_le (fun _ => 1) filter
  have hslow : ∀ offset, s.readSize offset ≤ 1 := fun offset => Nat.le_of_eq (congrFun hbegins.readSize offset)
  have hroom : s.buffered < bufferSize := by
    have hpos := h.opens.size_pos
    have hbuffered : s.buffered + o.size ≤ bufferSize := hbegins.buffered ▸ Nat.min_le_right _ _
    omega
  exact ⟨source, hbegins.opened, hbegins.fails (h.parses.refused_slowly hfull hbegins.rest hslow hroom)⟩

end Source

end CaptureSieve
