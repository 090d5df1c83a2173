import CaptureSieve.Proofs.Capture.RoundTrip

/-!
How a stream is cut into reads does not show in what a source answers, unless a record or block is exactly as large
as the reader's buffer.
-/

namespace CaptureSieve

namespace Reader

/-- Readers at the same place of the same bytes, before which no frame fills the buffer. -/
inductive InStep : Reader → Reader → Prop
  | pcap (header : Pcap.FileHeader) {s t : Intake} (h : s.InStep t)
      (free : NeverFills Pcap.FileHeader.frame (fun header _ => header) header s.rest) :
      InStep (.pcap header s) (.pcap header t)
  | pcapng (state : Pcapng.State) {s t : Intake} (h : s.InStep t)
      (free : NeverFills Pcapng.State.frame Pcapng.State.after state s.rest) :
      InStep (.pcapng state s) (.pcapng state t)

lemma InStep.format {a b : Reader} (h : a.InStep b) : a.format = b.format := by
  cases h <;> rfl

end Reader

inductive Step.InStep : Step → Step → Prop
  | record (r : Record) {a b : Reader} (h : a.InStep b) : InStep (.record r a) (.record r b)
  | finished : InStep .finished .finished
  | truncated : InStep .truncated .truncated
  | failed (e : SourceError) {a b : Reader} (h : a.InStep b) : InStep (.failed e a) (.failed e b)

namespace Reader

lemma nextPcap_inStep {header : Pcap.FileHeader} {s t : Intake} (h : s.InStep t)
    (free : NeverFills Pcap.FileHeader.frame (fun header _ => header) header s.rest) :
    (nextPcap header s).InStep (nextPcap header t) := by
  rcases free.fetch_cases (header.steady_frame s.rest) h with
    ⟨record, a, b, hs, ht, hab, hfree⟩ | ⟨hs, ht⟩ | ⟨hs, ht⟩ | ⟨fault, a, b, hs, ht, hab, hfree⟩
  all_goals rw [nextPcap, nextPcap, hs, ht]
  · exact .record record (.pcap header hab hfree)
  · exact .finished
  · exact .truncated
  · exact .failed _ (.pcap header hab hfree)

lemma nextPcapng_eq (state : Pcapng.State) (s : Intake) :
    nextPcapng state s = match s.fetch state.frame with
      | .frame (.packet i ticks wire data) next => .record (state.record i ticks wire data) (.pcapng state next)
      | .frame block next => nextPcapng (state.after block) next
      | .finished => .finished
      | .truncated => .truncated
      | .failed fault halted => .failed (Step.failure .pcapng fault) (.pcapng state halted) := by
  rw [nextPcapng]
  split <;> simp_all

lemma nextPcapng_inStep {state : Pcapng.State} {s t : Intake} (h : s.InStep t)
    (free : NeverFills Pcapng.State.frame Pcapng.State.after state s.rest) :
    (nextPcapng state s).InStep (nextPcapng state t) := by
  induction hn : s.rest.length using Nat.strongRecOn generalizing state s t with
  | ind n ih =>
    rcases free.fetch_cases (state.steady_frame s.rest) h with
      ⟨block, a, b, hs, ht, hab, hfree⟩ | ⟨hs, ht⟩ | ⟨hs, ht⟩ | ⟨fault, a, b, hs, ht, hab, hfree⟩
    all_goals rw [nextPcapng_eq state s, nextPcapng_eq state t, hs, ht]
    · have hless : a.rest.length < n := hn ▸ Intake.fetch_lt hs
      cases block with
      | packet i ticks wire data => exact .record _ (.pcapng state hab hfree)
      | sectionHeader order => exact ih _ hless hab hfree rfl
      | interface i => exact ih _ hless hab hfree rfl
      | other => exact ih _ hless hab hfree rfl
    · exact .finished
    · exact .truncated
    · exact .failed _ (.pcapng state hab hfree)

lemma next_inStep {a b : Reader} (h : a.InStep b) : a.next.InStep b.next := by
  cases h with
  | pcap header h free => exact nextPcap_inStep h free
  | pcapng state h free => exact nextPcapng_inStep h free

end Reader

structure Batch.InStep (b c : Batch) : Prop where
  records : b.records = c.records
  reader : Option.Rel Reader.InStep b.reader c.reader
  failure : b.failure = c.failure
  warnings : b.warnings = c.warnings

namespace Source

structure InStep (s t : Source) : Prop where
  reader : Option.Rel Reader.InStep s.reader t.reader
  filter : s.filter = t.filter
  queue : s.queue = t.queue

structure CallsInStep {α : Type} (c d : Call Source α) : Prop where
  answer : c.answer = d.answer
  warnings : c.warnings = d.warnings
  state : c.state.InStep d.state

lemma CallsInStep.andThen {α β : Type} {c d : Call Source α} {f : α → Source → Call Source β} (h : CallsInStep c d)
    (hf : ∀ a {s t : Source}, s.InStep t → CallsInStep (f a s) (f a t)) : CallsInStep (c.andThen f) (d.andThen f) := by
  simp only [Call.andThen, h.answer]
  cases d.answer with
  | error e => exact ⟨rfl, h.warnings, h.state⟩
  | ok a =>
    obtain ⟨hanswer, hwarnings, hstate⟩ := hf a h.state
    refine ⟨hanswer, ?_, hstate⟩
    simp only [h.warnings, hwarnings]

lemma readAhead_succ (filter : Option Filter) (room : Nat) (reader : Reader) :
    readAhead filter (room + 1) reader = match reader.next with
      | .record r next =>
        if admits filter r then
          { readAhead filter room next with records := r :: (readAhead filter room next).records }
        else readAhead filter (room + 1) next
      | .finished => ⟨[], none, none, []⟩
      | .truncated => ⟨[], none, none, [.partialTail reader.format]⟩
      | .failed error state => ⟨[], some state, some error, []⟩ := by
  rw [readAhead]
  split <;> simp_all

lemma readAhead_inStep (filter : Option Filter) (room : Nat) {a b : Reader} (h : a.InStep b) :
    (readAhead filter room a).InStep (readAhead filter room b) := by
  induction hn : a.remaining using Nat.strongRecOn generalizing room a b with
  | ind n ih =>
    cases room with
    | zero =>
      rw [readAhead, readAhead]
      exact ⟨rfl, .some h, rfl, rfl⟩
    | succ room =>
      have hnext := Reader.next_inStep h
      rw [readAhead_succ filter room a, readAhead_succ filter room b]
      generalize ha : a.next = x at hnext ⊢
      generalize b.next = y at hnext ⊢
      cases hnext with
      | record r hab =>
        have hless := hn ▸ Reader.next_lt ha
        by_cases hpass : admits filter r
        · obtain ⟨hrecords, hreader, hfailure, hwarnings⟩ := ih _ hless room hab rfl
          simp only [hpass, if_true]
          exact ⟨congrArg (r :: ·) hrecords, hreader, hfailure, hwarnings⟩
        · simp only [hpass]
          exact ih _ hless (room + 1) hab rfl
      | finished => exact ⟨rfl, .none, rfl, rfl⟩
      | truncated => exact ⟨rfl, .none, rfl, by rw [h.format]⟩
      | failed e hab => exact ⟨rfl, .some hab, rfl, rfl⟩

lemma restock_inStep {s t : Source} (h : s.InStep t) : CallsInStep s.restock t.restock := by
  obtain ⟨reader, filter, queue⟩ := s
  obtain ⟨reader', filter', queue'⟩ := t
  obtain ⟨hreader, hfilter, hqueue⟩ := h
  dsimp only at hreader hfilter hqueue
  subst hfilter hqueue
  cases queue with
  | cons r rest => exact ⟨rfl, rfl, hreader, rfl, rfl⟩
  | nil =>
    cases hreader with
    | none => exact ⟨rfl, rfl, .none, rfl, rfl⟩
    | some hab =>
      obtain ⟨hrecords, hreader, hfailure, hwarnings⟩ := readAhead_inStep filter batchSize hab
      refine ⟨?_, hwarnings, hreader, rfl, hrecords⟩
      simp only [restock, hfailure]

lemma ask_inStep {s t : Source} (h : s.InStep t) (a : Ask) : CallsInStep (ask a s) (ask a t) := by
  cases a with
  | next =>
    simp only [ask, next]
    apply (restock_inStep h).andThen
    intro _ s t hst
    rw [hst.queue]
    exact ⟨rfl, rfl, hst.reader, hst.filter, rfl⟩
  | peek =>
    simp only [ask, peek]
    apply (restock_inStep h).andThen
    intro _ s t hst
    rw [hst.queue]
    exact ⟨rfl, rfl, hst⟩

end Source

inductive Request where
  | ask (a : Ask)
  | close
  | isOpen

inductive Reply where
  | answer (answer : Except SourceError (Option Record)) (warnings : List Warning)
  | closed
  | isOpen (value : Bool)
  deriving DecidableEq

namespace Source

def perform : Request → Source → Reply × Source
  | .ask a, s => (.answer (ask a s).answer (ask a s).warnings, (ask a s).state)
  | .close, s => (.closed, s.close)
  | .isOpen, s => (.isOpen s.isOpen, s)

def session : List Request → Source → List Reply
  | [], _ => []
  | request :: requests, s => (s.perform request).1 :: session requests (s.perform request).2

lemma perform_inStep {s t : Source} (h : s.InStep t) (request : Request) :
    (s.perform request).1 = (t.perform request).1 ∧ (s.perform request).2.InStep (t.perform request).2 := by
  cases request with
  | ask a =>
    obtain ⟨hanswer, hwarnings, hstate⟩ := ask_inStep h a
    simp only [perform, hanswer, hwarnings, true_and]
    exact hstate
  | close => exact ⟨rfl, .none, h.filter, rfl⟩
  | isOpen =>
    have hreader := h.reader
    refine ⟨?_, h⟩
    simp only [perform, isOpen]
    generalize s.reader = x at hreader ⊢
    generalize t.reader = y at hreader ⊢
    cases hreader <;> rfl

lemma session_inStep (requests : List Request) {s t : Source} (h : s.InStep t) :
    session requests s = session requests t := by
  induction requests generalizing s t with
  | nil => rfl
  | cons request requests ih =>
    obtain ⟨hreply, hstate⟩ := perform_inStep h request
    rw [session, session, hreply, ih hstate]

end Source

/-- No record or block that is come to in these bytes is exactly as large as the buffer. -/
def NoneFills (bytes : List UInt8) : Prop :=
  if bytes.take 4 = Reader.pcapngMagic then NeverFills Pcapng.State.frame Pcapng.State.after .start bytes
  else ∀ header, Pcap.FileHeader.ofBytes bytes (window bytes) = .ok header →
    NeverFills Pcap.FileHeader.frame (fun header _ => header) header (bytes.drop Pcap.headerSize)

lemma noneFills_of_short {bytes : List UInt8} (h : bytes.length < bufferSize) : NoneFills bytes := by
  unfold NoneFills
  split
  · exact .of_short h
  · intro header _
    apply NeverFills.of_short
    rw [List.length_drop]
    omega

lemma Pcap.FileHeader.headerSize_le {bytes : List UInt8} {available : Nat} {header : FileHeader}
    (h : ofBytes bytes available = .ok header) : headerSize ≤ available := by
  rw [ofBytes] at h
  split at h
  · simp at h
  split at h
  · simp at h
  next hfields =>
    rw [List.find?_eq_none] at hfields
    simpa [headerSize] using hfields 24 (by decide)

inductive OpenedInStep : Except SourceError Reader → Except SourceError Reader → Prop
  | error (e : SourceError) : OpenedInStep (.error e) (.error e)
  | ok {a b : Reader} (h : a.InStep b) : OpenedInStep (.ok a) (.ok b)

namespace Reader

section AnyReads

variable {bytes : List UInt8} (ending : Ending) (r₁ r₂ : Nat → Nat)

lemma filled_inStep : (Intake.filled ⟨bytes, ending, r₁⟩).InStep (.filled ⟨bytes, ending, r₂⟩) :=
  ⟨rfl, rfl, Nat.min_le_right _ _, Nat.min_le_right _ _⟩

lemma openPcapng_inStep (free : NeverFills Pcapng.State.frame Pcapng.State.after .start bytes) :
    OpenedInStep (openPcapng (.filled ⟨bytes, ending, r₁⟩)) (openPcapng (.filled ⟨bytes, ending, r₂⟩)) := by
  simp only [openPcapng, Intake.filled]
  cases Pcapng.State.start.frame bytes (min bytes.length bufferSize) with
  | found => exact .ok (.pcapng .start (filled_inStep ending r₁ r₂) free)
  | missing count => exact .error _
  | faulty fault => exact .error _

lemma openPcap_inStep (free : ∀ header, Pcap.FileHeader.ofBytes bytes (window bytes) = .ok header →
      NeverFills Pcap.FileHeader.frame (fun header _ => header) header (bytes.drop Pcap.headerSize)) :
    OpenedInStep (openPcap (.filled ⟨bytes, ending, r₁⟩)) (openPcap (.filled ⟨bytes, ending, r₂⟩)) := by
  have hbytes : ∀ reads, Pcap.FileHeader.ofBytes (Intake.filled ⟨bytes, ending, reads⟩).rest
      (Intake.filled ⟨bytes, ending, reads⟩).buffered = Pcap.FileHeader.ofBytes bytes (window bytes) := fun _ => rfl
  simp only [openPcap, hbytes]
  cases hheader : Pcap.FileHeader.ofBytes bytes (window bytes) with
  | error fault => exact .error _
  | ok header =>
    have hsize : Pcap.headerSize ≤ min bytes.length bufferSize := Pcap.FileHeader.headerSize_le hheader
    refine .ok (.pcap header ((filled_inStep ending r₁ r₂).consume hsize hsize) ?_)
    simp only [Intake.consume, Intake.filled, Nat.min_eq_left hsize]
    exact free header hheader

lemma ofStream_of_filled {s : ByteStream} (h : Intake.ofStream s = .ok (.filled s)) :
    ofStream s =
      if window s.bytes < 4 then .error (.io shortCapture)
      else if s.bytes.take 4 = pcapngMagic then openPcapng (.filled s) else openPcap (.filled s) := by
  rw [ofStream, h]
  rfl

lemma ofStream_inStep_of_filled (h : NoneFills bytes)
    (hfilled : ∀ reads, Intake.ofStream ⟨bytes, ending, reads⟩ = .ok (.filled ⟨bytes, ending, reads⟩)) :
    OpenedInStep (ofStream ⟨bytes, ending, r₁⟩) (ofStream ⟨bytes, ending, r₂⟩) := by
  rw [ofStream_of_filled (hfilled r₁), ofStream_of_filled (hfilled r₂)]
  by_cases hfour : window bytes < 4
  · simp only [hfour, if_true]
    exact .error _
  by_cases hmagic : bytes.take 4 = pcapngMagic
  · simp only [hfour, hmagic, if_true, if_false]
    rw [NoneFills, if_pos hmagic] at h
    exact openPcapng_inStep ending r₁ r₂ h
  · simp only [hfour, hmagic, if_false]
    rw [NoneFills, if_neg hmagic] at h
    exact openPcap_inStep ending r₁ r₂ h

lemma ofStream_inStep (h : NoneFills bytes) :
    OpenedInStep (ofStream ⟨bytes, ending, r₁⟩) (ofStream ⟨bytes, ending, r₂⟩) := by
  cases ending with
  | closed => exact ofStream_inStep_of_filled .closed r₁ r₂ h fun _ => rfl
  | broken reason =>
    by_cases hshort : bytes.length < bufferSize
    · simp only [ofStream, Intake.ofStream, hshort, if_true]
      exact .error _
    · exact ofStream_inStep_of_filled (.broken reason) r₁ r₂ h fun _ => if_neg hshort

end AnyReads

end Reader

theorem session_of_any_reads {bytes : List UInt8} (h : NoneFills bytes) (ending : Ending) (filter : Option Filter)
    (r₁ r₂ : Nat → Nat) (requests : List Request) :
    (Source.ofStream ⟨bytes, ending, r₁⟩ filter).map (Source.session requests) =
      (Source.ofStream ⟨bytes, ending, r₂⟩ filter).map (Source.session requests) := by
  have hopened := Reader.ofStream_inStep ending r₁ r₂ h
  simp only [Source.ofStream]
  generalize Reader.ofStream ⟨bytes, ending, r₁⟩ = x at hopened ⊢
  generalize Reader.ofStream ⟨bytes, ending, r₂⟩ = y at hopened ⊢
  cases hopened with
  | error e => rfl
  | ok hab => exact congrArg Except.ok (Source.session_inStep requests ⟨.some hab, rfl, rfl⟩)

def twoPackets : List UInt8 :=
  fileHeader 65535 .raw ++ [⟨.epoch, 3, [0x45, 0, 1]⟩, ⟨.epoch, 40, [0x60]⟩].flatMap Entry.bytes ++ [0, 0]

theorem session_of_twoPackets :
    NoneFills twoPackets ∧
    (Source.ofStream ⟨twoPackets, .closed, fun _ => 1⟩ none).map
        (Source.session [.ask .peek, .ask .next, .ask .next, .isOpen, .ask .next, .close, .isOpen]) =
      (Source.ofStream ⟨twoPackets, .closed, fun o => o % 5⟩ none).map
        (Source.session [.ask .peek, .ask .next, .ask .next, .isOpen, .ask .next, .close, .isOpen]) := by
  have hshort : NoneFills twoPackets := noneFills_of_short (by decide)
  exact ⟨hshort, session_of_any_reads hshort ..⟩

lemma Source.ask_of_failure {stream : ByteStream} {filter : Option Filter} {s : Source} {records : List Record}
    {e : SourceError} (hs : ofStream stream filter = .ok s) (houtlook : s.outlook = ⟨records, some e⟩)
    (hfew : records.length < batchSize) (a : Ask) : (ask a s).answer = .error e := by
  obtain ⟨reader, -, rfl⟩ := opened_of_ofStream hs
  have hahead : (⟨some reader, filter, []⟩ : Source).ahead = ⟨records, some e⟩ := houtlook
  obtain ⟨hanswer, -, -⟩ := @restockBy_of_empty ⟨some reader, filter, []⟩ batchSize rfl
  rw [hahead, Outlook.shortfall, if_neg (Nat.not_le.mpr hfew)] at hanswer
  rw [ask_eq_askBy]
  exact (askBy_of_error hanswer a).1

def spacedBuffer : List UInt8 := fileHeader 65535 .raw ++ [spacer, fullBuffer].flatMap Entry.bytes

theorem reads_show_at_spacedBuffer :
    (Source.ofStream ⟨spacedBuffer, .closed, fun _ => 1⟩ none).map (Source.session [.ask .next]) ≠
      (Source.ofStream ⟨spacedBuffer, .closed, fun _ => bufferSize⟩ none).map (Source.session [.ask .next]) := by
  have hfull : fullBuffer.size = bufferSize := by rw [Entry.size, length_fullBuffer]; rfl
  have hfits : fullBuffer.Fits := .of_epoch rfl (Nat.le_of_eq length_fullBuffer)
  obtain ⟨s, e, hs, houtlook⟩ := @Source.ofStream_written_slow 65535 .raw (fun _ => 1) spacer fullBuffer fits_spacer
    hfits (by rw [size_spacer]; decide) (Nat.le_of_eq hfull.symm) fun _ => Nat.le_refl 1
  obtain ⟨t, ht, houtlook'⟩ := @Source.ofStream_written_at_once 65535 .raw (fun _ => bufferSize) spacer fullBuffer
    fits_spacer hfits size_spacer hfull fun _ => Nat.le_refl _
  have hslow : (Source.ask .next s).answer = .error e :=
    Source.ask_of_failure hs houtlook (by decide) .next
  have hfast : (Source.ask .next t).answer = .ok (some (spacer.record .raw)) := by
    rw [(Source.ask_of_clean (by rw [houtlook']) .next).1, houtlook']
    rfl
  rw [spacedBuffer, hs, ht]
  intro hsame
  simp [Except.map, Source.session, Source.perform, hslow, hfast] at hsame

end CaptureSieve
