import CaptureSieve.Proofs.Capture.RoundTrip
import CaptureSieve.Proofs.Packet.Framing
import CaptureSieve.Proofs.Sieve.Alone
import Mathlib.Data.List.Forall2

/-!
Two captures of the same packets in different framings. Step by step a run does the same on both.
-/

namespace CaptureSieve

structure Record.Alike (r s : Record) : Prop where
  time : r.time = s.time
  wireLength : r.wireLength = s.wireLength
  datagram : r.SameDatagram s

lemma Record.Alike.refl (r : Record) : r.Alike r := ⟨rfl, rfl, .refl r⟩

inductive AnswersAlike : Except SourceError (Option Record) → Except SourceError (Option Record) → Prop
  | failed (e : SourceError) : AnswersAlike (.error e) (.error e)
  | finished : AnswersAlike (.ok none) (.ok none)
  | packet {r s : Record} (h : r.Alike s) : AnswersAlike (.ok (some r)) (.ok (some s))

namespace AnswersAlike

variable {b : Except SourceError (Option Record)}

lemma eq_error {e : SourceError} (h : AnswersAlike (.error e) b) : b = .error e := by
  cases h
  rfl

lemma eq_end (h : AnswersAlike (.ok none) b) : b = .ok none := by
  cases h
  rfl

lemma eq_packet {r : Record} (h : AnswersAlike (.ok (some r)) b) : ∃ s, b = .ok (some s) ∧ r.Alike s := by
  cases h with
  | packet hr => exact ⟨_, rfl, hr⟩

end AnswersAlike

namespace Source

structure Alike (s t : Source) : Prop where
  queue : List.Forall₂ Record.Alike s.queue t.queue
  records : List.Forall₂ Record.Alike s.ahead.records t.ahead.records
  failure : s.ahead.failure = t.ahead.failure

variable {s t : Source}

lemma restock_of_alike (h : Alike s t) :
    s.restock.answer = t.restock.answer ∧ Alike s.restock.state t.restock.state := by
  have hsame : ∀ u : Source, u.restock = u.restockBy batchSize := fun _ => rfl
  rw [hsame, hsame]
  by_cases hq : s.queue = []
  · have hq' : t.queue = [] := by
      rw [← List.length_eq_zero_iff, ← h.queue.length_eq, hq, List.length_nil]
    obtain ⟨hanswer, hqueue, hahead⟩ := restockBy_of_empty batchSize hq
    obtain ⟨hanswer', hqueue', hahead'⟩ := restockBy_of_empty batchSize hq'
    have hshort : s.ahead.shortfall batchSize = t.ahead.shortfall batchSize := by
      simp only [Outlook.shortfall, h.records.length_eq, h.failure]
    refine ⟨by rw [hanswer, hanswer', hshort], ?_, ?_, ?_⟩
    · rw [hqueue, hqueue']
      exact List.forall₂_take _ h.records
    · rw [hahead, hahead']
      exact List.forall₂_drop _ h.records
    · rw [hahead, hahead']
      exact h.failure
  · have hq' : t.queue ≠ [] := by
      rwa [← List.length_pos_iff, ← h.queue.length_eq, List.length_pos_iff]
    rw [restockBy_of_queued hq, restockBy_of_queued hq']
    exact ⟨rfl, h⟩

lemma next_of_alike (h : Alike s t) : AnswersAlike s.next.answer t.next.answer ∧ Alike s.next.state t.next.state := by
  obtain ⟨hanswer, hstate⟩ := restock_of_alike h
  simp only [next, Call.andThen, hanswer]
  cases t.restock.answer with
  | error e => exact ⟨.failed e, hstate⟩
  | ok u =>
    have hqueue := hstate.queue
    simp only [Call.ok]
    cases hs : s.restock.state.queue with
    | nil =>
      rw [hs, List.forall₂_nil_left_iff] at hqueue
      rw [hqueue]
      exact ⟨.finished, .nil, hstate.records, hstate.failure⟩
    | cons r rest =>
      rw [hs, List.forall₂_cons_left_iff] at hqueue
      obtain ⟨r', rest', hr, hrest, hqueue'⟩ := hqueue
      rw [hqueue']
      exact ⟨.packet hr, hrest, hstate.records, hstate.failure⟩

end Source

namespace Merge

structure Alike (m n : Merge) : Prop where
  traffic : Source.Alike m.traffic n.traffic
  dns : m.dns = n.dns
  head : m.dnsHead = n.dnsHead
  overtaken : Option.Rel Record.Alike m.overtaken n.overtaken
  peeked : m.peeked = none ∧ n.peeked = none

variable {m n : Merge}

lemma alike_ofSources {s t : Source} (h : s.Alike t) (dns : Option Source) :
    Alike (ofSources s dns) (ofSources t dns) := ⟨h, rfl, rfl, .none, rfl, rfl⟩

lemma lookAhead_of_alike (h : Alike m n) :
    m.lookAhead.answer = n.lookAhead.answer ∧ Alike m.lookAhead.state n.lookAhead.state := by
  have hhead := h.head
  have hdns := h.dns
  simp only [lookAhead, hhead, hdns]
  split
  · split
    · exact ⟨rfl, h.traffic, rfl, rfl, h.overtaken, h.peeked⟩
    · split
      · exact ⟨rfl, h.traffic, rfl, rfl, h.overtaken, h.peeked⟩
      · exact ⟨rfl, h.traffic, rfl, rfl, h.overtaken, h.peeked⟩
      · exact ⟨rfl, h.traffic, rfl, rfl, h.overtaken, h.peeked⟩
  · exact ⟨rfl, h⟩

lemma inTurn_of_alike (h : Alike m n) {t u : Record} (ht : t.Alike u) :
    AnswersAlike (inTurn t m).answer (inTurn u n).answer ∧ Alike (inTurn t m).state (inTurn u n).state := by
  simp only [inTurn, h.head, ht.time]
  split
  · next d hd =>
    split
    · exact ⟨.packet (.refl d), h.traffic, h.dns, rfl, .some ht, h.peeked⟩
    · exact ⟨.packet ht, h⟩
  · exact ⟨.packet ht, h⟩

lemma advance_of_alike (h : Alike m n) :
    AnswersAlike m.advance.answer n.advance.answer ∧ Alike m.advance.state n.advance.state := by
  obtain ⟨htraffic, hdns, hhead, hovertaken, hpeeked⟩ := h
  rcases ho : m.overtaken with _ | t <;> rcases ho' : n.overtaken with _ | u <;> rw [ho, ho'] at hovertaken <;>
    cases hovertaken
  case some ht =>
    have hbare : Alike { m with overtaken := none } { n with overtaken := none } :=
      ⟨htraffic, hdns, hhead, .none, hpeeked⟩
    rw [advance_of_overtaken ho, advance_of_overtaken ho']
    exact inTurn_of_alike hbare ht
  case none =>
    obtain ⟨hanswers, hstate⟩ := Source.next_of_alike htraffic
    have hnext : Alike { m with traffic := m.traffic.next.state } { n with traffic := n.traffic.next.state } :=
      ⟨hstate, hdns, hhead, by rw [ho, ho']; exact .none, hpeeked⟩
    simp only [advance, ho, ho', Call.andThen, Call.within]
    rw [ho, ho'] at hnext
    generalize m.traffic.next.answer = a at hanswers
    generalize n.traffic.next.answer = b at hanswers
    cases hanswers with
    | failed e => exact ⟨.failed e, hnext⟩
    | finished => exact ⟨.finished, ⟨.nil, .nil, rfl⟩, rfl, rfl, .none, hpeeked⟩
    | packet ht => exact inTurn_of_alike hnext ht

lemma next_of_alike (h : Alike m n) : AnswersAlike m.next.answer n.next.answer ∧ Alike m.next.state n.next.state := by
  obtain ⟨hanswer, hstate⟩ := lookAhead_of_alike h
  simp only [next, h.peeked.1, h.peeked.2, Call.andThen, hanswer]
  cases n.lookAhead.answer with
  | error e => exact ⟨.failed e, hstate⟩
  | ok u => exact advance_of_alike hstate

end Merge

namespace Sieve

variable {settings : Settings} {m n : Merge} {p q : Progress} {r s : Record}

/-- What a run has come to, the warnings left aside: these name the format of the capture. -/
structure SameProgress (p q : Progress) : Prop where
  tally : p.tally = q.tally
  writer : p.writer = q.writer

lemma place_of_alike (h : r.Alike s) (w : Writer) : place settings r w = place settings s w := by
  simp only [place, h.datagram.classify, h.datagram.datagram, h.wireLength, h.time]

lemma accept_of_alike (h : r.Alike s) (t : Tally) (unverified : Bool) : t.accept r unverified = t.accept s unverified := by
  simp only [Tally.accept, h.time, h.datagram.isDns, h.datagram.flowKey]

lemma step_of_alike (h : r.Alike s) (hp : SameProgress p q) :
    (p.step settings r).1 = (q.step settings s).1 ∧ SameProgress (p.step settings r).2 (q.step settings s).2 := by
  rcases hplace : place settings r p.writer with ⟨fate, w⟩
  have hplace' : place settings s q.writer = (fate, w) := by rw [← hp.writer, ← place_of_alike h, hplace]
  rw [step_of_place hplace, step_of_place hplace']
  cases fate with
  | accepted unverified => exact ⟨rfl, by simp only [settle, hp.tally, accept_of_alike h], rfl⟩
  | dropped reason => exact ⟨rfl, by simp only [settle, hp.tally], rfl⟩
  | unwritable e => exact ⟨rfl, by simp only [settle, hp.tally], rfl⟩
  | failed e => exact ⟨rfl, hp.tally, rfl⟩

lemma drain_of_alike (m : Merge) (p : Progress) : ∀ n q, m.Alike n → SameProgress p q →
    (drain settings m p).1 = (drain settings n q).1 ∧ SameProgress (drain settings m p).2 (drain settings n q).2 := by
  fun_induction drain settings m p with
  | case1 m p c p' e hn =>
    intro n q h hp
    have hanswers := (Merge.next_of_alike h).1
    rw [hn] at hanswers
    rw [drain_of_error hanswers.eq_error]
    exact ⟨rfl, hp.tally, hp.writer⟩
  | case2 m p c p' hn =>
    intro n q h hp
    have hanswers := (Merge.next_of_alike h).1
    rw [hn] at hanswers
    rw [drain_of_end hanswers.eq_end]
    exact ⟨rfl, hp.tally, hp.writer⟩
  | case3 m p c p' r hn lighter e p'' hstep =>
    intro n q h hp
    have hanswers := (Merge.next_of_alike h).1
    rw [hn] at hanswers
    obtain ⟨s, hs, hr⟩ := hanswers.eq_packet
    obtain ⟨hresult, hsame⟩ := @step_of_alike settings p' (q.warn n.next.warnings) r s hr ⟨hp.tally, hp.writer⟩
    rw [hstep] at hresult hsame
    rw [drain_of_refused hs hresult.symm]
    exact ⟨rfl, hsame⟩
  | case4 m p c p' r hn lighter p'' hstep ih =>
    intro n q h hp
    obtain ⟨hanswers, hstate⟩ := Merge.next_of_alike h
    rw [hn] at hanswers
    obtain ⟨s, hs, hr⟩ := hanswers.eq_packet
    obtain ⟨hresult, hsame⟩ := @step_of_alike settings p' (q.warn n.next.warnings) r s hr ⟨hp.tally, hp.writer⟩
    rw [hstep] at hresult hsame
    rw [drain_of_step hs hresult.symm]
    exact ih _ _ hstate hsame

structure SameOutcome (o o' : Outcome) : Prop where
  result : o.result = o'.result
  tally : o.tally = o'.tally
  sink : o.sink = o'.sink

lemma run_of_alike (h : m.Alike n) (tally : Tally) (sink : Sink) :
    SameOutcome (run settings tally m sink) (run settings tally n sink) := by
  obtain ⟨hresult, hsame⟩ := @drain_of_alike settings m (.start settings tally sink) n (.start settings tally sink) h
    ⟨rfl, rfl⟩
  rw [run_eq, run_eq]
  refine ⟨?_, ?_, ?_⟩
  · simp only [finish, hresult, hsame.writer]
    split <;> rfl
  · rw [finish_tally, finish_tally, hsame.tally]
  · rw [finish_sink, finish_sink, hsame.writer]

end Sieve

namespace Source

variable {a b : ByteStream} {s t : Source}

lemma admits_of_alike {r r' : Record} (h : r.Alike r') (filter : Option Filter) :
    admits filter r = admits filter r' := by
  cases filter with
  | none => rfl
  | some f => exact h.datagram.admits f

lemma alike_of_ofStream (hs : ofStream a none = .ok s) (ht : ofStream b none = .ok t)
    (hrecords : List.Forall₂ Record.Alike s.outlook.records t.outlook.records)
    (hfailure : s.outlook.failure = t.outlook.failure) (filter : Option Filter) :
    ∃ s' t', ofStream a filter = .ok s' ∧ ofStream b filter = .ok t' ∧ Alike s' t' := by
  obtain ⟨reader, hreader, rfl⟩ := opened_of_ofStream hs
  obtain ⟨reader', hreader', rfl⟩ := opened_of_ofStream ht
  refine ⟨⟨some reader, filter, []⟩, ⟨some reader', filter, []⟩, ?_, ?_, .nil, ?_, ?_⟩
  · rw [ofStream, hreader]; rfl
  · rw [ofStream, hreader']; rfl
  · simp only [ahead, readerOutlook]
    rw [Reader.outlook_eq_filter filter reader, Reader.outlook_eq_filter filter reader']
    exact List.rel_filter (fun r r' h => by simp only [admits_of_alike h filter]) hrecords
  · simp only [ahead, readerOutlook]
    rw [Reader.outlook_eq_filter filter reader, Reader.outlook_eq_filter filter reader']
    exact hfailure

end Source

namespace Sieve

variable {a b : ByteStream} {s t : Source}

lemma distill_of_alike {settings : Settings} (h : ∀ filter, ∃ s t, Source.ofStream a filter = .ok s ∧
      Source.ofStream b filter = .ok t ∧ s.Alike t) (filter : Option String) (dns : Option (Except String ByteStream))
    (sink : Sink) : SameOutcome (distill settings ⟨a, filter, dns⟩ sink) (distill settings ⟨b, filter, dns⟩ sink) := by
  simp only [distill, merge_eq]
  cases compiled filter with
  | error e => exact ⟨rfl, rfl, rfl⟩
  | ok f =>
    obtain ⟨s, t, hs, ht, halike⟩ := h f
    simp only [Except.bind, hs, ht]
    rcases dns with _ | reason | stream
    · exact run_of_alike (Merge.alike_ofSources halike _) _ _
    · exact ⟨rfl, rfl, rfl⟩
    · simp only [withDns]
      cases Merge.dnsSource stream with
      | error e => exact ⟨rfl, rfl, rfl⟩
      | ok d => exact run_of_alike (Merge.alike_ofSources halike _) _ _

end Sieve

structure Record.ReadsAs (r s : Record) : Prop where
  datagram : r.datagram = s.datagram
  protocol : r.protocol = s.protocol
  source : r.source = s.source
  destination : r.destination = s.destination
  sourcePort : r.sourcePort = s.sourcePort
  destinationPort : r.destinationPort = s.destinationPort
  flowKey : r.flowKey = s.flowKey
  isDns : r.isDns = s.isDns
  verify : ∀ transport, r.verify transport = s.verify transport
  classify : ∀ transport, r.classify transport = s.classify transport
  filter : ∀ e : Filter.Expr, e.holds r = e.holds s

lemma Record.SameDatagram.readsAs {r s : Record} (h : r.SameDatagram s) : r.ReadsAs s where
  datagram := h.datagram
  protocol := h.protocol
  source := h.source
  destination := h.destination
  sourcePort := h.sourcePort
  destinationPort := h.destinationPort
  flowKey := h.flowKey
  isDns := h.isDns
  verify := h.verify
  classify := h.classify
  filter := h.expr

inductive Reframed : Record → Record → Prop
  | same (r : Record) : Reframed r r
  | frames (f g : Frame) (time : Instant) (wireLength : UInt32) {datagram x y : List UInt8}
      (h : byteAt datagram 0 / 16 = 4) (hx : Padding datagram x) (hy : Padding datagram y) :
      Reframed (f.record time wireLength (datagram ++ x)) (g.record time wireLength (datagram ++ y))

lemma Reframed.alike {r s : Record} (h : Reframed r s) : r.Alike s := by
  cases h with
  | same => exact .refl r
  | frames f g time wireLength h hx hy =>
    exact ⟨rfl, rfl, (f.sameDatagram_bare time wireLength h hx).trans (g.sameDatagram_bare time wireLength h hy).symm⟩

namespace Sieve

variable {a b : ByteStream} {s t : Source}

inductive Refiled (link link' : LinkType) : Entry → Entry → Prop
  | same (e : Entry) (hlink : link = link') : Refiled link link' e e
  | frames (f g : Frame) (hf : f.link = link) (hg : g.link = link') (time : Instant) (wireLength : UInt32)
      {datagram x y : List UInt8} (h : byteAt datagram 0 / 16 = 4) (hx : Padding datagram x) (hy : Padding datagram y) :
      Refiled link link' ⟨time, wireLength, f.header ++ (datagram ++ x)⟩ ⟨time, wireLength, g.header ++ (datagram ++ y)⟩

lemma reframed_of_refiled {link link' : LinkType} {d e : Entry} (h : Refiled link link' d e) :
    Reframed (d.record link) (e.record link') := by
  cases h with
  | same _ hlink =>
    rw [hlink]
    exact .same _
  | frames f g hf hg time wireLength h hx hy =>
    obtain rfl := hf
    obtain rfl := hg
    exact .frames f g _ wireLength h hx hy

section Refiled

variable {link link' : LinkType} {entries entries' : List Entry}

lemma distill_of_refiled (h : List.Forall₂ (Refiled link link') entries entries')
    (hsmall : ∀ e ∈ entries ++ entries', e.Fits ∧ e.size < bufferSize) (snapLength snapLength' : UInt32)
    (readSize readSize' : Nat → Nat) (settings : Settings) (filter : Option String)
    (dns : Option (Except String ByteStream)) (sink : Sink) :
    SameOutcome
      (distill settings ⟨⟨fileHeader snapLength link ++ entries.flatMap Entry.bytes, .closed, readSize⟩, filter, dns⟩ sink)
      (distill settings ⟨⟨fileHeader snapLength' link' ++ entries'.flatMap Entry.bytes, .closed, readSize'⟩, filter, dns⟩
        sink) := by
  rw [List.forall_mem_append] at hsmall
  obtain ⟨hleft, hright⟩ := hsmall
  obtain ⟨s, hs, houtlook⟩ := @Source.ofStream_written_small snapLength link readSize entries
    (fun e he => (hleft e he).1) (fun e he => (hleft e he).2)
  obtain ⟨t, ht, houtlook'⟩ := @Source.ofStream_written_small snapLength' link' readSize' entries'
    (fun e he => (hright e he).1) (fun e he => (hright e he).2)
  apply distill_of_alike
  apply Source.alike_of_ofStream hs ht
  · rw [houtlook, houtlook', List.forall₂_map_left_iff, List.forall₂_map_right_iff]
    exact h.imp fun _ _ hde => (reframed_of_refiled hde).alike
  · rw [houtlook, houtlook']

end Refiled

theorem framing_does_not_matter (f : Frame) (time : Instant) (wireLength : UInt32) (datagram padding : List UInt8)
    (a b : ByteStream) (s t : Source) :
    (byteAt datagram 0 / 16 = 4 → Padding datagram padding →
      (f.record time wireLength (datagram ++ padding)).ReadsAs (Frame.bare.record time wireLength datagram)) ∧
    (Source.ofStream a none = .ok s → Source.ofStream b none = .ok t →
      List.Forall₂ Reframed s.outlook.records t.outlook.records →
      ((∀ settings filter dns sink,
        SameOutcome (distill settings ⟨a, filter, dns⟩ sink) (distill settings ⟨b, filter, dns⟩ sink)) ↔
      s.outlook.failure = t.outlook.failure)) ∧
    ∀ (link link' : LinkType) (entries entries' : List Entry), List.Forall₂ (Refiled link link') entries entries' →
      (∀ e ∈ entries ++ entries', e.Fits ∧ e.size < bufferSize) →
      ∀ snapLength snapLength' readSize readSize' settings filter dns sink, SameOutcome
        (distill settings
          ⟨⟨fileHeader snapLength link ++ entries.flatMap Entry.bytes, .closed, readSize⟩, filter, dns⟩ sink)
        (distill settings
          ⟨⟨fileHeader snapLength' link' ++ entries'.flatMap Entry.bytes, .closed, readSize'⟩, filter, dns⟩ sink) := by
  refine ⟨?_, ?_, fun link link' entries entries' => distill_of_refiled⟩
  · intro h hp
    exact (f.sameDatagram_bare time wireLength h hp).readsAs
  · intro hs ht hrecords
    constructor
    · intro hsame
      have hresult := (hsame .standard none none .unbounded).result
      rw [result_of_unfiltered hs, result_of_unfiltered ht] at hresult
      cases hf : s.outlook.failure <;> cases hg : t.outlook.failure <;> simp_all
    · intro hfailure settings filter dns sink
      apply distill_of_alike
      exact Source.alike_of_ofStream hs ht (hrecords.imp fun _ _ => Reframed.alike) hfailure

def captureOf (f : Frame) (wireLength : UInt32) (data : List UInt8) : ByteStream :=
  .ofBytes (fileHeader 65535 f.link ++ Entry.bytes ⟨.epoch, wireLength, f.header ++ data⟩)

section Captured

variable (f : Frame) (wireLength : UInt32) {data : List UInt8}

lemma captured_of_small (h : f.header.length + data.length < 65520) :
    ∃ s, Source.ofStream (captureOf f wireLength data) none = .ok s ∧
      s.outlook = ⟨[f.record .epoch wireLength data], none⟩ := by
  have hsize : Entry.size ⟨.epoch, wireLength, f.header ++ data⟩ < bufferSize := by
    rw [Entry.size_lt_iff, List.length_append]
    exact h
  have hfits : Entry.Fits ⟨.epoch, wireLength, f.header ++ data⟩ :=
    ⟨Nat.lt_of_le_of_lt (Nat.le_add_left _ 16) (Nat.lt_trans hsize (by decide)), Entry.micros_epoch⟩
  obtain ⟨s, hs, houtlook⟩ := @Source.ofStream_written_small 65535 f.link (fun _ => _)
    [⟨.epoch, wireLength, f.header ++ data⟩] (by simpa using hfits) (by simpa using hsize)
  rw [List.flatMap_singleton] at hs
  rw [List.map_singleton, Entry.record_epoch] at houtlook
  exact ⟨s, hs, houtlook⟩

lemma captured_of_large (h : 65520 ≤ f.header.length + data.length) (hlt : f.header.length + data.length < 4294967296) :
    ∃ s, Source.ofStream (captureOf f wireLength data) none = .ok s ∧
      s.outlook = ⟨[], some (Step.failure .pcap .bufferFull)⟩ := by
  have hlength : (f.header ++ data).length = f.header.length + data.length := List.length_append
  refine Source.ofStream_written_large ⟨by rw [hlength]; exact hlt, Entry.micros_epoch⟩ ?_
  simp only [Entry.size, hlength, bufferSize]
  omega

end Captured

def wired : Frame := .pppoe (Vector.replicate 12 2) [⟨0x88a8, by decide, 0x20, 7⟩, ⟨0x8100, by decide, 0, 9⟩]
  #v[0x11, 0, 0, 1, 0, 31]

def pair (f : Frame) (padding : List UInt8) : List Entry :=
  List.replicate 2 ⟨.epoch, 29, f.header ++ (query ++ padding)⟩

theorem wired_query_reads_as_bare :
    byteAt query 0 / 16 = 4 ∧ Padding query [1, 2] ∧
    (wired.record .epoch 29 (query ++ [1, 2])).ReadsAs (Frame.bare.record .epoch 29 query) ∧
    ∃ s t, Source.ofStream (captureOf .bare 29 query) none = .ok s ∧
      Source.ofStream (captureOf wired 29 (query ++ [1, 2])) none = .ok t ∧
      List.Forall₂ Reframed s.outlook.records t.outlook.records ∧ s.outlook.failure = t.outlook.failure ∧
      (∀ settings filter dns sink, SameOutcome (distill settings ⟨captureOf .bare 29 query, filter, dns⟩ sink)
        (distill settings ⟨captureOf wired 29 (query ++ [1, 2]), filter, dns⟩ sink)) ∧
      ∀ settings filter dns sink, SameOutcome
        (distill settings
          ⟨⟨fileHeader 65535 .raw ++ (pair .bare []).flatMap Entry.bytes, .closed, fun _ => 1⟩, filter, dns⟩ sink)
        (distill settings
          ⟨⟨fileHeader 96 .ethernet ++ (pair wired [1, 2]).flatMap Entry.bytes, .closed, fun _ => 1⟩, filter, dns⟩
          sink) := by
  have hfirst : byteAt query 0 / 16 = 4 := by decide
  have hpadding : Padding query [1, 2] := .inr ⟨_, rfl, by decide⟩
  obtain ⟨s, hs, houtlook⟩ := @captured_of_small .bare 29 query (by decide)
  obtain ⟨t, ht, houtlook'⟩ := @captured_of_small wired 29 (query ++ [1, 2]) (by decide)
  have hrecords : List.Forall₂ Reframed s.outlook.records t.outlook.records := by
    have hreframed := Reframed.frames .bare wired .epoch 29 hfirst (.inl rfl) hpadding
    rw [List.append_nil] at hreframed
    rw [houtlook, houtlook']
    exact .cons hreframed .nil
  have hfailure : s.outlook.failure = t.outlook.failure := by rw [houtlook, houtlook']
  have hrefiled : List.Forall₂ (Refiled .raw .ethernet) (pair .bare []) (pair wired [1, 2]) :=
    .cons (.frames .bare wired rfl rfl .epoch 29 hfirst (.inl rfl) hpadding)
      (.cons (.frames .bare wired rfl rfl .epoch 29 hfirst (.inl rfl) hpadding) .nil)
  have hsmall : ∀ e ∈ pair .bare [] ++ pair wired [1, 2], e.Fits ∧ e.size < bufferSize := by
    simp only [pair, List.mem_append, List.mem_replicate]
    rintro e (⟨-, rfl⟩ | ⟨-, rfl⟩)
    · exact ⟨⟨by decide, by decide⟩, by decide⟩
    · exact ⟨⟨by decide, by decide⟩, by decide⟩
  obtain ⟨hpacket, hruns, hfiles⟩ := framing_does_not_matter wired .epoch 29 query [1, 2] _ _ s t
  exact ⟨hfirst, hpadding, hpacket hfirst hpadding, s, t, hs, ht, hrecords, hfailure,
    (hruns hs ht hrecords).mpr hfailure, hfiles _ _ _ _ hrefiled hsmall 65535 96 _ _⟩

def longDatagram : List UInt8 := List.replicate 65510 0x45

-- Sixteen bytes for the header of the record and 65510 of data leave ten bytes of the buffer; a frame takes fourteen.
theorem framing_matters_at_longDatagram :
    byteAt longDatagram 0 / 16 = 4 ∧
    (distill .standard ⟨captureOf .bare 65510 longDatagram, none, none⟩ .unbounded).result = .ok () ∧
    (distill .standard ⟨captureOf (.ethernet (Vector.replicate 12 2) []) 65510 longDatagram, none, none⟩
      .unbounded).result = .error (.source (.capture .pcap .next .bufferFull)) := by
  have hlength : longDatagram.length = 65510 := List.length_replicate
  have hbare : Frame.bare.header.length + longDatagram.length < 65520 := by
    rw [hlength]
    decide
  have hframed : (Frame.ethernet (Vector.replicate 12 2) []).header.length + longDatagram.length = 65524 := by
    rw [hlength]
    decide
  obtain ⟨s, hs, houtlook⟩ := captured_of_small .bare 65510 hbare
  obtain ⟨t, ht, houtlook'⟩ := captured_of_large (.ethernet (Vector.replicate 12 2) []) 65510
    (by rw [hframed]; decide) (by rw [hframed]; decide)
  refine ⟨rfl, ?_, ?_⟩
  · rw [result_of_unfiltered hs, houtlook]
  · rw [result_of_unfiltered ht, houtlook']
    rfl

end Sieve

end CaptureSieve
