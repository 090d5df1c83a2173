import CaptureSieve.Capture.Merge
import Mathlib.Tactic.Common

/-!
What a source has ahead of it, as a list of records and the failure behind them, and how its answers to any order
of calls come from that list.
-/

namespace CaptureSieve

inductive Ask where
  | next
  | peek
  deriving DecidableEq, Repr

section Answers

variable {σ τ : Type}

def answers (ask : Ask → σ → Call σ (Option Record)) : List Ask → σ → List (Except SourceError (Option Record))
  | [], _ => []
  | a :: asks, s => (ask a s).answer :: answers ask asks (ask a s).state

lemma answers_eq_of_simulation (R : σ → τ → Prop) {f : Ask → σ → Call σ (Option Record)}
    {g : Ask → τ → Call τ (Option Record)}
    (step : ∀ a s t, R s t → (f a s).answer = (g a t).answer ∧ R (f a s).state (g a t).state)
    (asks : List Ask) {s : σ} {t : τ} (h : R s t) : answers f asks s = answers g asks t := by
  induction asks generalizing s t with
  | nil => rfl
  | cons a asks ih =>
    obtain ⟨hanswer, hstate⟩ := step a s t h
    simp only [answers, hanswer, ih hstate]

end Answers

/-- The records still to come and the failure behind them, if the end is not a clean one. -/
structure Outlook where
  records : List Record
  failure : Option SourceError
  deriving DecidableEq

namespace Outlook

def answer (o : Outlook) : Except SourceError (Option Record) :=
  match o.records, o.failure with
  | r :: _, _ => .ok (some r)
  | [], none => .ok none
  | [], some e => .error e

def ask : Ask → Outlook → Call Outlook (Option Record)
  | .next, o => ⟨o.answer, { o with records := o.records.tail }, []⟩
  | .peek, o => ⟨o.answer, o, []⟩

def shortfall (o : Outlook) (size : Nat) : Option SourceError :=
  if size ≤ o.records.length then none else o.failure

@[simp] lemma answer_of_clean (records : List Record) : answer ⟨records, none⟩ = .ok records.head? := by
  cases records <;> rfl

lemma eq_of_answer_none {o : Outlook} (h : o.answer = .ok none) : o = ⟨[], none⟩ := by
  obtain ⟨records, failure⟩ := o
  cases records with
  | nil =>
    cases failure with
    | none => rfl
    | some e => simp [answer] at h
  | cons r rest => simp [answer] at h

lemma records_of_answer_some {o : Outlook} {r : Record} (h : o.answer = .ok (some r)) :
    o.records = r :: o.records.tail := by
  obtain ⟨records, failure⟩ := o
  cases records with
  | nil => cases failure <;> simp [answer] at h
  | cons first rest => simpa [answer] using h

@[simp] lemma ask_answer (a : Ask) (o : Outlook) : (ask a o).answer = o.answer := by cases a <;> rfl

end Outlook

namespace Intake

lemma fetch_failed_again {α : Type} {scan : Framing α} {s t : Intake} {fault : Fault}
    (h : s.fetch scan = .failed fault t) : t.fetch scan = .failed fault t := by
  fun_induction fetch scan s with
  | case1 => simp at h
  | case2 s found hs =>
    obtain ⟨rfl, rfl⟩ := Fetched.failed.inj h
    rw [fetch, hs]
  | case3 s count hs full =>
    obtain ⟨rfl, rfl⟩ := Fetched.failed.inj h
    rw [fetch, hs]
    exact dif_pos full
  | case4 s count hs room more ih => exact ih h
  | case5 s count hs room done reason he =>
    obtain ⟨rfl, rfl⟩ := Fetched.failed.inj h
    rw [fetch, hs]
    simp only [room, done, he, dite_false]
  | case6 => simp at h
  | case7 => simp at h

end Intake

namespace Reader

lemma nextPcapng_failed_again {state : Pcapng.State} {intake : Intake} {e : SourceError} {r : Reader}
    (h : nextPcapng state intake = .failed e r) : r.next = .failed e r := by
  fun_induction nextPcapng state intake with
  | case1 => simp at h
  | case2 state intake block next hn hf shorter ih => exact ih h
  | case3 => simp at h
  | case4 => simp at h
  | case5 state intake fault halted hf =>
    obtain ⟨rfl, rfl⟩ := Step.failed.inj h
    have hh := Intake.fetch_failed_again hf
    simp only [next]
    rw [nextPcapng]
    split <;> simp_all

lemma next_failed_again {s r : Reader} {e : SourceError} (h : s.next = .failed e r) : r.next = .failed e r := by
  cases s with
  | pcap header intake =>
    simp only [next, nextPcap] at h
    split at h <;> simp at h
    next fault halted hf =>
    obtain ⟨rfl, rfl⟩ := h
    simp only [next, nextPcap, Intake.fetch_failed_again hf]
  | pcapng state intake => exact nextPcapng_failed_again h

def outlook (filter : Option Filter) (reader : Reader) : Outlook :=
  match h : reader.next with
  | .record r next =>
    have _shorter := next_lt h
    let later := outlook filter next
    if Source.admits filter r then { later with records := r :: later.records } else later
  | .finished => ⟨[], none⟩
  | .truncated => ⟨[], none⟩
  | .failed e _ => ⟨[], some e⟩
termination_by reader.remaining

variable {filter : Option Filter} {reader : Reader}

lemma outlook_of_record {r : Record} {next : Reader} (h : reader.next = .record r next) :
    reader.outlook filter = if Source.admits filter r then
      { next.outlook filter with records := r :: (next.outlook filter).records } else next.outlook filter := by
  rw [outlook]
  split <;> simp_all

lemma outlook_of_finished (h : reader.next = .finished) : reader.outlook filter = ⟨[], none⟩ := by
  rw [outlook]
  split <;> simp_all

lemma outlook_of_truncated (h : reader.next = .truncated) : reader.outlook filter = ⟨[], none⟩ := by
  rw [outlook]
  split <;> simp_all

lemma outlook_of_failed {e : SourceError} {r : Reader} (h : reader.next = .failed e r) :
    reader.outlook filter = ⟨[], some e⟩ := by
  rw [outlook]
  split <;> simp_all

lemma outlook_eq_filter (filter : Option Filter) (reader : Reader) :
    reader.outlook filter =
      { reader.outlook none with records := (reader.outlook none).records.filter (Source.admits filter) } := by
  fun_induction outlook none reader with
  | case1 reader r next hn shorter later hadmit ih =>
    rw [outlook_of_record hn, ih]
    by_cases hr : Source.admits filter r <;> simp [hr, later]
  | case2 reader r next hn shorter later hadmit ih => exact absurd rfl hadmit
  | case3 reader hn => rw [outlook_of_finished hn]; rfl
  | case4 reader hn => rw [outlook_of_truncated hn]; rfl
  | case5 reader e state hn => rw [outlook_of_failed hn]; rfl

end Reader

namespace Source

def readerOutlook (filter : Option Filter) : Option Reader → Outlook
  | some reader => reader.outlook filter
  | none => ⟨[], none⟩

def ahead (s : Source) : Outlook := readerOutlook s.filter s.reader

def outlook (s : Source) : Outlook := { s.ahead with records := s.queue ++ s.ahead.records }

@[simp] lemma close_outlook (s : Source) : s.close.outlook = ⟨[], none⟩ := rfl

lemma readAhead_outlook (filter : Option Filter) (room : Nat) (reader : Reader) :
    (readAhead filter room reader).records = (reader.outlook filter).records.take room ∧
    (readAhead filter room reader).failure = (reader.outlook filter).shortfall room ∧
    readerOutlook filter (readAhead filter room reader).reader =
      { reader.outlook filter with records := (reader.outlook filter).records.drop room } := by
  fun_induction readAhead filter room reader with
  | case1 reader => simp [readerOutlook, Outlook.shortfall]
  | case2 reader rest r next hn shorter hadmit batch ih =>
    obtain ⟨hrecords, hfailure, hreader⟩ := ih
    simp only [batch, Reader.outlook_of_record hn, hadmit, if_true]
    simp [hrecords, hfailure, hreader, Outlook.shortfall]
  | case3 reader rest r next hn shorter hadmit ih =>
    simpa only [Reader.outlook_of_record hn, hadmit, Bool.false_eq_true, if_false] using ih
  | case4 reader rest hn => simp [Reader.outlook_of_finished hn, readerOutlook, Outlook.shortfall]
  | case5 reader rest hn => simp [Reader.outlook_of_truncated hn, readerOutlook, Outlook.shortfall]
  | case6 reader rest e state hn =>
    -- What is kept after a failure is a reader that meets the same failure again.
    have hstate := @Reader.outlook_of_failed filter _ _ _ (Reader.next_failed_again hn)
    simp [Reader.outlook_of_failed hn, hstate, readerOutlook, Outlook.shortfall]

def restockBy (size : Nat) (s : Source) : Call Source Unit :=
  match s.queue, s.reader with
  | [], some reader =>
    let batch := readAhead s.filter size reader
    ⟨match batch.failure with | some e => .error e | none => .ok (),
      { s with reader := batch.reader, queue := batch.records }, batch.warnings⟩
  | _, _ => .ok () s

def askBy (size : Nat) : Ask → Source → Call Source (Option Record)
  | .next, s => (s.restockBy size).andThen fun _ s => .ok s.queue.head? { s with queue := s.queue.tail }
  | .peek, s => (s.restockBy size).andThen fun _ s => .ok s.queue.head? s

def ask : Ask → Source → Call Source (Option Record)
  | .next => next
  | .peek => peek

lemma ask_eq_askBy : ask = askBy batchSize := by
  funext a s
  cases a <;> rfl

variable {s : Source} {size : Nat}

lemma restockBy_of_queued (h : s.queue ≠ []) : s.restockBy size = .ok () s := by
  rw [restockBy]
  split
  · next hq _ => exact absurd hq h
  · rfl

lemma restockBy_of_empty (size : Nat) (h : s.queue = []) :
    (s.restockBy size).answer = (match s.ahead.shortfall size with | some e => .error e | none => .ok ()) ∧
    (s.restockBy size).state.queue = s.ahead.records.take size ∧
    (s.restockBy size).state.ahead = { s.ahead with records := s.ahead.records.drop size } := by
  rw [restockBy]
  split
  · next reader _ hr =>
    obtain ⟨hrecords, hfailure, hreader⟩ := readAhead_outlook s.filter size reader
    simp only [ahead, hr] at hreader ⊢
    exact ⟨by rw [hfailure]; rfl, hrecords, hreader⟩
  · next hn =>
    have hr : s.reader = none := by
      cases hr : s.reader with
      | none => rfl
      | some reader => exact (hn reader h hr).elim
    simp [Call.ok, ahead, hr, h, readerOutlook, Outlook.shortfall]

@[simp] lemma restockBy_outlook (size : Nat) (s : Source) : (s.restockBy size).state.outlook = s.outlook := by
  by_cases h : s.queue = []
  · obtain ⟨-, hqueue, hahead⟩ := restockBy_of_empty size h
    simp [outlook, hqueue, hahead, h]
  · rw [restockBy_of_queued h]
    rfl

lemma failure_of_restockBy_error {e : SourceError} (h : (s.restockBy size).answer = .error e) :
    s.outlook.failure = some e := by
  by_cases hq : s.queue = []
  · obtain ⟨hanswer, -, -⟩ := restockBy_of_empty size hq
    rw [h, Outlook.shortfall] at hanswer
    split at hanswer
    · next e' hf =>
      split at hf
      · simp at hf
      · obtain rfl := Except.error.inj hanswer
        exact hf
    · simp at hanswer
  · simp [restockBy_of_queued hq, Call.ok] at h

lemma outlook_of_restockBy_empty (hsize : 0 < size) (h : (s.restockBy size).answer = .ok ())
    (hempty : (s.restockBy size).state.queue = []) : s.outlook = ⟨[], none⟩ := by
  by_cases hq : s.queue = []
  · obtain ⟨hanswer, hqueue, -⟩ := restockBy_of_empty size hq
    have hrecords : s.ahead.records = [] := by
      rw [hempty, eq_comm, List.take_eq_nil_iff] at hqueue
      exact hqueue.resolve_left (by omega)
    have hfailure : s.ahead.failure = none := by
      rw [h, Outlook.shortfall, hrecords, if_neg (by simp only [List.length_nil]; omega)] at hanswer
      cases hf : s.ahead.failure with
      | none => rfl
      | some e => simp [hf] at hanswer
    simp [outlook, hq, hrecords, hfailure]
  · rw [restockBy_of_queued hq] at hempty
    exact absurd hempty hq

lemma queue_head (h : s.queue = [] → s.outlook = ⟨[], none⟩) : s.outlook.answer = .ok s.queue.head? := by
  cases hq : s.queue with
  | nil =>
    rw [h hq]
    rfl
  | cons r rest => simp [outlook, hq, Outlook.answer]

lemma outlook_tail (h : s.queue = [] → s.outlook = ⟨[], none⟩) :
    outlook { s with queue := s.queue.tail } = { s.outlook with records := s.outlook.records.tail } := by
  cases hq : s.queue with
  | nil =>
    have hsame : { s with queue := [].tail } = s := by rw [List.tail_nil, ← hq]
    rw [hsame, h hq]
    rfl
  | cons r rest => simp [outlook, ahead, hq]

lemma askBy_of_ok (hsize : 0 < size) (h : (s.restockBy size).answer = .ok ()) (a : Ask) :
    (askBy size a s).answer = s.outlook.answer ∧
    (askBy size a s).state.outlook = (Outlook.ask a s.outlook).state := by
  have hempty := outlook_of_restockBy_empty hsize h
  rw [← restockBy_outlook size s] at hempty ⊢
  rw [queue_head hempty]
  cases a with
  | next =>
    refine ⟨by simp [askBy, Call.andThen, h, Call.ok], ?_⟩
    simp only [Outlook.ask, ← outlook_tail hempty]
    simp [askBy, Call.andThen, h, Call.ok]
  | peek => simp [askBy, Call.andThen, h, Call.ok, Outlook.ask]

lemma askBy_of_error {e : SourceError} (h : (s.restockBy size).answer = .error e) (a : Ask) :
    (askBy size a s).answer = .error e ∧ (askBy size a s).state = (s.restockBy size).state := by
  cases a <;> simp [askBy, Call.andThen, h]

lemma ask_of_clean (h : s.outlook.failure = none) (a : Ask) :
    (ask a s).answer = s.outlook.answer ∧ (ask a s).state.outlook = (Outlook.ask a s.outlook).state := by
  rw [ask_eq_askBy]
  apply askBy_of_ok (by decide)
  cases hr : (s.restockBy batchSize).answer with
  | ok u => rfl
  | error e => simp [failure_of_restockBy_error hr] at h

lemma next_eq_askBy (s : Source) : s.next = askBy batchSize .next s := rfl

lemma next_of_ok {r : Option Record} (h : s.next.answer = .ok r) :
    s.outlook.answer = .ok r ∧ s.next.state.outlook = { s.outlook with records := s.outlook.records.tail } := by
  rw [next_eq_askBy] at h ⊢
  cases hr : (s.restockBy batchSize).answer with
  | ok u =>
    obtain ⟨hanswer, hstate⟩ := askBy_of_ok (by decide) hr .next
    exact ⟨hanswer ▸ h, hstate⟩
  | error e => simp [(askBy_of_error hr .next).1] at h

lemma next_of_error {e : SourceError} (h : s.next.answer = .error e) : s.outlook.failure = some e := by
  rw [next_eq_askBy] at h
  cases hr : (s.restockBy batchSize).answer with
  | ok u => simp [askBy, Call.andThen, hr, Call.ok] at h
  | error e' =>
    rw [(askBy_of_error hr .next).1] at h
    obtain rfl := Except.error.inj h
    exact failure_of_restockBy_error hr

lemma outlook_of_next_error {e : SourceError} (h : s.next.answer = .error e) : s.next.state.outlook = s.outlook := by
  rw [next_eq_askBy] at h ⊢
  cases hr : (s.restockBy batchSize).answer with
  | ok u => simp [askBy, Call.andThen, hr, Call.ok] at h
  | error e' => rw [(askBy_of_error hr .next).2, restockBy_outlook]

lemma drain_failure (s : Source) : s.drain.failure = s.outlook.failure := by
  fun_induction drain s with
  | case1 s c e h => exact (next_of_error h).symm
  | case2 s c h =>
    rw [Outlook.eq_of_answer_none (next_of_ok h).1]
  | case3 s c r h lighter rest ih =>
    obtain ⟨-, hstate⟩ := next_of_ok h
    simp only [rest, ih, c, hstate]

lemma drain_items {s : Source} (h : s.outlook.failure = none) : s.drain.items = s.outlook.records := by
  fun_induction drain s with
  | case1 s c e he => simp [next_of_error he] at h
  | case2 s c hn =>
    rw [Outlook.eq_of_answer_none (next_of_ok hn).1]
  | case3 s c r hr lighter rest ih =>
    obtain ⟨hanswer, hstate⟩ := next_of_ok hr
    have hrest : rest.items = s.outlook.records.tail := by
      simpa only [c, hstate] using ih (by simp only [c, hstate, h])
    rw [hrest, ← Outlook.records_of_answer_some hanswer]

lemma opened_of_ofStream {stream : ByteStream} {filter : Option Filter} (h : ofStream stream filter = .ok s) :
    ∃ reader, Reader.ofStream stream = .ok reader ∧ s = ⟨some reader, filter, []⟩ := by
  rw [ofStream] at h
  cases hr : Reader.ofStream stream with
  | error e => simp [hr, Except.map] at h
  | ok reader => exact ⟨reader, rfl, (Except.ok.inj (hr ▸ h)).symm⟩

end Source

end CaptureSieve
