import CaptureSieve.Capture.Call
import CaptureSieve.Filter.Matching

/-!
A capture as a sequence of records, filtered and read ahead in batches.
-/

namespace CaptureSieve

def batchSize : Nat := 100

structure Source where
  reader : Option Reader
  filter : Option Filter
  queue : List Record

structure Batch where
  records : List Record
  reader : Option Reader
  failure : Option SourceError
  warnings : List Warning

namespace Source

def ofStream (s : ByteStream) (filter : Option Filter) : Except SourceError Source :=
  (Reader.ofStream s).map fun reader => ⟨some reader, filter, []⟩

def isOpen (s : Source) : Bool := s.reader.isSome

def close (s : Source) : Source := { s with reader := none, queue := [] }

def admits (filter : Option Filter) (r : Record) : Bool :=
  match filter with
  | none => true
  | some f => f.admits r

def readAhead (filter : Option Filter) (room : Nat) (reader : Reader) : Batch :=
  match room with
  | 0 => ⟨[], some reader, none, []⟩
  | rest + 1 =>
    match h : reader.next with
    | .record r next =>
      have _shorter := Reader.next_lt h
      if admits filter r then
        let batch := readAhead filter rest next
        { batch with records := r :: batch.records }
      else readAhead filter (rest + 1) next
    | .finished => ⟨[], none, none, []⟩
    | .truncated => ⟨[], none, none, [.partialTail reader.format]⟩
    | .failed error state => ⟨[], some state, some error, []⟩
termination_by reader.remaining

/-- Reads the next batch if nothing is left of the last one. After a failure, the records read before it stay
in the queue. -/
def restock (s : Source) : Call Source Unit :=
  match s.queue, s.reader with
  | [], some reader =>
    let batch := readAhead s.filter batchSize reader
    ⟨match batch.failure with | some e => .error e | none => .ok (),
      { s with reader := batch.reader, queue := batch.records }, batch.warnings⟩
  | _, _ => .ok () s

def peek (s : Source) : Call Source (Option Record) := s.restock.andThen fun _ s => .ok s.queue.head? s

def next (s : Source) : Call Source (Option Record) :=
  s.restock.andThen fun _ s => .ok s.queue.head? { s with queue := s.queue.tail }

def weight (s : Source) : Nat :=
  s.queue.length + match s.reader with
    | some reader => reader.remaining
    | none => 0

theorem readAhead_weight_le (filter : Option Filter) (room : Nat) (reader : Reader) :
    let batch := readAhead filter room reader
    weight ⟨batch.reader, filter, batch.records⟩ ≤ reader.remaining ∨ batch.failure.isSome := by
  fun_induction readAhead filter room reader with
  | case1 reader => simp [weight]
  | case2 reader rest r next hn shorter hadmit batch ih =>
    rcases ih with ih | ih
    · left
      simp only [weight, List.length_cons, batch] at ih ⊢
      omega
    · exact .inr ih
  | case3 reader rest r next hn shorter hadmit ih =>
    rcases ih with ih | ih
    · exact .inl (Nat.le_trans ih (Nat.le_of_lt shorter))
    · exact .inr ih
  | case4 => simp [weight]
  | case5 => simp [weight]
  | case6 => simp

theorem restock_weight_le {s : Source} (h : s.restock.answer = .ok ()) : s.restock.state.weight ≤ s.weight := by
  unfold restock at h ⊢
  split at h
  · next reader hq hr =>
    rcases readAhead_weight_le s.filter batchSize reader with hw | hf
    · simpa [weight, hq, hr] using hw
    · obtain ⟨e, he⟩ := Option.isSome_iff_exists.1 hf
      simp [he] at h
  · simp [Call.ok]

theorem next_weight_lt {s : Source} {r : Record} (h : s.next.answer = .ok (some r)) :
    s.next.state.weight < s.weight := by
  unfold next Call.andThen at h ⊢
  split at h
  · simp at h
  · next u hu =>
    have hw := restock_weight_le hu
    simp only [Call.ok, Except.ok.injEq] at h ⊢
    cases hq : s.restock.state.queue with
    | nil => simp [hq] at h
    | cons first rest =>
      simp only [weight, hq, List.length_cons, List.tail_cons] at hw ⊢
      omega

def drain (s : Source) : Drained Source Record :=
  let c := s.next
  match h : c.answer with
  | .error e => ⟨[], some e, c.state, c.warnings⟩
  | .ok none => ⟨[], none, c.state, c.warnings⟩
  | .ok (some r) =>
    have _lighter := next_weight_lt h
    let rest := drain c.state
    { rest with items := r :: rest.items, warnings := c.warnings ++ rest.warnings }
termination_by s.weight

end Source

end CaptureSieve
