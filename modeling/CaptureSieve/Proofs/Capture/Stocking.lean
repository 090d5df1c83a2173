import CaptureSieve.Proofs.Capture.Passes

/-!
The calls on a source pass by pass: a batch is filled by one search for a record after another. Every call returns, and
with the answer of the source.
-/

namespace CaptureSieve

variable {d : Dialect}

def Batch.behind (records : List Record) (warnings : List Warning) (batch : Batch) : Batch :=
  ⟨records ++ batch.records, batch.reader, batch.failure, warnings ++ batch.warnings⟩

@[simp] lemma Batch.behind_empty (records : List Record) (warnings later : List Warning) (reader : Option Reader)
    (failure : Option SourceError) :
    behind records warnings ⟨[], reader, failure, later⟩ = ⟨records, reader, failure, warnings ++ later⟩ := by
  rw [behind, List.append_nil]

structure Stocking (d : Dialect) where
  reading : Option (Reading d)
  filter : Option Filter
  queue : List Record
  warnings : List Warning
  calls : Nat

namespace Stocking

def source (s : Stocking d) : Source := ⟨s.reading.map Reading.reader, s.filter, s.queue⟩

def settle (s : Stocking d) (c : Call (Reading d) (Option Record)) :
    Pass (Stocking d) (Except SourceError Unit × Stocking d) :=
  let t : Stocking d :=
    { s with reading := some c.state, warnings := s.warnings ++ c.warnings, calls := s.calls + 1 }
  match c.answer with
  | .error e => .returned (.error e, t)
  | .ok none => .again { t with reading := none }
  | .ok (some r) => .again (if Source.admits s.filter r then { t with queue := s.queue ++ [r] } else t)

def pass (s : Stocking d) : Pass (Stocking d) (Except SourceError Unit × Stocking d) :=
  if batchSize ≤ s.queue.length then .returned (.ok (), s)
  else
    match s.reading with
    | none => .returned (.ok (), s)
    | some reading =>
      match reading.pass with
      | .again next => .again { s with reading := some next }
      | .returned c => s.settle c

def due (s : Stocking d) : Batch :=
  match s.reading with
  | none => ⟨s.queue, none, none, s.warnings⟩
  | some reading =>
    (Source.readAhead s.filter (batchSize - s.queue.length) reading.reader).behind s.queue s.warnings

def stocked (s : Stocking d) (answer : Except SourceError Unit) : Batch where
  records := s.queue
  reader := s.reading.map Reading.reader
  failure := match answer with
    | .ok () => none
    | .error e => some e
  warnings := s.warnings

def Fresh (s : Stocking d) : Prop := ∀ r ∈ s.reading, r.ended = false

def Sound (s : Stocking d) : Prop := ∀ r ∈ s.reading, r.Sound ∧ (r.ended = true → s.queue.length < batchSize)

def budget (s : Stocking d) : Nat := s.reading.elim 0 fun r => r.budget + 1

/-- A bound on the searches: each takes bytes, but for the one that meets the end. -/
def callsLeft (s : Stocking d) : Nat := s.reading.elim 0 fun r => r.intake.rest.length + 1

inductive Passes (s : Stocking d) : Pass (Stocking d) (Except SourceError Unit × Stocking d) → Prop
  | again {t : Stocking d} (less : t.budget < s.budget) (calls : t.calls + t.callsLeft ≤ s.calls + s.callsLeft)
      (filter : t.filter = s.filter) (keeps : s.Sound → t.due = s.due ∧ t.Sound) : Passes s (.again t)
  | returned {answer : Except SourceError Unit} {t : Stocking d} (calls : t.calls ≤ s.calls + s.callsLeft)
      (filter : t.filter = s.filter) (gives : s.Sound → s.due = t.stocked answer ∧ t.Fresh) :
      Passes s (.returned (answer, t))

variable {s t : Stocking d}

lemma sound_of_fresh (h : s.Fresh) : s.Sound := by
  intro r hr
  have hopen := h r hr
  exact ⟨Reading.sound_of_not_ended hopen, fun hended => by simp [hopen] at hended⟩

lemma due_of_reading {reading : Reading d} (h : s.reading = some reading) {room : Nat}
    (hroom : batchSize - s.queue.length = room) :
    s.due = (Source.readAhead s.filter room reading.reader).behind s.queue s.warnings := by
  simp only [due, h, hroom]

lemma exists_room (h : s.queue.length < batchSize) : ∃ room, batchSize - s.queue.length = room + 1 :=
  Nat.exists_eq_add_one.mpr (Nat.sub_pos_of_lt h)

section Settle

variable {reading : Reading d} {c : Call (Reading d) (Option Record)}

lemma passes_settle_error (h : s.reading = some reading) (hroom : s.queue.length < batchSize)
    (hpass : reading.pass = .returned c) {e : SourceError} (hc : c.answer = .error e) : s.Passes (s.settle c) := by
  simp only [settle, hc]
  refine .returned ?_ rfl fun hs => ?_
  · simp only [callsLeft, h, Option.elim_some]
    omega
  · obtain ⟨hstep, hopen, hwarnings⟩ := (Reading.gives_of_pass hpass (hs reading h).1).of_error hc
    obtain ⟨room, hspace⟩ := exists_room hroom
    refine ⟨?_, ?_⟩
    · rw [due_of_reading h hspace, Source.readAhead_succ, hstep]
      simp [stocked, hwarnings]
    · rintro _ ⟨⟩
      exact hopen

lemma passes_settle_none (h : s.reading = some reading) (hroom : s.queue.length < batchSize)
    (hpass : reading.pass = .returned c) (hc : c.answer = .ok none) : s.Passes (s.settle c) := by
  simp only [settle, hc]
  refine .again ?_ ?_ rfl fun hs => ⟨?_, by simp [Sound]⟩
  · simp [budget, h]
  · simp only [callsLeft, h, Option.elim_some, Option.elim_none]
    omega
  · -- The warning names the format of the reader, the loop has only that of the dialect.
    obtain ⟨room, hspace⟩ := exists_room hroom
    rw [due_of_reading h hspace, Source.readAhead_succ]
    have hformat : reading.reader.format = d.format := d.format_reader _ _
    rcases (Reading.gives_of_pass hpass (hs reading h).1).of_none hc with ⟨hstep, hwarnings⟩ | ⟨hstep, hwarnings⟩
    · rw [hstep]
      simp [due, hwarnings]
    · rw [hstep]
      simp [due, hwarnings, hformat]

lemma passes_settle_some (h : s.reading = some reading) (hroom : s.queue.length < batchSize)
    (hpass : reading.pass = .returned c) {r : Record} (hc : c.answer = .ok (some r)) : s.Passes (s.settle c) := by
  have htakes := Reading.takes_of_pass hpass hc
  have hless := htakes.budget_lt
  have hrest := htakes.rest_lt
  simp only [settle, hc]
  refine .again ?_ ?_ ?_ fun hs => ?_
  · split
    all_goals simpa [budget, h] using hless
  · split
    all_goals
      simp only [callsLeft, h, Option.elim_some]
      omega
  · split <;> rfl
  · obtain ⟨hstep, hopen, hwarnings⟩ := (Reading.gives_of_pass hpass (hs reading h).1).of_some hc
    obtain ⟨room, hspace⟩ := exists_room hroom
    rw [due_of_reading h hspace, Source.readAhead_succ, hstep, hwarnings, List.append_nil]
    dsimp only
    by_cases hpasses : Source.admits s.filter r
    · have hlength : batchSize - (s.queue ++ [r]).length = room := by
        rw [List.length_append, List.length_singleton]
        omega
      rw [if_pos hpasses, if_pos hpasses]
      refine ⟨?_, sound_of_fresh ?_⟩
      · rw [due_of_reading rfl hlength]
        simp only [Batch.behind, List.append_assoc, List.singleton_append]
      · rintro _ ⟨⟩
        exact hopen
    · rw [if_neg hpasses, if_neg hpasses]
      refine ⟨due_of_reading rfl hspace, sound_of_fresh ?_⟩
      rintro _ ⟨⟩
      exact hopen

end Settle

lemma passes_pass (s : Stocking d) : s.Passes s.pass := by
  rw [pass]
  by_cases hfull : batchSize ≤ s.queue.length
  · rw [if_pos hfull]
    refine .returned (Nat.le_add_right _ _) rfl fun hs => ?_
    have hspace : batchSize - s.queue.length = 0 := Nat.sub_eq_zero_of_le hfull
    refine ⟨?_, fun r hr => ?_⟩
    · cases h : s.reading with
      | none => simp [due, stocked, h]
      | some reading => simp [due_of_reading h hspace, stocked, h, Source.readAhead]
    · -- An end is met only while there is room.
      by_contra hended
      exact Nat.not_lt.mpr hfull ((hs r hr).2 (Bool.not_eq_false _ ▸ hended))
  rw [if_neg hfull]
  have hroom : s.queue.length < batchSize := Nat.not_le.mp hfull
  split
  · next h => exact .returned (Nat.le_add_right _ _) rfl fun _ => ⟨by simp [due, stocked, h], by simp [Fresh, h]⟩
  · next reading h =>
    split
    · next next hpass =>
      have hadvances := Reading.advances_of_pass hpass
      refine .again ?_ ?_ rfl fun hs => ?_
      · simpa [budget, h] using hadvances.budget_lt
      · have hrest := hadvances.rest_le
        simp only [callsLeft, h, Option.elim_some]
        omega
      · obtain ⟨hnext, hsound⟩ := Reading.keeps_of_pass hpass (hs reading h).1
        obtain ⟨room, hspace⟩ := exists_room hroom
        refine ⟨?_, ?_⟩
        · rw [due_of_reading (s := { s with reading := some next }) rfl hspace, due_of_reading h hspace,
            Reading.readAhead_of_next hnext]
        · rintro _ ⟨⟩
          exact ⟨hsound, fun _ => hroom⟩
    · next c hpass =>
      rcases hc : c.answer with e | _ | r
      · exact passes_settle_error h hroom hpass hc
      · exact passes_settle_none h hroom hpass hc
      · exact passes_settle_some h hroom hpass hc

def begun (s : Stocking d) : Stocking d := { s with warnings := [], calls := 0 }

def left : Ask → Stocking d → Stocking d
  | .next, s => { s with queue := s.queue.tail }
  | .peek, s => s

inductive Answers (s : Stocking d) (a : Ask) : Nat → Except SourceError (Option Record) → Stocking d → Prop
  | queued (h : s.queue ≠ []) : Answers s a 0 (.ok s.queue.head?) (s.begun.left a)
  | stocked {n : Nat} {t : Stocking d} (h : s.queue = []) (returns : Returns pass s.begun n (.ok (), t)) :
      Answers s a n (.ok t.queue.head?) (t.left a)
  | failed {n : Nat} {e : SourceError} {t : Stocking d} (h : s.queue = [])
      (returns : Returns pass s.begun n (.error e, t)) : Answers s a n (.error e) t

structure Replies (s : Stocking d) (a : Ask) (n : Nat) (answer : Except SourceError (Option Record))
    (t : Stocking d) : Prop where
  answers : s.Answers a n answer t
  passes : n ≤ s.budget + 1
  calls : t.calls ≤ s.callsLeft
  agrees : s.source.ask a = ⟨answer, t.source, t.warnings⟩

inductive Session : List Request → Stocking d → Stocking d → Prop
  | nil (s : Stocking d) : Session [] s s
  | ask {s t u : Stocking d} {a : Ask} {n : Nat} {answer : Except SourceError (Option Record)}
      {requests : List Request} (h : s.Answers a n answer t) (later : Session requests t u) :
      Session (.ask a :: requests) s u
  | close {s u : Stocking d} {requests : List Request}
      (later : Session requests { s with reading := none, queue := [] } u) : Session (.close :: requests) s u
  | isOpen {s u : Stocking d} {requests : List Request} (later : Session requests s u) :
      Session (.isOpen :: requests) s u

lemma exists_returns (s : Stocking d) : ∃ n r, n ≤ s.budget + 1 ∧ Returns pass s n r := by
  refine CaptureSieve.exists_returns budget (fun {s t} h => ?_) s
  have hpasses := h ▸ passes_pass s
  cases hpasses with
  | again less => exact less

structure LeadsTo (s t : Stocking d) : Prop where
  due : t.due = s.due
  sound : t.Sound
  filter : t.filter = s.filter
  calls : t.calls + t.callsLeft ≤ s.calls + s.callsLeft

lemma leadsTo_of_pass {u : Stocking d} (h : t.pass = .again u) (ht : s.LeadsTo t) : s.LeadsTo u := by
  have hpasses := h ▸ passes_pass t
  cases hpasses with
  | again less calls filter keeps =>
    obtain ⟨hdue, hsound⟩ := keeps ht.sound
    exact ⟨hdue.trans ht.due, hsound, filter.trans ht.filter, Nat.le_trans calls ht.calls⟩

section Returned

variable {n : Nat} {answer : Except SourceError Unit}

lemma outcome_of_returns (h : Returns pass s n (answer, t)) (hs : s.Sound) :
    s.due = t.stocked answer ∧ t.Fresh ∧ t.filter = s.filter ∧ t.calls ≤ s.calls + s.callsLeft := by
  obtain ⟨u, hu, hlast⟩ := h.keeps (I := s.LeadsTo) leadsTo_of_pass ⟨rfl, hs, rfl, Nat.le_refl _⟩
  have hpasses := hlast ▸ passes_pass u
  cases hpasses with
  | returned calls filter gives =>
    obtain ⟨hstocked, hfresh⟩ := gives hu.sound
    exact ⟨hu.due.symm.trans hstocked, hfresh, filter.trans hu.filter, Nat.le_trans calls hu.calls⟩

lemma restock_of_due (h : s.queue = []) :
    s.source.restock = ⟨match s.begun.due.failure with | some e => .error e | none => .ok (),
      ⟨s.begun.due.reader, s.filter, s.begun.due.records⟩, s.begun.due.warnings⟩ := by
  obtain ⟨reading, filter, queue, warnings, calls⟩ := s
  obtain rfl : queue = [] := h
  cases reading with
  | none => rfl
  | some reading =>
    have hdue : due (begun ⟨some reading, filter, [], warnings, calls⟩) =
        Source.readAhead filter batchSize reading.reader := rfl
    rw [hdue]
    rfl

lemma restock_of_returns (hqueue : s.queue = []) (hs : s.Fresh) (h : Returns pass s.begun n (answer, t)) :
    s.source.restock = ⟨answer, t.source, t.warnings⟩ := by
  obtain ⟨hdue, -, hfilter, -⟩ := outcome_of_returns h (sound_of_fresh hs)
  rw [restock_of_due hqueue, hdue]
  have hsame : s.filter = t.filter := hfilter.symm
  rw [hsame]
  cases answer <;> rfl

end Returned

lemma ask_of_restock (a : Ask) (h : s.source.restock = ⟨.ok (), t.source, t.warnings⟩) :
    s.source.ask a = ⟨.ok t.queue.head?, (t.left a).source, (t.left a).warnings⟩ := by
  cases a with
  | next =>
    rw [Source.ask, Source.next, h]
    exact congrArg (Call.mk _ _) (List.append_nil _)
  | peek =>
    rw [Source.ask, Source.peek, h]
    exact congrArg (Call.mk _ _) (List.append_nil _)

lemma ask_of_failed (a : Ask) {e : SourceError} (h : s.source.restock = ⟨.error e, t.source, t.warnings⟩) :
    s.source.ask a = ⟨.error e, t.source, t.warnings⟩ := by
  cases a with
  | next =>
    rw [Source.ask, Source.next, h]
    rfl
  | peek =>
    rw [Source.ask, Source.peek, h]
    rfl

lemma restock_of_queued (h : s.queue ≠ []) :
    s.source.restock = ⟨.ok (), s.begun.source, s.begun.warnings⟩ := by
  rw [Source.restock]
  split
  · next hempty _ => exact absurd hempty h
  · rfl

lemma exists_replies (a : Ask) (hs : s.Fresh) : ∃ n answer t, s.Replies a n answer t ∧ t.Fresh := by
  by_cases hqueue : s.queue = []
  · obtain ⟨n, ⟨answer, t⟩, hn, hreturns⟩ := exists_returns s.begun
    obtain ⟨-, hfresh, -, hcalls⟩ := outcome_of_returns hreturns (sound_of_fresh hs)
    have hrestock := restock_of_returns hqueue hs hreturns
    have hleft : t.calls ≤ s.callsLeft := by simpa [begun, callsLeft] using hcalls
    cases answer with
    | ok u =>
      refine ⟨n, .ok t.queue.head?, t.left a, ⟨.stocked hqueue hreturns, hn, ?_, ask_of_restock a hrestock⟩, ?_⟩
      · cases a <;> exact hleft
      · cases a <;> exact hfresh
    | error e =>
      exact ⟨n, .error e, t, ⟨.failed hqueue hreturns, hn, hleft, ask_of_failed a hrestock⟩, hfresh⟩
  · refine ⟨0, .ok s.queue.head?, s.begun.left a,
      ⟨.queued hqueue, Nat.zero_le _, ?_, ask_of_restock a (restock_of_queued hqueue)⟩, ?_⟩
    · cases a <;> exact Nat.zero_le _
    · cases a <;> exact hs

lemma exists_session (requests : List Request) (hs : s.Fresh) :
    ∃ t, Session requests s t ∧ t.Fresh ∧ t.source = s.source.after requests := by
  induction requests generalizing s with
  | nil => exact ⟨s, .nil s, hs, rfl⟩
  | cons request requests ih =>
    cases request with
    | ask a =>
      obtain ⟨n, answer, t, hreplies, hfresh⟩ := exists_replies a hs
      obtain ⟨u, hlater, hu, hsource⟩ := ih hfresh
      have hstate : t.source = (s.source.perform (.ask a)).2 := by rw [Source.perform, hreplies.agrees]
      rw [hstate] at hsource
      exact ⟨u, .ask hreplies.answers hlater, hu, hsource⟩
    | close =>
      have hclosed : Fresh (d := d) { s with reading := none, queue := [] } := by simp [Fresh]
      obtain ⟨u, hlater, hu, hsource⟩ := ih hclosed
      exact ⟨u, .close hlater, hu, hsource⟩
    | isOpen =>
      obtain ⟨u, hlater, hu, hsource⟩ := ih hs
      exact ⟨u, .isOpen hlater, hu, hsource⟩

structure Opens (x : ByteStream) (filter : Option Filter) (s : Stocking d) : Prop where
  reading : ∃ r, s.reading = some r ∧ r.intake = .filled x ∧ r.ended = false
  filter : s.filter = filter
  queue : s.queue = []

end Stocking

lemma Reading.exists_opened {x : ByteStream} {reader : Reader} (h : Reader.ofStream x = .ok reader) :
    ∃ (d : Dialect) (r : Reading d), (d = Pcap.dialect ∨ d = Pcapng.dialect) ∧ r.reader = reader ∧
      r.intake = .filled x ∧ r.ended = false := by
  rcases Opening.opens_of_ofStream h with ⟨-, hopen⟩ | ⟨-, hopen⟩
  · rw [Reader.openPcapng] at hopen
    split at hopen
    · obtain rfl := Except.ok.inj hopen
      exact ⟨Pcapng.dialect, behind .start (.filled x) false, .inr rfl, reader_behind _ _ _, rfl, rfl⟩
    all_goals simp at hopen
  · rw [Reader.openPcap] at hopen
    split at hopen
    · next header hheader =>
      obtain rfl := Except.ok.inj hopen
      have hsize : Pcap.headerSize ≤ (Intake.filled x).buffered := Pcap.FileHeader.headerSize_le hheader
      exact ⟨Pcap.dialect, ⟨header, .filled x, Pcap.headerSize, false, hsize⟩, .inl rfl, rfl, rfl, rfl⟩
    · simp at hopen

namespace Source

open Stocking in
theorem calls_return {x : ByteStream} {filter : Option Filter} {source : Source} (h : ofStream x filter = .ok source) :
    ∃ (d : Dialect) (start : Stocking d), (d = Pcap.dialect ∨ d = Pcapng.dialect) ∧ start.Opens x filter ∧
      start.source = source ∧
      (∀ s t : Reading d, s.pass = .again t → s.Advances t) ∧
      (∀ s : Reading d, ∃ n c, n ≤ s.budget + 1 ∧ Returns Reading.pass s n c) ∧
      ∀ requests, ∃ s : Stocking d, Session requests start s ∧ s.source = source.after requests ∧
        ∀ a, ∃ n answer t, s.Replies a n answer t := by
  obtain ⟨reader, hreader, rfl⟩ := opened_of_ofStream h
  obtain ⟨d, r, hd, rfl, hintake, hended⟩ := Reading.exists_opened hreader
  have hfresh : Fresh ⟨some r, filter, [], [], 0⟩ := by
    rintro _ ⟨⟩
    exact hended
  refine ⟨d, ⟨some r, filter, [], [], 0⟩, hd, ⟨⟨r, rfl, hintake, hended⟩, rfl, rfl⟩, rfl,
    fun s t => Reading.advances_of_pass, fun s => ?_, fun requests => ?_⟩
  · exact CaptureSieve.exists_returns Reading.budget (fun hagain => (Reading.advances_of_pass hagain).budget_lt) s
  · obtain ⟨s, hsession, hs, hsource⟩ := exists_session requests hfresh
    refine ⟨s, hsession, hsource, fun a => ?_⟩
    obtain ⟨n, answer, t, hreplies, -⟩ := exists_replies a hs
    exact ⟨n, answer, t, hreplies⟩

lemma exists_answers_of_checked {x : ByteStream} {filter : Option Filter} {answer : Except SourceError (Option Record)}
    (h : (ofStream x filter).toOption.any (fun s => (ask .next s).answer = answer) = true) :
    ∃ source, ofStream x filter = .ok source ∧ (ask .next source).answer = answer := by
  cases hx : ofStream x filter with
  | error e => simp [hx, Except.toOption] at h
  | ok source => exact ⟨source, rfl, of_decide_eq_true (by rwa [hx] at h)⟩

-- The stream ends inside its second record, and the filter admits no record at all.
theorem calls_return_cut :
    let x : ByteStream := ⟨fileHeader 65535 .raw ++ (echo.bytes ++ [0, 0]), .closed, fun _ => 1⟩
    ∃ source, ofStream x (some ⟨"ip6".toList, .primitive (.protocol .ip6)⟩) = .ok source ∧
      ∃ (d : Dialect) (s t : Stocking d) (n : Nat), s.source = source ∧ s.Replies .next n (.ok none) t := by
  intro x
  obtain ⟨source, hx, hnone⟩ := exists_answers_of_checked
    (show (ofStream x (some ⟨"ip6".toList, .primitive (.protocol .ip6)⟩)).toOption.any
      (fun s => (ask .next s).answer = .ok none) = true by decide +kernel)
  obtain ⟨d, start, -, -, -, -, -, hsessions⟩ := calls_return hx
  obtain ⟨s, -, hsource, hreplies⟩ := hsessions []
  obtain ⟨n, answer, t, h⟩ := hreplies .next
  have hanswer : answer = .ok none := by
    have hagrees := h.agrees
    rw [hsource] at hagrees
    exact (congrArg Call.answer hagrees).symm.trans hnone
  exact ⟨source, hx, d, s, t, n, hsource, hanswer ▸ h⟩

end Source

end CaptureSieve
