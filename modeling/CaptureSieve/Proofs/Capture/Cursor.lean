import CaptureSieve.Proofs.Capture.Tails

/-!
A source that meets no error is a cursor over the records that its filter admits: it answers by the first of those that
are left, and its end is for good.
-/

namespace CaptureSieve

def Request.left : Request → List Record → List Record
  | .ask .next, records => records.tail
  | .ask .peek, records => records
  | .close, _ => []
  | .isOpen, records => records

namespace Source

def after (requests : List Request) (s : Source) : Source := requests.foldl (fun s request => (s.perform request).2) s

def Ended (s : Source) : Prop :=
  ∀ requests, (s.after requests).isOpen = false ∧ ∀ a, (ask a (s.after requests)).answer = .ok none

structure CursorOver (records : List Record) (s : Source) : Prop where
  answer : ∀ requests a,
    (ask a (s.after requests)).answer = .ok (requests.foldl (fun left request => request.left left) records).head?
  ends : ∀ requests a, (ask a (s.after requests)).answer = .ok none → (ask a (s.after requests)).state.Ended
  closes : ∀ requests, (s.after requests).close.Ended
  stays : ∀ requests later, (s.after requests).isOpen = false → (s.after (requests ++ later)).isOpen = false

variable {s : Source}

lemma outlook_perform (h : s.outlook.failure = none) (request : Request) :
    (s.perform request).2.outlook = ⟨request.left s.outlook.records, none⟩ := by
  cases request with
  | ask a =>
    rw [perform, (ask_of_clean h a).2, ← h]
    cases a <;> rfl
  | close => rfl
  | isOpen =>
    rw [perform, ← h]
    rfl

lemma outlook_after (requests : List Request) (h : s.outlook.failure = none) :
    (s.after requests).outlook =
      ⟨requests.foldl (fun left request => request.left left) s.outlook.records, none⟩ := by
  induction requests generalizing s with
  | nil =>
    rw [← h]
    rfl
  | cons request requests ih =>
    have hstep := outlook_perform h request
    have hlater := ih (s := (s.perform request).2) (by rw [hstep])
    rw [hstep] at hlater
    exact hlater

lemma reader_of_restock_empty (h : s.restock.answer = .ok ()) (hempty : s.restock.state.queue = []) :
    s.restock.state.reader = none := by
  obtain ⟨reader, filter, queue⟩ := s
  cases queue with
  | cons r rest => simp [restock, Call.ok] at hempty
  | nil =>
    cases reader with
    | none => rfl
    | some reader =>
      have hclean : (readAhead filter batchSize reader).failure = none := by
        cases hf : (readAhead filter batchSize reader).failure with
        | none => rfl
        | some e => simp [restock, hf] at h
      exact reader_of_readAhead_empty (by decide) hempty hclean

lemma spent_of_answer_none {a : Ask} (h : (ask a s).answer = .ok none) :
    (ask a s).state.reader = none ∧ (ask a s).state.queue = [] := by
  cases hr : s.restock.answer with
  | error e => cases a <;> simp [ask, next, peek, Call.andThen, hr] at h
  | ok u =>
    have hqueue : s.restock.state.queue = [] := by
      cases a <;> simpa [ask, next, peek, Call.andThen, Call.ok, hr] using h
    have hreader := reader_of_restock_empty hr hqueue
    cases a <;> simp [ask, next, peek, Call.andThen, Call.ok, hr, hqueue, hreader]

lemma reader_perform (request : Request) (h : s.reader = none) : (s.perform request).2.reader = none := by
  cases request with
  | ask a => cases a <;> simp [perform, ask, next, peek, restock, Call.andThen, Call.ok, h]
  | close => rfl
  | isOpen => exact h

lemma reader_after (requests : List Request) (h : s.reader = none) : (s.after requests).reader = none := by
  induction requests generalizing s with
  | nil => exact h
  | cons request requests ih => exact ih (reader_perform request h)

lemma after_of_spent (requests : List Request) (hr : s.reader = none) (hq : s.queue = []) : s.after requests = s := by
  obtain ⟨reader, filter, queue⟩ := s
  dsimp only at hr hq
  subst hr hq
  induction requests with
  | nil => rfl
  | cons request requests ih =>
    have hsame : (perform request ⟨none, filter, []⟩).2 = ⟨none, filter, []⟩ := by
      cases request with
      | ask a => cases a <;> rfl
      | close => rfl
      | isOpen => rfl
    rw [after, List.foldl_cons, hsame]
    exact ih

lemma ended_of_spent (hr : s.reader = none) (hq : s.queue = []) : s.Ended := by
  intro requests
  rw [after_of_spent requests hr hq]
  refine ⟨by rw [isOpen, hr]; rfl, fun a => ?_⟩
  cases a <;> simp [ask, next, peek, restock, Call.andThen, Call.ok, hr, hq]

lemma cursorOver_of_outlook {records : List Record} (h : s.outlook = ⟨records, none⟩) : s.CursorOver records := by
  constructor
  · intro requests a
    have houtlook := outlook_after requests (s := s) (by rw [h])
    rw [(ask_of_clean (by rw [houtlook]) a).1, houtlook, h, Outlook.answer_of_clean]
  · intro requests a hnone
    obtain ⟨hreader, hqueue⟩ := spent_of_answer_none hnone
    exact ended_of_spent hreader hqueue
  · intro requests
    exact ended_of_spent rfl rfl
  · intro requests later hclosed
    have hreader : (s.after requests).reader = none := Option.not_isSome_iff_eq_none.mp (by simpa [isOpen] using hclosed)
    rw [after, List.foldl_append, isOpen]
    exact congrArg Option.isSome (reader_after later hreader)

theorem cursorOver_of_clean {x : ByteStream} {whole : Source} (hx : ofStream x none = .ok whole)
    (hclean : whole.drain.failure = none) :
    ∃ (o : Opening) (pieces : List Piece), o.Heads x.bytes pieces ∧ whole.drain.items = Piece.records pieces ∧
      ∀ filter, ∃ source, ofStream x filter = .ok source ∧
        source.CursorOver ((Piece.records pieces).filter (admits filter)) := by
  obtain ⟨o, pieces, hheads, hitems⟩ := pieces_of_clean hx hclean
  have hall : whole.drain.items = Piece.records pieces := by
    rw [hitems]
    exact List.filter_eq_self.mpr fun _ _ => rfl
  refine ⟨o, pieces, hheads, hall, fun filter => ?_⟩
  obtain ⟨reader, hreader, rfl⟩ := opened_of_ofStream hx
  refine ⟨⟨some reader, filter, []⟩, by rw [ofStream, hreader]; rfl, ?_⟩
  rw [drain_failure] at hclean
  rw [drain_items hclean] at hall
  apply cursorOver_of_outlook
  have hwhole : reader.outlook none = ⟨Piece.records pieces, none⟩ := by
    rw [← hall, ← hclean]
    rfl
  have houtlook : outlook ⟨some reader, filter, []⟩ = reader.outlook filter := rfl
  rw [houtlook, Reader.outlook_eq_filter, hwhole]

def onlyIp : Filter := ⟨"ip".toList, .primitive (.protocol .ip)⟩

def echo : Entry := ⟨.epoch, 20, [0x45, 0, 0, 20, 0, 0, 0, 0, 64, 1, 0, 0, 10, 0, 0, 1, 10, 0, 0, 2]⟩

-- Between two headers there is a record that is none, and the stream ends inside a fourth.
def echoes : List Entry := [echo, ⟨.epoch, 20, [0x45, 0]⟩, { echo with wireLength := 60 }]

theorem cursorOver_echoes :
    let bytes := fileHeader 65535 .raw ++ (echoes.flatMap Entry.bytes ++ [0, 0])
    ∃ whole source, ofStream ⟨bytes, .closed, fun _ => 1⟩ none = .ok whole ∧ whole.drain.failure = none ∧
      ofStream ⟨bytes, .closed, fun _ => 1⟩ (some onlyIp) = .ok source ∧
      source.CursorOver [⟨.epoch, .raw, 20, echo.data⟩, ⟨.epoch, .raw, 60, echo.data⟩] := by
  intro bytes
  obtain ⟨whole, hx, hgives⟩ := exists_gives_of_checked
    (show (ofStream ⟨bytes, .closed, fun _ => 1⟩ none).toOption.any
      (fun s => s.Gives (echoes.map (Entry.record .raw)) [.partialTail .pcap]) = true by decide +kernel)
  have hfits : ∀ e ∈ echoes, e.Fits := by
    have hshort : ∀ e ∈ echoes, e.time = .epoch ∧ e.data.length ≤ 65520 := by decide
    exact fun e he => .of_epoch (hshort e he).1 (hshort e he).2
  have hadmitted : (Piece.records (echoes.map (Entry.piece .raw))).filter (admits (some onlyIp)) =
      [⟨.epoch, .raw, 20, echo.data⟩, ⟨.epoch, .raw, 60, echo.data⟩] := by
    decide +kernel
  obtain ⟨o, pieces, hheads, -, hcursor⟩ := cursorOver_of_clean hx hgives.failure
  obtain ⟨rfl, rfl⟩ := hheads.unique (Opening.heads_written 65535 .raw hfits (by decide) (by decide))
  obtain ⟨source, hsource, hover⟩ := hcursor (some onlyIp)
  exact ⟨whole, source, hx, hgives.failure, hsource, hadmitted ▸ hover⟩

end Source

end CaptureSieve
