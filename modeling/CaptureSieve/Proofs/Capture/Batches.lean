import CaptureSieve.Proofs.Capture.Outlook
import CaptureSieve.Writing.Writer

/-!
When reading ahead in batches shows: a failure behind some records is met, and answered, before the records that
were read in the same batch.
-/

namespace CaptureSieve.Source

def Aligned (size : Nat) (s : Source) : Prop := s.ahead.failure = none ∨ size ∣ s.ahead.records.length

variable {size : Nat} {s : Source}

lemma aligned_one (s : Source) : Aligned 1 s := .inr (Nat.one_dvd _)

lemma askBy_ahead (size : Nat) (a : Ask) (s : Source) :
    (askBy size a s).state.ahead = (s.restockBy size).state.ahead := by
  cases h : (s.restockBy size).answer with
  | error e => rw [(askBy_of_error h a).2]
  | ok u => cases a <;> simp [askBy, Call.andThen, h, Call.ok, ahead]

lemma restockBy_aligned (h : Aligned size s) : Aligned size (s.restockBy size).state := by
  by_cases hq : s.queue = []
  · obtain ⟨-, -, hahead⟩ := restockBy_of_empty size hq
    rw [Aligned, hahead]
    refine h.imp id fun hdvd => ?_
    rw [List.length_drop]
    exact Nat.dvd_sub hdvd (Nat.dvd_refl size)
  · rwa [restockBy_of_queued hq]

lemma aligned_of_restockBy {u : Unit} (hr : (s.restockBy size).answer = .ok u)
    (h : Aligned size (s.restockBy size).state) : Aligned size s := by
  by_cases hq : s.queue = []
  · obtain ⟨hanswer, -, hahead⟩ := restockBy_of_empty size hq
    rw [Aligned, hahead] at h
    by_cases hfull : size ≤ s.ahead.records.length
    · refine h.imp id fun hdvd => ?_
      rw [List.length_drop] at hdvd
      exact (Nat.dvd_sub_iff_left hfull (Nat.dvd_refl size)).mp hdvd
    · refine .inl ?_
      rw [hr, Outlook.shortfall, if_neg hfull] at hanswer
      cases hf : s.ahead.failure with
      | none => rfl
      | some e => simp [hf] at hanswer
  · rwa [restockBy_of_queued hq] at h

lemma outlook_of_aligned_error (h : Aligned size s) {e : SourceError}
    (he : (s.restockBy size).answer = .error e) : s.outlook = ⟨[], some e⟩ := by
  have hfailure := failure_of_restockBy_error he
  have hqueue : s.queue = [] := by
    by_contra hq
    simp [restockBy_of_queued hq, Call.ok] at he
  obtain ⟨hanswer, -, -⟩ := restockBy_of_empty size hqueue
  have hshort : s.ahead.records.length < size := by
    by_contra hfull
    simp [hanswer, Outlook.shortfall, Nat.not_lt.mp hfull] at he
  have hdvd : size ∣ s.ahead.records.length := h.resolve_left fun hnone => by
    rw [outlook, hnone] at hfailure
    simp at hfailure
  have hrecords : s.ahead.records = [] := List.length_eq_zero_iff.mp (Nat.eq_zero_of_dvd_of_lt hdvd hshort)
  have hnil : s.outlook.records = [] := by simp [outlook, hqueue, hrecords]
  cases ho : s.outlook with
  | mk records failure =>
    rw [ho] at hnil hfailure
    simp only at hnil hfailure
    rw [hnil, hfailure]

lemma askBy_of_aligned (hsize : 0 < size) (h : Aligned size s) (a : Ask) :
    (askBy size a s).answer = s.outlook.answer ∧
    (askBy size a s).state.outlook = (Outlook.ask a s.outlook).state := by
  cases hr : (s.restockBy size).answer with
  | ok u => exact askBy_of_ok hsize hr a
  | error e =>
    obtain ⟨hanswer, hstate⟩ := askBy_of_error hr a
    rw [hanswer, hstate, restockBy_outlook, outlook_of_aligned_error h hr]
    cases a <;> exact ⟨rfl, rfl⟩

lemma answers_of_aligned (hsize : 0 < size) (h : Aligned size s) (asks : List Ask) :
    answers (askBy size) asks s = answers Outlook.ask asks s.outlook := by
  apply answers_eq_of_simulation (fun t o => Aligned size t ∧ t.outlook = o) ?_ asks ⟨h, rfl⟩
  rintro a t _ ⟨ht, rfl⟩
  obtain ⟨hanswer, hstate⟩ := askBy_of_aligned hsize ht a
  refine ⟨by rw [hanswer, Outlook.ask_answer], ?_, hstate⟩
  have hrestock := restockBy_aligned ht
  rwa [Aligned, askBy_ahead]

lemma exists_answers_ne (hsize : 0 < size) (h : ¬ Aligned size s) :
    ∃ asks, answers (askBy size) asks s ≠ answers Outlook.ask asks s.outlook := by
  induction hn : s.outlook.records.length generalizing s with
  | zero =>
    refine absurd (.inr ?_) h
    have hrecords : s.ahead.records.length = 0 := by
      simp only [outlook, List.length_append] at hn
      omega
    exact hrecords ▸ Nat.dvd_zero size
  | succ n ih =>
    cases hr : (s.restockBy size).answer with
    | error e =>
      -- The batch with the failure is asked for here, and records that it did read are still due.
      refine ⟨[.next], fun heq => ?_⟩
      obtain ⟨r, rest, hrecords⟩ := List.exists_cons_of_length_eq_add_one hn
      simp [answers, (askBy_of_error hr .next).1, Outlook.answer, hrecords] at heq
    | ok u =>
      obtain ⟨-, hstate⟩ := askBy_of_ok hsize hr .next
      have hunaligned : ¬ Aligned size (askBy size .next s).state := fun hnext => by
        rw [Aligned, askBy_ahead] at hnext
        exact h (aligned_of_restockBy hr hnext)
      obtain ⟨asks, hne⟩ := ih hunaligned (by rw [hstate]; simp [Outlook.ask, hn])
      refine ⟨.next :: asks, fun heq => hne ?_⟩
      simp only [answers, List.cons.injEq] at heq
      rw [heq.2, hstate]

lemma outlook_of_ofStream {stream : ByteStream} {filter : Option Filter} (h : ofStream stream filter = .ok s) :
    s.outlook = s.ahead := by
  rw [ofStream] at h
  cases hr : Reader.ofStream stream with
  | error e => simp [hr, Except.map] at h
  | ok reader =>
    obtain rfl := Except.ok.inj (hr ▸ h)
    rfl

theorem answers_eq_unbatched_iff {stream : ByteStream} {filter : Option Filter} {source : Source}
    (h : ofStream stream filter = .ok source) :
    (∀ asks, answers (askBy 1) asks source = answers Outlook.ask asks source.outlook) ∧
    ((∀ asks, answers ask asks source = answers (askBy 1) asks source) ↔
      source.outlook.failure = none ∨ batchSize ∣ source.outlook.records.length) := by
  have hone := answers_of_aligned Nat.one_pos (aligned_one source)
  refine ⟨hone, ?_⟩
  simp only [hone, ask_eq_askBy]
  rw [outlook_of_ofStream h]
  constructor
  · intro hsame
    by_contra hunaligned
    obtain ⟨asks, hne⟩ := exists_answers_ne (by decide) hunaligned
    exact hne (outlook_of_ofStream h ▸ hsame asks)
  · intro haligned asks
    rw [answers_of_aligned (by decide) haligned, outlook_of_ofStream h]

def brokenSecond : ByteStream :=
  .ofBytes (fileHeader 65535 .raw ++ recordHeader 1 0 1 1 ++ [0x45] ++ recordHeader 2 0 0xffff_ffff 1)

theorem batches_show_at_brokenSecond :
    ∃ source, ofStream brokenSecond none = .ok source ∧
      ¬ ∀ asks, answers ask asks source = answers (askBy 1) asks source := by
  refine ⟨_, rfl, fun hsame => ?_⟩
  have hbatches := (@answers_eq_unbatched_iff brokenSecond none _ rfl).2.mp hsame
  revert hbatches
  decide +kernel

def firstOfTwo : Record := ⟨⟨1_000_000_000, by decide⟩, .raw, 1, [0x45]⟩

theorem failure_answered_before_record :
    ∃ source, ofStream brokenSecond none = .ok source ∧
      answers ask [.peek, .next, .next] source =
        [.error (.capture .pcap .next .bufferFull), .ok (some firstOfTwo),
          .error (.capture .pcap .next .bufferFull)] ∧
      answers (askBy 1) [.peek, .next, .next] source =
        [.ok (some firstOfTwo), .ok (some firstOfTwo), .error (.capture .pcap .next .bufferFull)] := by
  refine ⟨_, rfl, ?_, ?_⟩ <;> decide +kernel

end CaptureSieve.Source
