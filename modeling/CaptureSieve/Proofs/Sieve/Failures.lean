import CaptureSieve.Proofs.Sieve.Totals

/-!
Runs that a source ends before its time: what was accepted until then is written and counted, and nothing else.
-/

namespace CaptureSieve

namespace Sieve

variable {settings : Settings} {m : Merge} {i : Input}

lemma accepted_of_count (records : List Record) (t : Tally) :
    (records.foldl (count settings) t).accepted = t.accepted + (records.filterMap (output? settings)).length := by
  induction records generalizing t with
  | nil => rfl
  | cons r rest ih =>
    rw [List.foldl_cons, ih]
    cases hr : output? settings r with
    | none => simp [count_of_none hr, Tally.drop, hr]
    | some e =>
      simp only [count, hr, Option.isSome_some, if_true, Tally.accept, List.filterMap_cons, List.length_cons]
      omega

/-- What keeps an input from being opened: first the filter, then the traffic, then the DNS capture. -/
inductive Unopened (i : Input) : SourceError → Prop
  | filter {e : SourceError} (h : compiled i.filter = .error e) : Unopened i e
  | traffic {filter : Option Filter} {e : SourceError} (hf : compiled i.filter = .ok filter)
      (h : Source.ofStream i.traffic filter = .error e) : Unopened i e
  | missing {filter : Option Filter} {traffic : Source} {reason : String} (hf : compiled i.filter = .ok filter)
      (ht : Source.ofStream i.traffic filter = .ok traffic) (h : i.dns = some (.error reason)) : Unopened i (.io reason)
  | dns {filter : Option Filter} {traffic : Source} {stream : ByteStream} {e : SourceError}
      (hf : compiled i.filter = .ok filter) (ht : Source.ofStream i.traffic filter = .ok traffic)
      (hd : i.dns = some (.ok stream)) (h : Merge.dnsSource stream = .error e) : Unopened i e

lemma unopened_iff {e : SourceError} : Unopened i e ↔ i.merge = .error e := by
  rw [merge_eq]
  constructor
  · rintro (h | ⟨hf, h⟩ | ⟨hf, ht, h⟩ | ⟨hf, ht, hd, h⟩)
    · simp only [h, Except.bind]
    · simp only [hf, h, Except.bind]
    · simp only [hf, ht, h, Except.bind, withDns]
    · simp only [hf, ht, hd, h, Except.bind, withDns, Except.map]
  · intro h
    cases hf : compiled i.filter with
    | error e' =>
      obtain rfl : e' = e := by simpa [hf, Except.bind] using h
      exact .filter hf
    | ok filter =>
      cases ht : Source.ofStream i.traffic filter with
      | error e' =>
        obtain rfl : e' = e := by simpa [hf, ht, Except.bind] using h
        exact .traffic hf ht
      | ok traffic =>
        simp only [hf, ht, Except.bind] at h
        rcases hd : i.dns with _ | reason | stream
        · simp [hd, withDns] at h
        · obtain rfl : .io reason = e := by simpa [hd, withDns] using h
          exact .missing hf ht hd
        · cases hs : Merge.dnsSource stream with
          | error e' =>
            obtain rfl : e' = e := by simpa [hd, withDns, hs, Except.map] using h
            exact .dns hf ht hd hs
          | ok dns => simp [hd, withDns, hs, Except.map] at h

lemma rounds_of_drain (h : i.merge = .ok m) : ∀ r ∈ m.drain.items, r.time.Rounds := by
  intro r hr
  apply rounds_of_merge h
  rw [Merge.due_of_drain]
  exact List.mem_append_left _ hr

theorem distill_of_failure (settings : Settings) (i : Input) {sink : Sink} (h : sink.room = none) :
    (∀ e, Unopened i e →
      (distill settings i sink).result = .error (.source e) ∧ (distill settings i sink).sink = sink) ∧
    ((∀ e, ¬ Unopened i e) → ∃ m, i.merge = .ok m ∧ distill settings i sink = run settings .empty m sink ∧
      ∀ e, m.drain.failure = some e → m.Fails e ∧
        ∀ tally, (run settings tally m sink).result = .error (.source e) ∧
          Captured settings m.drain.items sink.accepted (run settings tally m sink).sink.accepted ∧
          (run settings tally m sink).tally.accepted =
            tally.accepted + (m.drain.items.filterMap (output? settings)).length) := by
  constructor
  · intro e he
    simp only [distill, unopened_iff.mp he, and_self]
  · intro hopen
    cases hm : i.merge with
    | error e => exact absurd (unopened_iff.mpr hm) (hopen e)
    | ok m =>
      refine ⟨m, rfl, by simp only [distill, hm], fun e he => ⟨(Merge.failure_of_drain m).2 e he, fun tally => ?_⟩⟩
      obtain ⟨hresult, houtput⟩ := @run_of_ready settings m sink (rounds_of_drain hm) h tally
      rw [he] at hresult
      refine ⟨hresult, captured_of_bytes houtput, ?_⟩
      rw [tally_of_ready (rounds_of_drain hm) h, accepted_of_count]

-- The first batch of a hundred packets ends just before the record that cannot be read.
def brokenLate : Input where
  traffic := .ofBytes (fileHeader 65535 .raw ++ recordBytes 5 query ++
    (List.replicate 98 (recordBytes 6 [0])).flatten ++ recordBytes 7 query ++ recordHeader 8 0 0xffff_ffff 1)
  filter := none
  dns := none

theorem distill_brokenLate :
    (distill .standard { brokenLate with traffic := .unreadable "gone" } .unbounded).result =
      .error (.source (.io "gone")) ∧
    (distill .standard brokenLate .unbounded).result = .error (.source (.capture .pcap .next .bufferFull)) ∧
    (distill .standard brokenLate .unbounded).sink.accepted =
      fileHeader 65535 .raw ++ (recordBytes 5 query ++ recordBytes 7 query) ∧
    (distill .standard brokenLate .unbounded).tally.accepted = 2 := by
  have hgone : Unopened { brokenLate with traffic := .unreadable "gone" } (.io "gone") := .traffic rfl rfl
  have hchecked : brokenLate.merge.toOption.any (fun m =>
      m.drain.failure = some (.capture .pcap .next .bufferFull) ∧
        (m.drain.items.filterMap (output? .standard)).flatMap Entry.bytes = recordBytes 5 query ++ recordBytes 7 query ∧
        (m.drain.items.filterMap (output? .standard)).length = 2) = true := by decide +kernel
  refine ⟨((distill_of_failure .standard _ rfl).1 _ hgone).1, ?_⟩
  have hopen : ∀ e, ¬ Unopened brokenLate e := by
    intro e he
    simp [unopened_iff.mp he, Except.toOption] at hchecked
  obtain ⟨m, hm, hrun, hfailed⟩ := (@distill_of_failure .standard brokenLate .unbounded rfl).2 hopen
  rw [hm] at hchecked
  obtain ⟨hfailure, houtput, hcount⟩ := of_decide_eq_true hchecked
  obtain ⟨-, hall⟩ := hfailed _ hfailure
  obtain ⟨hresult, hcaptured, htally⟩ := hall .empty
  rw [hrun]
  refine ⟨hresult, ?_, ?_⟩
  · rw [hcaptured.bytes, houtput]
    rfl
  · rw [htally, hcount]
    rfl

end Sieve

end CaptureSieve
