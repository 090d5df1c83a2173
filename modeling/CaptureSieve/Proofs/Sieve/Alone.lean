import CaptureSieve.Proofs.Sieve.Totals

/-!
Runs over traffic alone, whose sink or source may fail.
-/

namespace CaptureSieve

namespace Merge

structure Alone (m : Merge) : Prop where
  dns : m.dns = none
  head : ∀ d, m.dnsHead ≠ .packet d
  overtaken : m.overtaken = none
  peeked : m.peeked = none

variable {m : Merge}

lemma alone_ofSources (traffic : Source) : Alone (ofSources traffic none) :=
  ⟨rfl, by simp [ofSources], rfl, rfl⟩

lemma lookAhead_of_alone (h : Alone m) : m.lookAhead = .ok () { m with dnsHead := .exhausted } := by
  cases hd : m.dnsHead with
  | unknown => exact lookAhead_of_no_dns hd h.dns
  | packet d => exact absurd hd (h.head d)
  | exhausted =>
    obtain ⟨traffic, dns, head, overtaken, peeked⟩ := m
    obtain rfl : head = .exhausted := hd
    exact lookAhead_of_known (by simp)

lemma next_of_alone (h : Alone m) :
    m.next.answer = m.traffic.next.answer ∧
    ∀ r, m.next.answer = .ok (some r) → Alone m.next.state ∧ m.next.state.traffic = m.traffic.next.state := by
  have hnext : m.next.answer = (advance { m with dnsHead := .exhausted }).answer ∧
      m.next.state = (advance { m with dnsHead := .exhausted }).state := by
    rw [next]
    simp only [h.peeked, Call.andThen, lookAhead_of_alone h, Call.ok, and_self]
  rw [hnext.1, hnext.2]
  cases ha : m.traffic.next.answer with
  | error e => simp [advance, h.overtaken, Call.andThen, Call.within, ha]
  | ok t =>
    cases t with
    | none =>
      rw [(@advance_of_end { m with dnsHead := .exhausted } h.overtaken ha).1]
      exact ⟨rfl, by simp⟩
    | some t =>
      obtain ⟨hanswer, hstate⟩ := @advance_of_traffic { m with dnsHead := .exhausted } t h.overtaken ha
      rw [hanswer, hstate, inTurn_of_exhausted t rfl]
      exact ⟨rfl, fun _ _ => ⟨⟨h.dns, by simp [Call.ok], h.overtaken, h.peeked⟩, rfl⟩⟩

lemma failure_of_alone (h : Alone m) : m.drain.failure = m.traffic.outlook.failure := by
  fun_induction drain m with
  | case1 m c e hn =>
    rw [(next_of_alone h).1] at hn
    exact (Source.next_of_error hn).symm
  | case2 m c hn =>
    rw [(next_of_alone h).1] at hn
    rw [Outlook.eq_of_answer_none (Source.next_of_ok hn).1]
  | case3 m c r hn lighter rest ih =>
    obtain ⟨halone, htraffic⟩ := (next_of_alone h).2 r hn
    rw [(next_of_alone h).1] at hn
    obtain ⟨-, hlater⟩ := Source.next_of_ok hn
    have hrest : rest.failure = m.next.state.traffic.outlook.failure := ih halone
    rw [hrest, htraffic, hlater]

lemma failure_of_ofSources (traffic : Source) : (ofSources traffic none).drain.failure = traffic.outlook.failure :=
  failure_of_alone (alone_ofSources traffic)

end Merge

namespace Sieve

variable {settings : Settings}

lemma due_of_alone (traffic : Source) : (Merge.ofSources traffic none).due = traffic.outlook.records := by
  simp [Merge.due, Merge.ofSources, Merge.trafficAhead, Merge.dnsAhead, Merge.dnsBehindHead]

lemma failure_of_run {traffic : Source} {sink : Sink} {tally : Tally}
    (h : (run settings tally (.ofSources traffic none) sink).result = .ok ()) : traffic.outlook.failure = none := by
  rw [← Merge.failure_of_ofSources]
  exact source_of_drain.1 (drained_of_run h)

lemma result_of_alone {traffic : Source} (ht : ∀ r ∈ traffic.outlook.records, r.time.Rounds) {sink : Sink}
    (h : sink.room = none) (tally : Tally) :
    (run settings tally (.ofSources traffic none) sink).result =
      match traffic.outlook.failure with
      | none => .ok ()
      | some e => .error (.source e) := by
  rw [← due_of_alone, Merge.due_of_drain] at ht
  rw [← Merge.failure_of_ofSources]
  exact (run_of_ready (fun r hr => ht r (List.mem_append_left _ hr)) h tally).1

section Unfiltered

variable {stream : ByteStream} {s : Source} (h : Source.ofStream stream none = .ok s)

include h

lemma distill_of_unfiltered (settings : Settings) (sink : Sink) :
    distill settings ⟨stream, none, none⟩ sink = run settings .empty (.ofSources s none) sink := by
  simp only [distill, merge_eq, compiled, Except.bind, h, withDns]

lemma result_of_unfiltered (settings : Settings) :
    (distill settings ⟨stream, none, none⟩ .unbounded).result =
      match s.outlook.failure with
      | none => .ok ()
      | some e => .error (.source e) := by
  rw [distill_of_unfiltered h]
  exact result_of_alone (Source.rounds_of_ofStream h) rfl .empty

end Unfiltered

lemma run_of_alone {traffic : Source} {sink : Sink} {tally : Tally}
    (ht : ∀ r ∈ traffic.outlook.records, r.time.Rounds)
    (h : (run settings tally (.ofSources traffic none) sink).result = .ok ()) :
    (run settings tally (.ofSources traffic none) sink).sink.accepted = sink.accepted ++
      fileHeader settings.snapLength settings.link ++ outputBytes settings traffic.outlook.records ∧
    (run settings tally (.ofSources traffic none) sink).tally =
      traffic.outlook.records.foldl (count settings) tally := by
  have hclean : Merge.Clean (.ofSources traffic none) := ⟨failure_of_run h, by simp [Merge.ofSources]⟩
  have hrun := @run_of_ok settings _ sink tally hclean (by rw [due_of_alone]; exact ht) h
  rwa [due_of_alone] at hrun

lemma merge_of_alone {i : Input} (hdns : i.dns = none) {filter : Option Filter} (hf : compiled i.filter = .ok filter)
    {traffic : Source} (ht : Source.ofStream i.traffic filter = .ok traffic) :
    i.merge = .ok (.ofSources traffic none) := by
  simp only [merge_eq, hf, ht, hdns, Except.bind, withDns]

lemma alone_of_merge {i : Input} (hdns : i.dns = none) {m : Merge} (h : i.merge = .ok m) :
    ∃ filter traffic, compiled i.filter = .ok filter ∧ Source.ofStream i.traffic filter = .ok traffic ∧
      m = .ofSources traffic none := by
  rw [merge_eq, hdns] at h
  cases hf : compiled i.filter with
  | error e => simp [hf, Except.bind] at h
  | ok filter =>
    cases ht : Source.ofStream i.traffic filter with
    | error e => simp [hf, ht, Except.bind] at h
    | ok traffic =>
      simp only [hf, ht, Except.bind, withDns, Except.ok.injEq] at h
      exact ⟨filter, traffic, rfl, ht, h.symm⟩

end Sieve

end CaptureSieve
