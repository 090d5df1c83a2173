import CaptureSieve.Proofs.Sieve.Output
import CaptureSieve.Proofs.Writing.Refusals

/-!
Runs over any sink. What they write and count comes from the packets of the merge one by one, until the sink refuses.
-/

namespace CaptureSieve

lemma Verdict.ofVerification_accept_iff {x : Except PacketError Verification} :
    (∃ unverified, ofVerification x = accept unverified) ↔ x.isOk := by
  cases x with
  | error e => simp [ofVerification, Except.isOk, Except.toBool]
  | ok v => exact iff_of_true (ofVerification_ok v) rfl

namespace Record

variable {r : Record} {transport : Bool}

lemma accepts_iff {ip : Ipv4Header} (h : r.ipv4 = .ok ip) :
    (∃ unverified, r.classify transport = .accept unverified) ↔
      Layers.IsTransport ip.protocol ∧ r.checksumOk transport := by
  by_cases hp : Layers.IsTransport ip.protocol
  · rw [classify_of_transport h hp, Verdict.ofVerification_accept_iff]
    exact (and_iff_right hp).symm
  · simp [classify_of_not_transport h hp, hp]

end Record

namespace Sieve

variable {settings : Settings} {r : Record} {e : Entry}

lemma output?_eq_some_iff :
    output? settings r = some e ↔ (∃ unverified, r.classify settings.verifyTransport = .accept unverified) ∧
      r.datagram = .ok e.data ∧ e.time = r.time ∧ e.wireLength = r.wireLength ∧
      e.data.length ≤ settings.snapLength.toNat ∧ e.time.micros < 0x1_0000_0000 * 1_000_000 := by
  cases hl : r.layer .ipv4 with
  | error error =>
    have hclass := Record.classify_of_error (Record.ipv4_of_no_layer hl) settings.verifyTransport
    simp [output?, hl, hclass]
  | ok l =>
    obtain ⟨h, hd⟩ := Record.datagram_of_layer hl
    obtain ⟨hipv4, hbytes⟩ := Record.ipv4_of_layer hl hd
    rw [output?_of_layer hl hd, Record.accepts_iff hipv4, hbytes]
    obtain ⟨time, wireLength, data⟩ := e
    constructor
    · intro h
      split at h
      · next hall =>
        obtain ⟨rfl, rfl, rfl⟩ := Entry.mk.inj (Option.some.inj h)
        exact ⟨⟨hall.1, hall.2.1⟩, rfl, rfl, rfl, hall.2.2⟩
      · simp at h
    · rintro ⟨⟨hp, hc⟩, hdata, rfl, rfl, hfits⟩
      obtain rfl := Except.ok.inj hdata
      exact if_pos ⟨hp, hc, hfits⟩

def dropReason (settings : Settings) (r : Record) : DropReason :=
  match r.classify settings.verifyTransport with
  | .drop reason => reason
  | .accept _ => .unwritable

def count (settings : Settings) (t : Tally) (r : Record) : Tally :=
  if (output? settings r).isSome then t.accept r (r.classify settings.verifyTransport = .accept true)
  else t.drop (dropReason settings r)

lemma count_of_output {unverified : Bool} (h : output? settings r = some e)
    (hclass : r.classify settings.verifyTransport = .accept unverified) (t : Tally) :
    count settings t r = t.accept r unverified := by
  cases unverified <;> simp [count, h, hclass]

lemma count_of_none (h : output? settings r = none) (t : Tally) :
    count settings t r = t.drop (dropReason settings r) := by
  simp [count, h]

structure Counted (settings : Settings) (p : Progress) (r : Record) (q : Progress) : Prop where
  snapLength : q.writer.snapLength = settings.snapLength
  contents : q.writer.contents = p.writer.contents ++ (output? settings r).elim [] Entry.bytes
  tally : q.tally = count settings p.tally r

variable {p : Progress}

def settle (p : Progress) (r : Record) : Fate → Writer → Except WriteError Unit × Progress
  | .accepted unverified, w => (.ok (), { p with tally := p.tally.accept r unverified, writer := w })
  | .dropped reason, w => (.ok (), { p with tally := p.tally.drop reason, writer := w })
  | .unwritable e, w =>
    (.ok (), { tally := p.tally.drop .unwritable, writer := w, warnings := p.warnings ++ [.unwritable r.time e] })
  | .failed e, w => (.error e, { p with writer := w })

lemma step_of_place {fate : Fate} {w : Writer} (h : place settings r p.writer = (fate, w)) :
    p.step settings r = settle p r fate w := by
  rw [Progress.step]
  simp only [h]
  cases fate <;> rfl

lemma step_of_drop (hs : p.writer.snapLength = settings.snapLength) {reason : DropReason}
    (h : r.classify settings.verifyTransport = .drop reason) :
    (p.step settings r).1 = .ok () ∧ Counted settings p r (p.step settings r).2 := by
  have hnone : output? settings r = none := by
    rw [Option.eq_none_iff_forall_ne_some]
    intro e he
    obtain ⟨⟨unverified, haccept⟩, -⟩ := output?_eq_some_iff.mp he
    simp [h] at haccept
  rw [step_of_place (place_of_drop h)]
  refine ⟨rfl, hs, ?_, ?_⟩
  · rw [hnone]
    exact (List.append_nil _).symm
  · rw [count_of_none hnone, dropReason, h]
    rfl

section Accepted

variable {unverified : Bool} {bytes : List UInt8} (h : r.classify settings.verifyTransport = .accept unverified)
  (hd : r.datagram = .ok bytes) (hs : p.writer.snapLength = settings.snapLength) (ht : r.time.Rounds)

include h hd hs ht

lemma step_of_not_fits
    (hfits : ¬ (bytes.length ≤ settings.snapLength.toNat ∧ r.time.micros < 0x1_0000_0000 * 1_000_000)) :
    (p.step settings r).1 = .ok () ∧ Counted settings p r (p.step settings r).2 := by
  have hnone : output? settings r = none := by
    rw [Option.eq_none_iff_forall_ne_some]
    intro e he
    obtain ⟨-, hbytes, htime, -, hsizes⟩ := output?_eq_some_iff.mp he
    rw [← Except.ok.inj (hd.symm.trans hbytes), htime] at hsizes
    exact hfits hsizes
  rw [← hs] at hfits
  obtain ⟨error, hwrite, hio⟩ := @Writer.write_of_not_admitted p.writer ⟨r.time, r.wireLength, bytes⟩ ht hfits
  rw [step_of_place (place_of_unwritable h hd hwrite hio)]
  refine ⟨rfl, hs, ?_, ?_⟩
  · rw [hnone]
    exact (List.append_nil _).symm
  · rw [count_of_none hnone, dropReason, h]
    rfl

lemma step_of_fits
    (hfits : bytes.length ≤ settings.snapLength.toNat ∧ r.time.micros < 0x1_0000_0000 * 1_000_000) :
    ((p.step settings r).1 = .ok () ∧ Counted settings p r (p.step settings r).2) ∨
    ((p.step settings r).1 ≠ .ok () ∧ (p.step settings r).2.writer.Within
      (p.writer.contents ++ (output? settings r).elim [] Entry.bytes)) := by
  have hsome : output? settings r = some ⟨r.time, r.wireLength, bytes⟩ :=
    output?_eq_some_iff.mpr ⟨⟨unverified, h⟩, hd, rfl, rfl, hfits⟩
  have hfields := (Writer.timeFields_ok_iff ht).mpr ⟨hs ▸ hfits.1, hfits.2, rfl, rfl⟩
  rcases @Writer.write_ok_or_stopped p.writer bytes r.wireLength r.time _ _ hfields with hw | ⟨hw, hstopped⟩
  · obtain ⟨hcontents, hsnap, -⟩ := @Writer.write_entry p.writer ⟨r.time, r.wireLength, bytes⟩ ht hw
    rw [step_of_place (place_of_written h hd hw)]
    refine .inl ⟨rfl, hsnap.trans hs, ?_, ?_⟩
    · rw [hsome]
      exact hcontents
    · exact (count_of_output hsome h _).symm
  · have hplace : place settings r p.writer =
        (.failed p.writer.refused, (p.writer.write bytes r.wireLength r.time).2) := by
      have hwritten : p.writer.write bytes r.wireLength r.time =
        (.error p.writer.refused, (p.writer.write bytes r.wireLength r.time).2) := Prod.ext hw rfl
      simp only [place, h, hd]
      rw [hwritten]
      rfl
    rw [step_of_place hplace, hsome]
    exact .inr ⟨by simp [settle], .inr hstopped⟩

end Accepted

lemma step_cases (hs : p.writer.snapLength = settings.snapLength) (ht : r.time.Rounds) :
    ((p.step settings r).1 = .ok () ∧ Counted settings p r (p.step settings r).2) ∨
    ((p.step settings r).1 ≠ .ok () ∧ (p.step settings r).2.writer.Within
      (p.writer.contents ++ (output? settings r).elim [] Entry.bytes)) := by
  cases hclass : r.classify settings.verifyTransport with
  | drop reason => exact .inl (step_of_drop hs hclass)
  | accept unverified =>
    cases hl : r.layer .ipv4 with
    | error error => simp [Record.classify_of_error (Record.ipv4_of_no_layer hl)] at hclass
    | ok l =>
      obtain ⟨h, hd⟩ := Record.datagram_of_layer hl
      obtain ⟨-, hbytes⟩ := Record.ipv4_of_layer hl hd
      by_cases hfits : ((r.data.drop l.start).take h.totalLength).length ≤ settings.snapLength.toNat ∧
          r.time.micros < 0x1_0000_0000 * 1_000_000
      · exact step_of_fits hclass hbytes hs ht hfits
      · exact .inl (step_of_not_fits hclass hbytes hs ht hfits)

lemma counted_of_step (hs : p.writer.snapLength = settings.snapLength) (ht : r.time.Rounds)
    (hok : (p.step settings r).1 = .ok ()) : Counted settings p r (p.step settings r).2 := by
  rcases step_cases hs ht with ⟨-, hcounted⟩ | ⟨herror, -⟩
  · exact hcounted
  · exact absurd hok herror

section Drain

variable {m : Merge}

lemma drain_of_any_sink (ht : ∀ r ∈ m.drain.items, r.time.Rounds) (hs : p.writer.snapLength = settings.snapLength) :
    ((∀ e, (drain settings m p).1 ≠ .error (.writer e)) →
      (drain settings m p).2.writer.contents = p.writer.contents ++ outputBytes settings m.drain.items ∧
      (drain settings m p).2.tally = m.drain.items.foldl (count settings) p.tally) ∧
    (drain settings m p).2.writer.Within (p.writer.contents ++ outputBytes settings m.drain.items) := by
  fun_induction drain settings m p with
  | case1 m p c p' e h =>
    rw [Merge.drain_of_error h]
    exact ⟨fun _ => ⟨(List.append_nil _).symm, rfl⟩, .inl (List.prefix_append _ _)⟩
  | case2 m p c p' h =>
    rw [Merge.drain_of_end h]
    exact ⟨fun _ => ⟨(List.append_nil _).symm, rfl⟩, .inl (List.prefix_append _ _)⟩
  | case3 m p c p' r h lighter e q hstep =>
    rw [Merge.drain_of_packet h] at ht ⊢
    rcases @step_cases settings r p' hs (ht r (List.mem_cons_self ..)) with ⟨hok, -⟩ | ⟨-, hwithin⟩
    · simp [hstep] at hok
    · rw [hstep] at hwithin
      refine ⟨fun hnever => absurd rfl (hnever e), ?_⟩
      rw [outputBytes_cons, ← List.append_assoc]
      exact Writer.within_append hwithin _
  | case4 m p c p' r h lighter q hstep ih =>
    rw [Merge.drain_of_packet h] at ht ⊢
    obtain ⟨hr, hrest⟩ := List.forall_mem_cons.mp ht
    obtain ⟨hsnap, hcontents, htally⟩ := @counted_of_step settings r p' hs hr (by rw [hstep])
    rw [hstep] at hsnap hcontents htally
    have hbytes : q.writer.contents ++ outputBytes settings c.state.drain.items =
        p.writer.contents ++ outputBytes settings (r :: c.state.drain.items) := by
      rw [hcontents, outputBytes_cons, ← List.append_assoc]
      rfl
    obtain ⟨hdone, hwithin⟩ := ih hrest hsnap
    rw [hbytes, htally] at hdone
    rw [hbytes] at hwithin
    exact ⟨hdone, hwithin⟩

lemma run_within (hm : m.Clean) (ht : ∀ r ∈ m.due, r.time.Rounds) (tally : Tally) (sink : Sink) :
    (run settings tally m sink).sink.accepted <+:
      sink.accepted ++ fileHeader settings.snapLength settings.link ++ outputBytes settings m.due := by
  rw [← (Merge.drain_of_clean hm).1] at ht ⊢
  have hwithin := (@drain_of_any_sink settings (.start settings tally sink) m ht rfl).2
  rw [Progress.start, Writer.contents_ofSink] at hwithin
  rw [run_eq, finish_sink]
  exact Writer.close_within hwithin

end Drain

lemma drained_of_run {m : Merge} {sink : Sink} {tally : Tally} (h : (run settings tally m sink).result = .ok ()) :
    (drain settings m (.start settings tally sink)).1 = .ok () := by
  rw [run_eq] at h
  exact (finish_result_iff.mp h).1

lemma run_of_ok {m : Merge} {sink : Sink} {tally : Tally} (hm : m.Clean) (ht : ∀ r ∈ m.due, r.time.Rounds)
    (h : (run settings tally m sink).result = .ok ()) :
    (run settings tally m sink).sink.accepted =
      sink.accepted ++ fileHeader settings.snapLength settings.link ++ outputBytes settings m.due ∧
    (run settings tally m sink).tally = m.due.foldl (count settings) tally := by
  rw [← (Merge.drain_of_clean hm).1] at ht ⊢
  obtain ⟨hcontents, htally⟩ :=
    (@drain_of_any_sink settings (.start settings tally sink) m ht rfl).1 (by simp [drained_of_run h])
  rw [Progress.start, Writer.contents_ofSink] at hcontents
  rw [run_eq] at h ⊢
  rw [finish_accepted h, finish_tally]
  exact ⟨hcontents, htally⟩

lemma tally_of_ready {m : Merge} {sink : Sink} (ht : ∀ r ∈ m.drain.items, r.time.Rounds) (h : sink.room = none)
    (tally : Tally) : (run settings tally m sink).tally = m.drain.items.foldl (count settings) tally := by
  obtain ⟨hnever, -⟩ := @drain_of_ready settings m (.start settings tally sink) ht (ready_ofSink h settings)
  rw [run_eq, finish_tally]
  exact ((@drain_of_any_sink settings (.start settings tally sink) m ht rfl).1 hnever).2

def compiled : Option String → Except SourceError (Option Filter)
  | none => .ok none
  | some text =>
    match Filter.ofText text with
    | .ok f => .ok (some f)
    | .error e => .error (.filter e)

def withDns (traffic : Source) : Option (Except String ByteStream) → Except SourceError Merge
  | none => .ok (.ofSources traffic none)
  | some (.error reason) => .error (.io reason)
  | some (.ok stream) => (Merge.dnsSource stream).map fun dns => .ofSources traffic (some dns)

lemma merge_eq (i : Input) :
    i.merge = (compiled i.filter).bind fun filter =>
      (Source.ofStream i.traffic filter).bind fun traffic => withDns traffic i.dns := by
  obtain ⟨traffic, filter, dns⟩ := i
  have hfilter : Input.merge ⟨traffic, filter, dns⟩ = compiled filter >>= fun filter =>
      Source.ofStream traffic filter >>= fun traffic =>
        match dns with
        | none => pure (.ofSources traffic none)
        | some (.error reason) => .error (.io reason)
        | some (.ok stream) => Merge.dnsSource stream >>= fun dns => pure (.ofSources traffic (some dns)) := by
    rcases filter with _ | text
    · rfl
    · simp only [Input.merge, compiled]
      cases Filter.ofText text <;> rfl
  rw [hfilter]
  refine bind_congr fun filter => bind_congr fun traffic => ?_
  rcases dns with _ | _ | stream
  · rfl
  · rfl
  · simp only [withDns]
    cases Merge.dnsSource stream <;> rfl

end Sieve

end CaptureSieve
