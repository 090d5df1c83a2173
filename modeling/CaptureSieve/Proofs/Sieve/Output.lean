import CaptureSieve.Sieve
import CaptureSieve.Proofs.Capture.Interleaving
import CaptureSieve.Proofs.Capture.Times
import CaptureSieve.Proofs.Packet.Datagram
import CaptureSieve.Proofs.Writing.Words

/-!
The output of a whole run, read off the packets of the merge one by one.
-/

namespace CaptureSieve

namespace Writer

variable {w : Writer} {e : Entry}

lemma timeFields_error_ne_io {snapLength : UInt32} {length : Nat} {time : Instant} {error : WriteError}
    (h : timeFields snapLength length time = .error error) (reason : String) : error ≠ .io reason := by
  rw [timeFields] at h
  rintro rfl
  split at h
  · simp at h
  · dsimp only at h
    split at h <;> simp at h

lemma write_of_not_admitted (ht : e.time.Rounds)
    (h : ¬ (e.data.length ≤ w.snapLength.toNat ∧ e.time.micros < 0x1_0000_0000 * 1_000_000)) :
    ∃ error, w.write e.data e.wireLength e.time = (.error error, w) ∧ ∀ reason, error ≠ .io reason := by
  cases hf : timeFields w.snapLength e.data.length e.time with
  | error error => exact ⟨error, write_of_rejected hf, timeFields_error_ne_io hf⟩
  | ok fields =>
    obtain ⟨hsize, hrange, -⟩ := (timeFields_ok_iff ht).mp hf
    exact absurd ⟨hsize, hrange⟩ h

end Writer

namespace Sieve

/-- What a packet leaves in the output: the datagram at its IPv4 layer, up to its total length or the end of the
capture, if it is a sound one of TCP or UDP and the output has a place for its size and time. -/
def output? (settings : Settings) (r : Record) : Option Entry :=
  match r.layer .ipv4 with
  | .error _ => none
  | .ok l =>
    match Ipv4Header.ofBytes? (r.data.drop l.start) with
    | none => none
    | some h =>
      let e : Entry := ⟨r.time, r.wireLength, (r.data.drop l.start).take h.totalLength⟩
      if Layers.IsTransport h.protocol ∧ r.checksumOk settings.verifyTransport ∧
          e.data.length ≤ settings.snapLength.toNat ∧ e.time.micros < 0x1_0000_0000 * 1_000_000 then some e
      else none

variable {settings : Settings} {r : Record} {w : Writer}

structure Ready (settings : Settings) (w : Writer) : Prop where
  room : w.output.sink.room = none
  snapLength : w.snapLength = settings.snapLength

lemma place_of_drop {reason : DropReason} (h : r.classify settings.verifyTransport = .drop reason) :
    place settings r w = (.dropped reason, w) := by
  rw [place, h]

structure Adds (settings : Settings) (w : Writer) (bytes : List UInt8) (placed : Fate × Writer) : Prop where
  goes_on : ∀ error, placed.1 ≠ .failed error
  ready : Ready settings placed.2
  contents : placed.2.contents = w.contents ++ bytes

lemma adds_of_drop (hw : Ready settings w) {reason : DropReason}
    (h : r.classify settings.verifyTransport = .drop reason) : Adds settings w [] (place settings r w) := by
  rw [place_of_drop h]
  exact ⟨by simp, hw, (List.append_nil _).symm⟩

section Accepted

variable {unverified : Bool} {bytes : List UInt8} (h : r.classify settings.verifyTransport = .accept unverified)
  (hd : r.datagram = .ok bytes)

include h hd

lemma place_of_written (hw : (w.write bytes r.wireLength r.time).1 = .ok ()) :
    place settings r w = (.accepted unverified, (w.write bytes r.wireLength r.time).2) := by
  have hwritten : w.write bytes r.wireLength r.time = (.ok (), (w.write bytes r.wireLength r.time).2) :=
    Prod.ext hw rfl
  simp only [place, h, hd]
  rw [hwritten]

lemma place_of_unwritable {error : WriteError} (hw : w.write bytes r.wireLength r.time = (.error error, w))
    (hio : ∀ reason, error ≠ .io reason) : place settings r w = (.unwritable error, w) := by
  simp only [place, h, hd, hw]

lemma adds_of_fits (hw : Ready settings w) (ht : r.time.Rounds)
    (hfits : bytes.length ≤ settings.snapLength.toNat ∧ r.time.micros < 0x1_0000_0000 * 1_000_000) :
    Adds settings w (Entry.bytes ⟨r.time, r.wireLength, bytes⟩) (place settings r w) := by
  rw [← hw.snapLength] at hfits
  obtain ⟨hok, hroom⟩ := @Writer.write_admitted w ⟨r.time, r.wireLength, bytes⟩ hw.room ht hfits.1 hfits.2
  obtain ⟨hcontents, hsnap, -⟩ := Writer.write_entry ht hok
  rw [place_of_written h hd hok]
  exact ⟨by simp, ⟨hroom, hsnap.trans hw.snapLength⟩, hcontents⟩

lemma adds_of_not_fits (hw : Ready settings w) (ht : r.time.Rounds)
    (hfits : ¬ (bytes.length ≤ settings.snapLength.toNat ∧ r.time.micros < 0x1_0000_0000 * 1_000_000)) :
    Adds settings w [] (place settings r w) := by
  rw [← hw.snapLength] at hfits
  obtain ⟨error, hwrite, hio⟩ := @Writer.write_of_not_admitted w ⟨r.time, r.wireLength, bytes⟩ ht hfits
  rw [place_of_unwritable h hd hwrite hio]
  exact ⟨by simp, hw, (List.append_nil _).symm⟩

end Accepted

lemma output?_of_layer {l : Layer} {h : Ipv4Header} (hl : r.layer .ipv4 = .ok l) (hd : Layers.Datagram r.data l h) :
    output? settings r =
      if Layers.IsTransport h.protocol ∧ r.checksumOk settings.verifyTransport ∧
        ((r.data.drop l.start).take h.totalLength).length ≤ settings.snapLength.toNat ∧
        r.time.micros < 0x1_0000_0000 * 1_000_000
      then some ⟨r.time, r.wireLength, (r.data.drop l.start).take h.totalLength⟩ else none := by
  simp only [output?, hl, hd.header]

lemma adds_of_ready (hw : Ready settings w) (ht : r.time.Rounds) :
    Adds settings w ((output? settings r).elim [] Entry.bytes) (place settings r w) := by
  cases hl : r.layer .ipv4 with
  | error e =>
    simp only [output?, hl]
    exact adds_of_drop hw (Record.classify_of_error (Record.ipv4_of_no_layer hl) _)
  | ok l =>
    obtain ⟨h, hd⟩ := Record.datagram_of_layer hl
    obtain ⟨hipv4, hbytes⟩ := Record.ipv4_of_layer hl hd
    rw [output?_of_layer hl hd]
    by_cases hp : Layers.IsTransport h.protocol
    · have hclass := Record.classify_of_transport hipv4 hp settings.verifyTransport
      cases hv : r.verify settings.verifyTransport with
      | error e =>
        have hfailed : ¬ r.checksumOk settings.verifyTransport := by
          simp [Record.checksumOk, hv, Except.isOk, Except.toBool]
        rw [if_neg fun hall => hfailed hall.2.1]
        exact adds_of_drop hw (by rw [hclass, hv]; rfl)
      | ok v =>
        have hpassed : r.checksumOk settings.verifyTransport := by
          simp [Record.checksumOk, hv, Except.isOk, Except.toBool]
        obtain ⟨unverified, hverdict⟩ := Verdict.ofVerification_ok v
        rw [hv, hverdict] at hclass
        simp only [hp, hpassed, true_and]
        split
        · next hfits => exact adds_of_fits hclass hbytes hw ht hfits
        · next hfits => exact adds_of_not_fits hclass hbytes hw ht hfits
    · rw [if_neg fun hall => hp hall.1]
      exact adds_of_drop hw (Record.classify_of_not_transport hipv4 hp _)

lemma step_of_not_failed {p : Progress} (h : ∀ error, (place settings r p.writer).1 ≠ .failed error) :
    (p.step settings r).1 = .ok () ∧ (p.step settings r).2.writer = (place settings r p.writer).2 := by
  rw [Progress.step]
  generalize place settings r p.writer = placed at h
  obtain ⟨fate, w⟩ := placed
  cases fate with
  | accepted unverified => exact ⟨rfl, rfl⟩
  | dropped reason => exact ⟨rfl, rfl⟩
  | unwritable error => exact ⟨rfl, rfl⟩
  | failed error => exact absurd rfl (h error)

lemma step_of_ready {p : Progress} (hw : Ready settings p.writer) (ht : r.time.Rounds) :
    (p.step settings r).1 = .ok () ∧ Ready settings (p.step settings r).2.writer ∧
    (p.step settings r).2.writer.contents = p.writer.contents ++ (output? settings r).elim [] Entry.bytes := by
  have hadds := @adds_of_ready settings r p.writer hw ht
  obtain ⟨hok, hwriter⟩ := step_of_not_failed hadds.goes_on
  rw [hwriter]
  exact ⟨hok, hadds.ready, hadds.contents⟩

def outputBytes (settings : Settings) (records : List Record) : List UInt8 :=
  (records.filterMap (output? settings)).flatMap Entry.bytes

lemma outputBytes_cons (settings : Settings) (r : Record) (rest : List Record) :
    outputBytes settings (r :: rest) = (output? settings r).elim [] Entry.bytes ++ outputBytes settings rest := by
  simp only [outputBytes, List.filterMap_cons]
  cases output? settings r with
  | none => rfl
  | some e => rw [List.flatMap_cons]; rfl

lemma fits_of_output {e : Entry} (h : output? settings r = some e) : e.Fits := by
  cases hl : r.layer .ipv4 with
  | error error => simp [output?, hl] at h
  | ok l =>
    obtain ⟨header, hd⟩ := Record.datagram_of_layer hl
    rw [output?_of_layer hl hd] at h
    split at h
    · next hall =>
      obtain rfl := Option.some.inj h
      obtain ⟨-, -, hlength, hmicros⟩ := hall
      exact ⟨Nat.lt_of_le_of_lt hlength settings.snapLength.toNat_lt, hmicros⟩
    · simp at h

lemma fits_of_outputs (settings : Settings) (records : List Record) :
    ∀ e ∈ records.filterMap (output? settings), e.Fits := by
  intro e he
  obtain ⟨r, -, hr⟩ := List.mem_filterMap.mp he
  exact fits_of_output hr

structure Captured (settings : Settings) (records : List Record) (before after : List UInt8) : Prop where
  bytes : after = before ++ fileHeader settings.snapLength settings.link ++
    (records.filterMap (output? settings)).flatMap Entry.bytes
  words : CaptureOf settings.snapLength settings.link (records.filterMap (output? settings)) (after.drop before.length)

lemma captured_of_bytes {records : List Record} {before after : List UInt8}
    (h : after = before ++ fileHeader settings.snapLength settings.link ++ outputBytes settings records) :
    Captured settings records before after := by
  refine ⟨h, ?_⟩
  rw [h, List.append_assoc, List.drop_left]
  exact captureOf_entries (fits_of_outputs settings records) settings.snapLength settings.link

section Drain

variable {m : Merge} {p : Progress}

lemma drain_of_error {e : SourceError} (h : m.next.answer = .error e) :
    drain settings m p = (.error (.source e), p.warn m.next.warnings) := by
  rw [drain]
  split <;> simp_all

lemma drain_of_end (h : m.next.answer = .ok none) : drain settings m p = (.ok (), p.warn m.next.warnings) := by
  rw [drain]
  split <;> simp_all

lemma drain_of_refused {e : WriteError} (h : m.next.answer = .ok (some r))
    (hs : ((p.warn m.next.warnings).step settings r).1 = .error e) :
    drain settings m p = (.error (.writer e), ((p.warn m.next.warnings).step settings r).2) := by
  rw [drain]
  split <;> simp_all
  split <;> simp_all

lemma drain_of_step (h : m.next.answer = .ok (some r))
    (hs : ((p.warn m.next.warnings).step settings r).1 = .ok ()) :
    drain settings m p = drain settings m.next.state ((p.warn m.next.warnings).step settings r).2 := by
  rw [drain]
  split <;> simp_all
  split <;> simp_all

lemma source_of_drain :
    ((drain settings m p).1 = .ok () → m.drain.failure = none) ∧
    ∀ e, (drain settings m p).1 = .error (.source e) → m.drain.failure = some e := by
  fun_induction drain settings m p with
  | case1 m p c p' e h =>
    rw [Merge.drain_of_error h]
    exact ⟨by simp, by rintro _ ⟨⟩; rfl⟩
  | case2 m p c p' h =>
    rw [Merge.drain_of_end h]
    exact ⟨fun _ => rfl, by simp⟩
  | case3 m p c p' r h lighter e q hstep => simp
  | case4 m p c p' r h lighter q hstep ih =>
    rw [Merge.drain_of_packet h]
    exact ih

lemma drain_of_ready (ht : ∀ r ∈ m.drain.items, r.time.Rounds) (hw : Ready settings p.writer) :
    (∀ e, (drain settings m p).1 ≠ .error (.writer e)) ∧ Ready settings (drain settings m p).2.writer ∧
    (drain settings m p).2.writer.contents = p.writer.contents ++ outputBytes settings m.drain.items := by
  fun_induction drain settings m p with
  | case1 m p c p' e h =>
    rw [Merge.drain_of_error h]
    exact ⟨by simp, hw, (List.append_nil _).symm⟩
  | case2 m p c p' h =>
    rw [Merge.drain_of_end h]
    exact ⟨by simp, hw, (List.append_nil _).symm⟩
  | case3 m p c p' r h lighter e q hstep =>
    rw [Merge.drain_of_packet h] at ht
    obtain ⟨hok, -⟩ := @step_of_ready settings r p' hw (ht r (List.mem_cons_self ..))
    simp [hstep] at hok
  | case4 m p c p' r h lighter q hstep ih =>
    rw [Merge.drain_of_packet h] at ht ⊢
    obtain ⟨hr, hrest⟩ := List.forall_mem_cons.mp ht
    obtain ⟨-, hready, hcontents⟩ := @step_of_ready settings r p' hw hr
    rw [hstep] at hready hcontents
    obtain ⟨hnever, hdone, hwritten⟩ := ih hrest hready
    refine ⟨hnever, hdone, ?_⟩
    rw [hwritten, hcontents, outputBytes_cons, ← List.append_assoc]
    rfl

end Drain

lemma ready_ofSink {sink : Sink} (h : sink.room = none) (settings : Settings) :
    Ready settings (Writer.ofSink sink settings.snapLength settings.link) :=
  ⟨by rw [Writer.ofSink_output]; exact h, rfl⟩

def Progress.start (settings : Settings) (tally : Tally) (sink : Sink) : Progress :=
  ⟨tally, .ofSink sink settings.snapLength settings.link, []⟩

def finish (d : Except RunError Unit × Progress) : Outcome :=
  match d.1, d.2.writer.close with
  | .ok (), (.ok (), sink) => ⟨.ok (), d.2.tally, sink, d.2.warnings⟩
  | .ok (), (.error e, sink) => ⟨.error (.writer e), d.2.tally, sink, d.2.warnings⟩
  | .error e, (.ok (), sink) => ⟨.error e, d.2.tally, sink, d.2.warnings⟩
  | .error e, (.error close, sink) => ⟨.error e, d.2.tally, sink, d.2.warnings ++ [.notClosed close]⟩

section Finish

variable {m : Merge} {sink : Sink} {tally : Tally} {d : Except RunError Unit × Progress}

lemma run_eq (settings : Settings) (tally : Tally) (m : Merge) (sink : Sink) :
    run settings tally m sink = finish (drain settings m (.start settings tally sink)) := by
  rw [run, finish, Progress.start]
  rcases drain settings m ⟨tally, .ofSink sink settings.snapLength settings.link, []⟩ with ⟨result, p⟩
  dsimp only
  rcases p.writer.close with ⟨closed, sink⟩
  cases result <;> cases closed <;> rfl

lemma finish_sink (d : Except RunError Unit × Progress) : (finish d).sink = d.2.writer.close.2 := by
  rw [finish]
  split <;> simp_all

lemma finish_tally (d : Except RunError Unit × Progress) : (finish d).tally = d.2.tally := by
  rw [finish]
  split <;> rfl

lemma finish_result_iff : (finish d).result = .ok () ↔ d.1 = .ok () ∧ d.2.writer.close.1 = .ok () := by
  rw [finish]
  split <;> simp_all

lemma finish_of_error {e : RunError} (h : d.1 = .error e) : (finish d).result = .error e := by
  rw [finish]
  split <;> simp_all

lemma finish_accepted (h : (finish d).result = .ok ()) : (finish d).sink.accepted = d.2.writer.contents := by
  have hclose : d.2.writer.close = (.ok (), d.2.writer.close.2) := Prod.ext (finish_result_iff.mp h).2 rfl
  rw [finish_sink, Writer.close_accepted hclose]

end Finish

lemma run_of_ready {m : Merge} {sink : Sink} (ht : ∀ r ∈ m.drain.items, r.time.Rounds) (h : sink.room = none)
    (tally : Tally) :
    (run settings tally m sink).result =
      (match m.drain.failure with
      | none => .ok ()
      | some e => .error (.source e)) ∧
    (run settings tally m sink).sink.accepted =
      sink.accepted ++ fileHeader settings.snapLength settings.link ++ outputBytes settings m.drain.items := by
  obtain ⟨hnever, hready, hcontents⟩ :=
    @drain_of_ready settings m (.start settings tally sink) ht (ready_ofSink h settings)
  obtain ⟨hend, hfailed⟩ := @source_of_drain settings m (.start settings tally sink)
  have hclose := Writer.close_unbounded hready.room
  rw [Progress.start, Writer.contents_ofSink] at hcontents
  rw [run_eq, finish_sink, ← hcontents]
  refine ⟨?_, Writer.close_accepted (Prod.ext hclose rfl)⟩
  cases hd : (drain settings m (.start settings tally sink)).1 with
  | ok u =>
    rw [hend hd]
    exact finish_result_iff.mpr ⟨hd, hclose⟩
  | error e =>
    cases e with
    | source e =>
      rw [hfailed e hd]
      exact finish_of_error hd
    | writer e => exact absurd hd (hnever e)

lemma run_of_clean {m : Merge} {sink : Sink} (hm : m.Clean) (ht : ∀ r ∈ m.due, r.time.Rounds) (h : sink.room = none)
    (tally : Tally) :
    (run settings tally m sink).result = .ok () ∧
    (run settings tally m sink).sink.accepted =
      sink.accepted ++ fileHeader settings.snapLength settings.link ++ outputBytes settings m.due := by
  obtain ⟨hitems, hfailure⟩ := Merge.drain_of_clean hm
  have hrun := @run_of_ready settings m sink (hitems ▸ ht) h tally
  rwa [hitems, hfailure] at hrun

lemma exists_of_bind_ok {ε α β : Type} {x : Except ε α} {f : α → Except ε β} {b : β} (h : x >>= f = .ok b) :
    ∃ a, x = .ok a ∧ f a = .ok b := by
  cases x with
  | error e => simp [bind, Except.bind] at h
  | ok a => exact ⟨a, rfl, h⟩

lemma opened_of_dnsSource {stream : ByteStream} {s : Source} (h : Merge.dnsSource stream = .ok s) :
    ∃ filter, Source.ofStream stream filter = .ok s := by
  rw [Merge.dnsSource] at h
  split at h
  · simp at h
  · exact ⟨_, h⟩

lemma traffic_of_merge {i : Input} {m : Merge} (hi : i.dns = none) (h : i.merge = .ok m) :
    ∃ traffic filter, Source.ofStream i.traffic filter = .ok traffic ∧ m = .ofSources traffic none := by
  obtain ⟨filter, htraffic⟩ : ∃ filter, Source.ofStream i.traffic filter >>=
      (fun traffic => pure (.ofSources traffic none)) = .ok m := by
    simp only [Input.merge, hi] at h
    split at h
    · exact (exists_of_bind_ok h).imp fun _ h => h.2
    · split at h <;> exact (exists_of_bind_ok h).imp fun _ h => h.2
  obtain ⟨traffic, hopen, hm⟩ := exists_of_bind_ok htraffic
  exact ⟨traffic, filter, hopen, (Except.ok.inj hm).symm⟩

lemma sources_of_merge_dns {i : Input} {m : Merge} {stream : ByteStream} (hi : i.dns = some (.ok stream))
    (h : i.merge = .ok m) :
    ∃ traffic dns filter dnsFilter, Source.ofStream i.traffic filter = .ok traffic ∧
      Source.ofStream stream dnsFilter = .ok dns ∧ m = .ofSources traffic (some dns) := by
  obtain ⟨filter, htraffic⟩ : ∃ filter, Source.ofStream i.traffic filter >>=
      (fun traffic => Merge.dnsSource stream >>= fun dns => pure (.ofSources traffic (some dns))) = .ok m := by
    simp only [Input.merge, hi] at h
    split at h
    · exact (exists_of_bind_ok h).imp fun _ h => h.2
    · split at h <;> exact (exists_of_bind_ok h).imp fun _ h => h.2
  obtain ⟨traffic, hopen, hdns⟩ := exists_of_bind_ok htraffic
  obtain ⟨dns, hdns, hm⟩ := exists_of_bind_ok hdns
  obtain ⟨dnsFilter, hdns⟩ := opened_of_dnsSource hdns
  exact ⟨traffic, dns, filter, dnsFilter, hopen, hdns, (Except.ok.inj hm).symm⟩

lemma merge_of_unopened {i : Input} {reason : String} (hi : i.dns = some (.error reason)) (m : Merge) :
    i.merge ≠ .ok m := by
  intro h
  simp only [Input.merge, hi] at h
  split at h
  · obtain ⟨_, -, h⟩ := exists_of_bind_ok h
    obtain ⟨_, -, h⟩ := exists_of_bind_ok h
    simp at h
  · split at h <;>
    · obtain ⟨_, -, h⟩ := exists_of_bind_ok h
      obtain ⟨_, -, h⟩ := exists_of_bind_ok h
      simp at h

lemma sources_of_merge {i : Input} {m : Merge} (h : i.merge = .ok m) :
    m = .ofSources m.traffic m.dns ∧ (∃ stream filter, Source.ofStream stream filter = .ok m.traffic) ∧
    ∀ s ∈ m.dns, ∃ stream filter, Source.ofStream stream filter = .ok s := by
  rcases hdns : i.dns with _ | reason | stream
  · obtain ⟨traffic, filter, hopen, rfl⟩ := traffic_of_merge hdns h
    exact ⟨rfl, ⟨_, _, hopen⟩, by simp [Merge.ofSources]⟩
  · exact absurd h (merge_of_unopened hdns m)
  · obtain ⟨traffic, dns, filter, dnsFilter, hopen, hother, rfl⟩ := sources_of_merge_dns hdns h
    refine ⟨rfl, ⟨_, _, hopen⟩, ?_⟩
    rintro s ⟨⟩
    exact ⟨_, _, hother⟩

lemma rounds_of_merge {i : Input} {m : Merge} (hi : i.merge = .ok m) : ∀ r ∈ m.due, r.time.Rounds := by
  obtain ⟨hm, ⟨_, _, htraffic⟩, hdns⟩ := sources_of_merge hi
  intro r hr
  rw [hm] at hr
  rcases Merge.mem_due_ofSources hr with hmem | ⟨s, hs, hmem⟩
  · exact Source.rounds_of_ofStream htraffic r hmem
  · obtain ⟨_, _, hopen⟩ := hdns s hs
    exact Source.rounds_of_ofStream hopen r hmem

lemma due_of_merge {i : Input} {m : Merge} (hi : i.merge = .ok m) (ht : m.traffic.drain.failure = none)
    (hd : ∀ s ∈ m.dns, s.drain.failure = none) :
    m.Clean ∧ m.due = interleave m.traffic.drain.items (Merge.dnsRecords m.dns) ∧ ∀ r ∈ m.due, r.time.Rounds := by
  obtain ⟨hm, -, -⟩ := sources_of_merge hi
  have hclean := Merge.clean_ofSources ht hd
  have hdue := Merge.due_ofSources ht hd
  rw [← hm] at hclean hdue
  exact ⟨hclean, hdue, rounds_of_merge hi⟩

theorem distill_output {i : Input} {m : Merge} {sink : Sink} (h : sink.room = none) (hi : i.merge = .ok m)
    (ht : m.traffic.drain.failure = none) (hd : ∀ s ∈ m.dns, s.drain.failure = none) :
    (distill settings i sink).result = .ok () ∧
    Captured settings (interleave m.traffic.drain.items (Merge.dnsRecords m.dns)) sink.accepted
      (distill settings i sink).sink.accepted := by
  obtain ⟨hclean, hdue, hrounds⟩ := due_of_merge hi ht hd
  obtain ⟨hok, hout⟩ := @run_of_clean settings m sink hclean hrounds h .empty
  rw [hdue] at hout
  simp only [distill, hi]
  exact ⟨hok, captured_of_bytes hout⟩

def query : List UInt8 :=
  [0x45, 0, 0, 29, 0, 1, 0, 0, 64, 17, 0x66, 0xcd, 10, 0, 0, 1, 10, 0, 0, 2] ++ [3, 0xe8, 0, 53, 0, 9, 0, 0, 42]

def recordBytes (seconds : Nat) (data : List UInt8) : List UInt8 := recordHeader seconds 7 data.length 1500 ++ data

-- A padded datagram, a frame that the filter leaves out and a wrong header checksum; and an earlier DNS packet.
def mixed : Input where
  traffic :=
    let address : List UInt8 := List.replicate 12 2
    .ofBytes (fileHeader 65535 .ethernet ++ recordBytes 5 (address ++ [8, 0] ++ query ++ [0, 0, 0]) ++
      recordBytes 6 (address ++ [8, 6] ++ query) ++ recordBytes 7 (address ++ [8, 0] ++ query.set 8 63))
  filter := some "ip"
  dns := some (.ok (.ofBytes (fileHeader 65535 .raw ++ recordBytes 4 query)))

-- Both records are at 7 microseconds past the second, with 29 bytes of 1500 captured.
theorem distill_mixed :
    ∃ m, mixed.merge = .ok m ∧ m.traffic.drain.failure = none ∧ (∀ s ∈ m.dns, s.drain.failure = none) ∧
      (distill .standard mixed .unbounded).result = .ok () ∧
      (distill .standard mixed .unbounded).sink.accepted =
        [0xd4, 0xc3, 0xb2, 0xa1, 2, 0, 4, 0, 0, 0, 0, 0, 0, 0, 0, 0, 0xff, 0xff, 0, 0, 101, 0, 0, 0] ++
          ([4, 0, 0, 0, 7, 0, 0, 0, 29, 0, 0, 0, 0xdc, 5, 0, 0] ++ query ++
            ([5, 0, 0, 0, 7, 0, 0, 0, 29, 0, 0, 0, 0xdc, 5, 0, 0] ++ query)) := by
  have hclean : mixed.merge.toOption.any (fun m =>
      m.traffic.drain.failure = none ∧ (∀ s ∈ m.dns, s.drain.failure = none) ∧
        ((interleave m.traffic.drain.items (Merge.dnsRecords m.dns)).filterMap (output? .standard)).flatMap
          Entry.bytes = recordBytes 4 query ++ recordBytes 5 query) = true := by decide +kernel
  cases hm : mixed.merge with
  | error e => simp [hm, Except.toOption] at hclean
  | ok m =>
    rw [hm] at hclean
    obtain ⟨ht, hd, hentries⟩ := of_decide_eq_true hclean
    obtain ⟨hok, hcaptured⟩ := @distill_output .standard mixed m .unbounded rfl hm ht hd
    refine ⟨m, rfl, ht, hd, hok, ?_⟩
    rw [hcaptured.bytes, hentries]
    rfl

end Sieve

end CaptureSieve
