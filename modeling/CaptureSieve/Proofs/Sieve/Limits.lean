import CaptureSieve.Proofs.Sieve.Totals
import CaptureSieve.Proofs.Writing.Limits

/-!
Runs into a sink with a limit, beside the same runs into one without.
-/

namespace CaptureSieve

namespace Sieve

variable {settings : Settings} {r : Record} {limit : Nat} {w v : Writer} {p q : Progress}

def fateOfWrite (unverified : Bool) : Except WriteError Unit → Fate
  | .ok () => .accepted unverified
  | .error (.io reason) => .failed (.io reason)
  | .error e => .unwritable e

lemma place_cases (settings : Settings) (r : Record) :
    (∃ reason, ∀ w, place settings r w = (.dropped reason, w)) ∨
    ∃ unverified bytes, ∀ w, place settings r w =
      (fateOfWrite unverified (w.write bytes r.wireLength r.time).1, (w.write bytes r.wireLength r.time).2) := by
  cases hclass : r.classify settings.verifyTransport with
  | drop reason => exact .inl ⟨reason, fun w => place_of_drop hclass⟩
  | accept unverified =>
    cases hd : r.datagram with
    | error e => exact .inl ⟨.notIpv4, fun w => by simp only [place, hclass, hd]⟩
    | ok bytes =>
      refine .inr ⟨unverified, bytes, fun w => ?_⟩
      simp only [place, hclass, hd]
      rcases w.write bytes r.wireLength r.time with ⟨e | _, w⟩
      · cases e <;> rfl
      · rfl

lemma step_eq (settings : Settings) (p : Progress) (r : Record) :
    p.step settings r = settle p r (place settings r p.writer).1 (place settings r p.writer).2 := step_of_place rfl

@[simp] lemma settle_writer (p : Progress) (r : Record) (fate : Fate) (w : Writer) :
    (settle p r fate w).2.writer = w := by
  cases fate <;> rfl

/-- The step `x` is as `y`, or the limit ends it, short of what `y` has been given. -/
def InStep {ε : Type} (limit : Nat) (x y : Except ε Unit × Progress) : Prop :=
  (x.1 = y.1 ∧ x.2.writer.Shadows limit y.2.writer) ∨
  (x.1 ≠ .ok () ∧ x.2.writer.output.sink.Cut limit y.2.writer.contents)

lemma step_inStep (h : p.writer.Shadows limit q.writer) (r : Record) :
    InStep limit (p.step settings r) (q.step settings r) := by
  rw [step_eq, step_eq, InStep, settle_writer, settle_writer]
  rcases place_cases settings r with ⟨reason, hplace⟩ | ⟨unverified, bytes, hplace⟩
  · rw [hplace, hplace]
    exact .inl ⟨rfl, h⟩
  · rw [hplace, hplace]
    rcases h.write bytes r.wireLength r.time with ⟨hsame, hshadows⟩ | ⟨⟨reason, hfailed⟩, hcut⟩
    · left
      rw [hsame]
      refine ⟨?_, hshadows⟩
      generalize fateOfWrite unverified _ = fate
      cases fate <;> rfl
    · right
      rw [hfailed]
      exact ⟨by simp [fateOfWrite, settle], hcut⟩

structure Gains (w v : Writer) : Prop where
  free : v.output.sink.room = none
  contents : w.contents <+: v.contents

lemma gains_of_step (h : p.writer.output.sink.room = none) : Gains p.writer (p.step settings r).2.writer := by
  rw [step_eq, settle_writer]
  rcases place_cases settings r with ⟨reason, hplace⟩ | ⟨unverified, bytes, hplace⟩
  · rw [hplace]
    exact ⟨h, List.prefix_rfl⟩
  · rw [hplace]
    cases hf : Writer.timeFields p.writer.snapLength bytes.length r.time with
    | error e =>
      rw [Writer.write_of_rejected hf]
      exact ⟨h, List.prefix_rfl⟩
    | ok fields =>
      obtain ⟨hok, hroom⟩ := @Writer.write_unbounded p.writer bytes r.wireLength r.time fields.1 fields.2 hf h
      refine ⟨hroom, ?_⟩
      rw [(Writer.write_contents hf hok).1]
      exact List.prefix_append _ _

lemma gains_of_drain {m : Merge} (h : p.writer.output.sink.room = none) :
    Gains p.writer (drain settings m p).2.writer := by
  fun_induction drain settings m p with
  | case1 m p c p' e hn => exact ⟨h, List.prefix_rfl⟩
  | case2 m p c p' hn => exact ⟨h, List.prefix_rfl⟩
  | case3 m p c p' r hn lighter e q hstep =>
    have hgains := @gains_of_step settings r p' h
    rwa [hstep] at hgains
  | case4 m p c p' r hn lighter q hstep ih =>
    have hgains := @gains_of_step settings r p' h
    rw [hstep] at hgains
    obtain ⟨hfree, hcontents⟩ := ih hgains.free
    exact ⟨hfree, hgains.contents.trans hcontents⟩

lemma cut_of_drain {m : Merge} {s : Sink} (hfree : q.writer.output.sink.room = none)
    (hn : m.next.answer = .ok (some r))
    (h : s.Cut limit ((q.warn m.next.warnings).step settings r).2.writer.contents) :
    s.Cut limit (drain settings m q).2.writer.contents := by
  cases hstep : ((q.warn m.next.warnings).step settings r).1 with
  | error e =>
    rw [drain_of_refused hn hstep]
    exact h
  | ok u =>
    rw [drain_of_step hn hstep]
    exact h.mono (gains_of_drain (@gains_of_step settings r (q.warn m.next.warnings) hfree).free).contents

lemma drain_inStep (settings : Settings) (m : Merge) (p : Progress) :
    ∀ q : Progress, p.writer.Shadows limit q.writer → InStep limit (drain settings m p) (drain settings m q) := by
  fun_induction drain settings m p with
  | case1 m p c p' e hn =>
    intro q h
    rw [drain_of_error hn]
    exact .inl ⟨rfl, h⟩
  | case2 m p c p' hn =>
    intro q h
    rw [drain_of_end hn]
    exact .inl ⟨rfl, h⟩
  | case3 m p c p' r hn lighter e k hstep =>
    intro q h
    have hstep' := @step_inStep settings limit p' (q.warn c.warnings) h r
    rw [hstep] at hstep'
    rcases hstep' with ⟨hsame, hshadows⟩ | ⟨-, hcut⟩
    · rw [drain_of_refused hn hsame.symm]
      exact .inl ⟨rfl, hshadows⟩
    · exact .inr ⟨by simp, cut_of_drain h.output.sink.free hn hcut⟩
  | case4 m p c p' r hn lighter k hstep ih =>
    intro q h
    have hstep' := @step_inStep settings limit p' (q.warn c.warnings) h r
    rw [hstep] at hstep'
    rcases hstep' with ⟨hsame, hshadows⟩ | ⟨hfailed, -⟩
    · rw [drain_of_step hn hsame.symm]
      exact ih _ hshadows
    · exact absurd rfl hfailed

lemma run_inStep {s t : Sink} (h : s.Shadows limit t) (settings : Settings) (tally : Tally) (m : Merge) :
    ((run settings tally m s).sink.Shadows limit (run settings tally m t).sink ∧
      ((run settings tally m s).result = .ok () ↔ (run settings tally m t).result = .ok ())) ∨
    ((run settings tally m s).sink.Cut limit (run settings tally m t).sink.accepted ∧
      (run settings tally m s).result ≠ .ok ()) := by
  have hstart := Writer.shadows_ofSink h settings.snapLength settings.link
  have hdrain := drain_inStep settings m (.start settings tally s) (.start settings tally t) hstart
  have hfree := (@gains_of_drain settings (.start settings tally t) m hstart.output.sink.free).free
  have hclose := Writer.close_unbounded hfree
  have haccepted : (drain settings m (.start settings tally t)).2.writer.close.2.accepted =
      (drain settings m (.start settings tally t)).2.writer.contents := Writer.close_accepted (Prod.ext hclose rfl)
  simp only [run_eq, finish_sink, ne_eq, finish_result_iff, hclose, haccepted, and_true]
  rcases hdrain with ⟨hsame, hshadows⟩ | ⟨hfailed, hcut⟩
  · rw [hsame]
    rcases hshadows.close with ⟨hok, hsink⟩ | ⟨hfailed, hcut⟩
    · exact .inl ⟨hsink, and_iff_left hok⟩
    · exact .inr ⟨hcut, fun h => hfailed h.2⟩
  · exact .inr ⟨Writer.cut_close hcut, fun h => hfailed h.1⟩

theorem run_of_limit (settings : Settings) (tally : Tally) (m : Merge) (limit : Nat) (refusal : String) :
    let free := run settings tally m .unbounded
    let out := run settings tally m (.bounded limit refusal)
    out.sink.accepted = free.sink.accepted.take limit ∧
    (out.result = .ok () ↔ free.result = .ok () ∧ free.sink.accepted.length ≤ limit) ∧
    (limit < free.sink.accepted.length → ∀ retries : List (List UInt8),
      (retries.foldl (fun sink bytes => (sink.write bytes).2) out.sink).accepted = out.sink.accepted) := by
  intro free out
  rcases run_inStep (Sink.shadows_bounded limit refusal) settings tally m with ⟨hshadows, hresult⟩ | ⟨hcut, hfailed⟩
  · refine ⟨?_, ?_, fun hover => absurd hshadows.fits (Nat.not_le.mpr hover)⟩
    · rw [hshadows.accepted, List.take_of_length_le hshadows.fits]
    · rw [hresult, and_iff_left hshadows.fits]
  · refine ⟨hcut.accepted, ?_, fun _ retries => hcut.accepted_of_retries retries⟩
    constructor
    · exact fun hok => absurd hok hfailed
    · exact fun ⟨_, hfits⟩ => absurd hfits (Nat.not_le.mpr hcut.beyond)

end Sieve

end CaptureSieve
