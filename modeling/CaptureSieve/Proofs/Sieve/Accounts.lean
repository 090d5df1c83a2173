import CaptureSieve.Proofs.Instant.Rendering
import CaptureSieve.Proofs.Packet.FiveTuple
import CaptureSieve.Proofs.Sieve.TimeOrder

/-!
What a tally says of the runs it was kept over: each of its figures is one of the packets that these runs took from
their merges, whichever way the runs ended.
-/

namespace CaptureSieve

namespace Merge

/-- A merge of two sources that were opened from some streams, whatever has been asked of any of them since. -/
inductive Reached : Merge → Prop
  | opened {traffic : Source} {dns : Option Source} (ht : traffic.Reached) (hd : ∀ s ∈ dns, s.Reached) :
      Reached (.ofSources traffic dns)
  | asked {m : Merge} (h : Reached m) (a : Ask) : Reached (ask a m).state

lemma due_of_ask (a : Ask) (m : Merge) : ∀ r ∈ (ask a m).state.due, r ∈ m.due := by
  cases ask_serves a m with
  | failed e answer fails leaves =>
    rw [leaves.due]
    exact fun r => id
  | given answer leaves =>
    rw [leaves.due]
    cases a with
    | next => exact fun r => List.mem_of_mem_tail
    | peek => exact fun r => id

lemma rounds_of_reached {m : Merge} (h : m.Reached) : ∀ r ∈ m.due, r.time.Rounds := by
  induction h with
  | opened ht hd => exact Sieve.rounds_of_merged ht hd
  | asked h a ih => exact fun r hr => ih r (due_of_ask a _ r hr)

end Merge

lemma CalendarDate.year_lt {days : Nat} (h : days ≤ 100_000) : (ofDays days).year < 10000 := by
  simp only [ofDays]
  split <;> omega

lemma Instant.rfc3339?_isSome {t : Instant} (h : t.micros < 0x1_0000_0000 * 1_000_000) : t.rfc3339?.isSome := by
  have hdays : t.seconds / 86400 ≤ 100_000 := by
    simp only [micros] at h
    simp only [seconds]
    omega
  simp only [rfc3339?, CalendarDate.year_lt hdays, if_true, Option.isSome_some]

namespace Sieve

/-- A packet of a run, and the writer that it comes to. -/
structure Passage where
  record : Record
  writer : Writer

namespace Passage

variable (settings : Settings) (p : Passage)

def answer? : Option (Except WriteError Unit) :=
  match p.record.classify settings.verifyTransport, p.record.datagram with
  | .accept _, .ok bytes => some (p.writer.write bytes p.record.wireLength p.record.time).1
  | _, _ => none

def written : Bool :=
  match p.answer? settings with
  | some (.ok ()) => true
  | _ => false

def broken : Bool :=
  match p.answer? settings with
  | some (.error (.io _)) => true
  | _ => false

end Passage

/-- The packets that a run takes from the merge. A write that the output fails is the last. -/
def passages (settings : Settings) (m : Merge) (w : Writer) : List Passage :=
  let c := m.next
  match h : c.answer with
  | .ok (some r) =>
    have _lighter := Merge.next_weight_lt h
    ⟨r, w⟩ :: if (⟨r, w⟩ : Passage).broken settings then [] else passages settings c.state (place settings r w).2
  | _ => []
termination_by m.weight

def written (settings : Settings) (ps : List Passage) : List Record :=
  (ps.filter (·.written settings)).map (·.record)

structure Accounts (settings : Settings) (ps : List Passage) (broken : Nat) (t : Tally) : Prop where
  dropped : t.dropped = t.drops.notIpv4 + t.drops.notTransport + t.drops.badChecksum + t.drops.unwritable
  accepted : t.accepted = (written settings ps).length
  total : t.accepted + t.dropped + broken = ps.length
  unverified : t.unverified =
    (written settings ps).countP (fun r => r.classify settings.verifyTransport = .accept true)
  dnsPackets : t.dnsPackets = (written settings ps).countP (·.isDns)
  flows : t.flowCount =
    ((((written settings ps).filterMap (·.datagram.toOption)).filter HasPorts).map fiveTuple).toFinset.card
  dated : (t.timeStart?.isSome ↔ 0 < t.accepted) ∧ (t.timeEnd?.isSome ↔ 0 < t.accepted)
  timeStart : ∀ r ∈ (written settings ps).head?, ∃ text, t.timeStart? = some text ∧ r.time.Renders text
  timeEnd : 0 < t.accepted → ∃ r ∈ written settings ps, (∀ s ∈ written settings ps, s.time ≤ r.time) ∧
    ∃ text, t.timeEnd? = some text ∧ r.time.Renders text

/-- The figures as they are kept, of the records written so far. -/
structure Kept (settings : Settings) (records : List Record) (count : Nat) (t : Tally) : Prop where
  dropped : t.dropped = t.drops.notIpv4 + t.drops.notTransport + t.drops.badChecksum + t.drops.unwritable
  accepted : t.accepted = records.length
  total : t.accepted + t.dropped = count
  unverified : t.unverified = records.countP (fun r => r.classify settings.verifyTransport = .accept true)
  dnsPackets : t.dnsPackets = records.countP (·.isDns)
  nodup : t.flows.Nodup
  flows : ∀ k, k ∈ t.flows ↔ ∃ r ∈ records, ∃ l, r.flowKey = .ok l ∧ l.canonical = k
  first : t.first = records.head?.map (·.time)
  last : ∀ time, t.last = some time → ∃ r ∈ records, r.time = time ∧ ∀ s ∈ records, s.time ≤ time
  undated : t.last = none → records = []

variable {settings : Settings} {r : Record} {w : Writer} {t : Tally} {records : List Record} {count : Nat}

lemma kept_empty : Kept settings [] 0 .empty := by
  constructor <;> simp [Tally.empty]

lemma kept_drop (h : Kept settings records count t) (reason : DropReason) :
    Kept settings records (count + 1) (t.drop reason) := by
  refine ⟨?_, h.accepted, ?_, h.unverified, h.dnsPackets, h.nodup, h.flows, h.first, h.last, h.undated⟩
  · have hdropped := h.dropped
    cases reason <;> simp only [Tally.drop, DropTally.add] <;> omega
  · have htotal := h.total
    simp only [Tally.drop]
    omega

lemma nodup_withFlow {flows : List FlowKey} (h : flows.Nodup) (key : Except PacketError FlowKey) :
    (Tally.withFlow flows key).Nodup := by
  cases key with
  | error e => exact h
  | ok k =>
    rw [Tally.withFlow]
    split
    · exact h
    · next hnew => exact h.cons hnew

lemma mem_withFlow {flows : List FlowKey} {key : Except PacketError FlowKey} {k : FlowKey} :
    k ∈ Tally.withFlow flows key ↔ k ∈ flows ∨ ∃ l, key = .ok l ∧ l.canonical = k := by
  cases key with
  | error e => simp [Tally.withFlow]
  | ok l =>
    rw [Tally.withFlow]
    split
    · next hold =>
      simp only [Except.ok.injEq, exists_eq_left']
      exact ⟨.inl, fun h => h.elim id fun heq => heq ▸ hold⟩
    · simp only [List.mem_cons, Except.ok.injEq, exists_eq_left', eq_comm, or_comm]

lemma last_accept (h : Kept settings records count t) {unverified : Bool} {time : Instant}
    (hlast : (t.accept r unverified).last = some time) :
    ∃ s ∈ records ++ [r], s.time = time ∧ ∀ u ∈ records ++ [r], u.time ≤ time := by
  have hself : r.time ≤ r.time := Nat.le_refl _
  cases hold : t.last with
  | none =>
    obtain rfl := h.undated hold
    obtain rfl : r.time = time := by simpa [Tally.accept, hold] using hlast
    exact ⟨r, by simp, rfl, by simpa using hself⟩
  | some last =>
    obtain ⟨s, hs, htime, hall⟩ := h.last last hold
    simp only [Tally.accept, hold, Option.some.injEq] at hlast
    by_cases hle : last ≤ r.time
    · obtain rfl : r.time = time := by simpa [hle] using hlast
      refine ⟨r, by simp, rfl, fun u hu => ?_⟩
      rcases List.mem_append.mp hu with hu | hu
      · exact Nat.le_trans (hall u hu) hle
      · rwa [List.mem_singleton.mp hu]
    · obtain rfl : last = time := by simpa [hle] using hlast
      refine ⟨s, by simp [hs], htime, fun u hu => ?_⟩
      rcases List.mem_append.mp hu with hu | hu
      · exact hall u hu
      · rw [List.mem_singleton.mp hu]
        exact Nat.le_of_lt (Nat.not_le.mp hle)

lemma kept_accept (h : Kept settings records count t) {unverified : Bool}
    (hclass : r.classify settings.verifyTransport = .accept unverified) :
    Kept settings (records ++ [r]) (count + 1) (t.accept r unverified) := by
  constructor
  · exact h.dropped
  · simp [Tally.accept, h.accepted]
  · have htotal := h.total
    simp only [Tally.accept]
    omega
  · cases unverified <;> simp [Tally.accept, h.unverified, hclass]
  · cases hdns : r.isDns <;> simp [Tally.accept, h.dnsPackets, hdns]
  · exact nodup_withFlow h.nodup _
  · intro k
    simp only [Tally.accept, mem_withFlow, h.flows, List.mem_append, List.mem_singleton, or_and_right, exists_or,
      exists_eq_left]
  · rw [Tally.accept, h.first]
    cases records <;> rfl
  · exact fun time hlast => last_accept h hlast
  · intro hnone
    cases hlast : t.last <;> simp [Tally.accept, hlast] at hnone

inductive Placed (settings : Settings) (r : Record) (w : Writer) : Fate → Prop
  | accepted {unverified : Bool} (class_eq : r.classify settings.verifyTransport = .accept unverified)
      (answer : (⟨r, w⟩ : Passage).answer? settings = some (.ok ())) : Placed settings r w (.accepted unverified)
  | dropped (reason : DropReason) (answer : (⟨r, w⟩ : Passage).answer? settings = none) :
      Placed settings r w (.dropped reason)
  | unwritable {e : WriteError} (answer : (⟨r, w⟩ : Passage).answer? settings = some (.error e))
      (he : ∀ reason, e ≠ .io reason) : Placed settings r w (.unwritable e)
  | failed (reason : String) (answer : (⟨r, w⟩ : Passage).answer? settings = some (.error (.io reason))) :
      Placed settings r w (.failed (.io reason))

lemma place_placed (settings : Settings) (r : Record) (w : Writer) : Placed settings r w (place settings r w).1 := by
  cases hclass : r.classify settings.verifyTransport with
  | drop reason =>
    rw [place_of_drop hclass]
    exact .dropped reason (by rw [Passage.answer?, hclass])
  | accept unverified =>
    cases hd : r.datagram with
    | error e =>
      simp only [place, hclass, hd]
      exact .dropped .notIpv4 (by rw [Passage.answer?, hclass, hd])
    | ok bytes =>
      have hanswer : (⟨r, w⟩ : Passage).answer? settings = some (w.write bytes r.wireLength r.time).1 := by
        rw [Passage.answer?, hclass, hd]
      simp only [place, hclass, hd]
      rcases hw : w.write bytes r.wireLength r.time with ⟨answer, next⟩
      rw [hw] at hanswer
      cases answer with
      | ok u => exact .accepted hclass hanswer
      | error e =>
        cases e with
        | io reason => exact .failed reason hanswer
        | timeOutOfRange time => exact .unwritable hanswer (by simp)
        | recordTooLarge size snapLength => exact .unwritable hanswer (by simp)

lemma written_append (settings : Settings) (ps qs : List Passage) :
    written settings (ps ++ qs) = written settings ps ++ written settings qs := by
  simp only [written, List.filter_append, List.map_append]

lemma written_of_broken {passage : Passage} (h : passage.broken settings = true) : written settings [passage] = [] := by
  rw [Passage.broken] at h
  split at h
  · next reason hanswer => simp [written, Passage.written, hanswer]
  · simp at h

section Step

variable {m : Merge}

inductive Settles (settings : Settings) (r : Record) (w : Writer) (t : Tally) : Except WriteError Unit × Progress → Prop
  | settled {q : Progress} (unbroken : (⟨r, w⟩ : Passage).broken settings = false)
      (writer : q.writer = (place settings r w).2)
      (kept : ∀ {records count}, Kept settings records count t →
        Kept settings (records ++ written settings [⟨r, w⟩]) (count + 1) q.tally) : Settles settings r w t (.ok (), q)
  | brokenOff {q : Progress} (reason : String) (broken : (⟨r, w⟩ : Passage).broken settings = true)
      (tally : q.tally = t) : Settles settings r w t (.error (.io reason), q)

lemma step_settles (settings : Settings) (r : Record) (p : Progress) :
    Settles settings r p.writer p.tally (p.step settings r) := by
  have hplaced := place_placed settings r p.writer
  rcases hplace : place settings r p.writer with ⟨fate, w⟩
  rw [hplace] at hplaced
  rw [step_of_place hplace]
  cases hplaced with
  | accepted hclass hanswer =>
    have hwritten : written settings [⟨r, p.writer⟩] = [r] := by simp [written, Passage.written, hanswer]
    refine .settled (by simp [Passage.broken, hanswer]) (by rw [hplace]) fun h => ?_
    rw [hwritten]
    exact kept_accept h hclass
  | dropped reason hanswer =>
    have hwritten : written settings [⟨r, p.writer⟩] = [] := by simp [written, Passage.written, hanswer]
    refine .settled (by simp [Passage.broken, hanswer]) (by rw [hplace]) fun h => ?_
    rw [hwritten, List.append_nil]
    exact kept_drop h reason
  | @unwritable e hanswer he =>
    have hwritten : written settings [⟨r, p.writer⟩] = [] := by simp [written, Passage.written, hanswer]
    refine .settled ?_ (by rw [hplace]) fun h => ?_
    · cases e with
      | io reason => exact absurd rfl (he reason)
      | timeOutOfRange time => simp [Passage.broken, hanswer]
      | recordTooLarge size snapLength => simp [Passage.broken, hanswer]
    · rw [hwritten, List.append_nil]
      exact kept_drop h .unwritable
  | failed reason hanswer => exact .brokenOff reason (by simp [Passage.broken, hanswer]) rfl

lemma passages_of_end (h : ∀ r, m.next.answer ≠ .ok (some r)) (w : Writer) : passages settings m w = [] := by
  rw [passages]
  split
  · next r hr => exact absurd hr (h r)
  · rfl

lemma passages_of_packet (h : m.next.answer = .ok (some r)) (w : Writer) :
    passages settings m w = ⟨r, w⟩ ::
      if (⟨r, w⟩ : Passage).broken settings then [] else passages settings m.next.state (place settings r w).2 := by
  rw [passages]
  split <;> simp_all

lemma passages_of_broken (h : m.next.answer = .ok (some r)) (hb : (⟨r, w⟩ : Passage).broken settings = true) :
    passages settings m w = [⟨r, w⟩] := by
  rw [passages_of_packet h, hb, if_pos rfl]

lemma passages_of_settled (h : m.next.answer = .ok (some r)) (hb : (⟨r, w⟩ : Passage).broken settings = false) :
    passages settings m w = ⟨r, w⟩ :: passages settings m.next.state (place settings r w).2 := by
  rw [passages_of_packet h, hb]
  rfl

structure Follows (settings : Settings) (m : Merge) (ps : List Passage) (result : Except RunError Unit) : Prop where
  initial : ps.map (·.record) <+: m.drain.items
  whole : ps.any (·.broken settings) = false → ps.map (·.record) = m.drain.items
  broken_iff : ps.any (·.broken settings) = true ↔ ∃ reason, result = .error (.writer (.io reason))
  once : ps.countP (·.broken settings) ≤ 1

lemma Follows.cons {ps : List Passage} {result : Except RunError Unit} (h : m.next.answer = .ok (some r))
    (hb : (⟨r, w⟩ : Passage).broken settings = false) (hps : Follows settings m.next.state ps result) :
    Follows settings m (⟨r, w⟩ :: ps) result := by
  have hitems : m.drain.items = r :: m.next.state.drain.items := by rw [Merge.drain_of_packet h]
  constructor
  · rw [hitems]
    exact (List.prefix_cons_inj r).mpr hps.initial
  · intro hnone
    simp only [List.any_cons, hb, Bool.false_or] at hnone
    rw [hitems, List.map_cons, hps.whole hnone]
  · simp only [List.any_cons, hb, Bool.false_or]
    exact hps.broken_iff
  · rw [List.countP_cons_of_neg (by simp [hb])]
    exact hps.once

lemma drain_follows (settings : Settings) (m : Merge) (p : Progress) :
    Follows settings m (passages settings m p.writer) (drain settings m p).1 := by
  fun_induction drain settings m p with
  | case1 m p c p' e h =>
    rw [passages_of_end (by simp [show m.next.answer = .error e from h])]
    constructor <;> simp [Merge.drain_of_error h]
  | case2 m p c p' h =>
    rw [passages_of_end (by simp [show m.next.answer = .ok none from h])]
    constructor <;> simp [Merge.drain_of_end h]
  | case3 m p c p' r h lighter e q hstep =>
    have hsettles : Settles settings r p.writer p.tally (p'.step settings r) := step_settles settings r p'
    rw [hstep] at hsettles
    cases hsettles with
    | brokenOff reason hbroken =>
      rw [passages_of_broken h hbroken]
      constructor <;> simp [hbroken, Merge.drain_of_packet h]
  | case4 m p c p' r h lighter q hstep ih =>
    have hsettles : Settles settings r p.writer p.tally (p'.step settings r) := step_settles settings r p'
    rw [hstep] at hsettles
    cases hsettles with
    | settled hunbroken hwriter =>
      rw [passages_of_settled h hunbroken]
      rw [hwriter] at ih
      exact ih.cons h hunbroken

lemma kept_of_drain (settings : Settings) (m : Merge) (p : Progress) :
    ∀ records count, Kept settings records count p.tally →
      Kept settings (records ++ written settings (passages settings m p.writer))
        (count + (passages settings m p.writer).countP (!·.broken settings)) (drain settings m p).2.tally := by
  fun_induction drain settings m p with
  | case1 m p c p' e h =>
    intro records count hkept
    rw [passages_of_end (by simp [show m.next.answer = .error e from h])]
    have hsame : p'.tally = p.tally := rfl
    simpa [written, hsame] using hkept
  | case2 m p c p' h =>
    intro records count hkept
    rw [passages_of_end (by simp [show m.next.answer = .ok none from h])]
    have hsame : p'.tally = p.tally := rfl
    simpa [written, hsame] using hkept
  | case3 m p c p' r h lighter e q hstep =>
    intro records count hkept
    have hsettles : Settles settings r p.writer p.tally (p'.step settings r) := step_settles settings r p'
    rw [hstep] at hsettles
    cases hsettles with
    | brokenOff reason hbroken htally =>
      rw [passages_of_broken h hbroken, written_of_broken hbroken]
      simpa [hbroken, htally] using hkept
  | case4 m p c p' r h lighter q hstep ih =>
    intro records count hkept
    have hsettles : Settles settings r p.writer p.tally (p'.step settings r) := step_settles settings r p'
    rw [hstep] at hsettles
    cases hsettles with
    | settled hunbroken hwriter hkeeps =>
      have hlater := ih _ _ (hkeeps hkept)
      rw [hwriter, List.append_assoc, ← written_append, List.singleton_append] at hlater
      rw [passages_of_settled h hunbroken, List.countP_cons_of_pos (by simp [hunbroken])]
      rwa [Nat.add_right_comm] at hlater

end Step

structure Job where
  merge : Merge
  sink : Sink

def Job.passages (settings : Settings) (job : Job) : List Passage :=
  Sieve.passages settings job.merge (.ofSink job.sink settings.snapLength settings.link)

def Job.broken (settings : Settings) (job : Job) : Bool := (job.passages settings).any (·.broken settings)

def tallied (settings : Settings) (jobs : List Job) : Tally :=
  jobs.foldl (fun t job => (run settings t job.merge job.sink).tally) .empty

lemma kept_of_jobs (jobs : List Job) (h : Kept settings records count t) :
    Kept settings (records ++ written settings (jobs.flatMap (Job.passages settings)))
      (count + (jobs.flatMap (Job.passages settings)).countP (!·.broken settings))
      (jobs.foldl (fun t job => (run settings t job.merge job.sink).tally) t) := by
  induction jobs generalizing records count t with
  | nil => simpa [written] using h
  | cons job jobs ih =>
    have hstep : Kept settings (records ++ written settings (job.passages settings))
        (count + (job.passages settings).countP (!·.broken settings))
        (run settings t job.merge job.sink).tally := by
      rw [run_eq, finish_tally]
      exact kept_of_drain settings job.merge (.start settings t job.sink) _ _ h
    rw [List.flatMap_cons, List.foldl_cons, written_append, List.countP_append, ← List.append_assoc, ← Nat.add_assoc]
    exact ih hstep

lemma exists_flow_of_records (records : List Record) (c : Sym2 (Nat × Nat) × Nat) :
    (∃ r ∈ records, ∃ k, r.flowKey = .ok k ∧ k.numbers = c) ↔
      c ∈ ((records.filterMap (·.datagram.toOption)).filter HasPorts).map fiveTuple := by
  have hdatagram : ∀ (r : Record) d, r.datagram.toOption = some d ↔ r.datagram = .ok d := by
    intro r d
    cases r.datagram <;> simp [Except.toOption]
  simp only [Record.exists_flow_iff, List.mem_map, List.mem_filter, List.mem_filterMap, hdatagram, decide_eq_true_eq]
  constructor
  · rintro ⟨r, hr, d, hd, hports, htuple⟩
    exact ⟨d, ⟨⟨r, hr, hd⟩, hports⟩, htuple⟩
  · rintro ⟨d, ⟨⟨r, hr, hd⟩, hports⟩, htuple⟩
    exact ⟨r, hr, d, hd, hports, htuple⟩

lemma card_flows (h : Kept settings records count t) : t.flowCount =
    (((records.filterMap (·.datagram.toOption)).filter HasPorts).map fiveTuple).toFinset.card := by
  have hnodup : (t.flows.map FlowKey.numbers).Nodup := by
    refine List.Nodup.map_on (fun k hk l hl hsame => ?_) h.nodup
    obtain ⟨-, -, k, -, rfl⟩ := (h.flows k).mp hk
    obtain ⟨-, -, l, -, rfl⟩ := (h.flows l).mp hl
    rw [FlowKey.numbers_canonical, FlowKey.numbers_canonical, FlowKey.numbers_eq_iff] at hsame
    exact FlowKey.canonical_eq_iff.mpr hsame
  have hsame : (t.flows.map FlowKey.numbers).toFinset =
      (((records.filterMap (·.datagram.toOption)).filter HasPorts).map fiveTuple).toFinset := by
    ext c
    rw [List.mem_toFinset, List.mem_toFinset, ← exists_flow_of_records, List.mem_map]
    constructor
    · rintro ⟨k, hk, rfl⟩
      obtain ⟨r, hr, l, hl, rfl⟩ := (h.flows k).mp hk
      exact ⟨r, hr, l, hl, (FlowKey.numbers_canonical l).symm⟩
    · rintro ⟨r, hr, l, hl, rfl⟩
      exact ⟨l.canonical, (h.flows _).mpr ⟨r, hr, l, hl, rfl⟩, FlowKey.numbers_canonical l⟩
  rw [Tally.flowCount, ← List.length_map (f := FlowKey.numbers), ← List.toFinset_card_of_nodup hnodup, hsame]

section Dated

variable (h : Kept settings records count t) (hdated : ∀ r ∈ records, r.time.rfc3339?.isSome)

include h hdated

lemma start_of_kept : ∀ r ∈ records.head?, ∃ text, t.timeStart? = some text ∧ r.time.Renders text := by
  intro r hr
  obtain ⟨text, htext⟩ := Option.isSome_iff_exists.mp (hdated r (List.mem_of_mem_head? hr))
  refine ⟨text, ?_, Instant.renders_of_rfc3339? htext⟩
  rw [Tally.timeStart?, h.first, Option.mem_def.mp hr, Option.map_some, Option.bind_some, htext]

lemma end_of_kept (hsome : records ≠ []) : ∃ r ∈ records, (∀ s ∈ records, s.time ≤ r.time) ∧
    ∃ text, t.timeEnd? = some text ∧ r.time.Renders text := by
  obtain ⟨time, hlast⟩ := Option.ne_none_iff_exists'.mp fun hnone => hsome (h.undated hnone)
  obtain ⟨r, hr, rfl, hall⟩ := h.last time hlast
  obtain ⟨text, htext⟩ := Option.isSome_iff_exists.mp (hdated r hr)
  refine ⟨r, hr, hall, text, ?_, Instant.renders_of_rfc3339? htext⟩
  rw [Tally.timeEnd?, hlast, Option.bind_some, htext]

lemma timeStart_of_kept : t.timeStart?.isSome ↔ 0 < t.accepted := by
  rw [h.accepted, List.length_pos_iff]
  constructor
  · rintro hsome rfl
    simp [Tally.timeStart?, h.first] at hsome
  · intro hne
    obtain ⟨text, htext, -⟩ := start_of_kept h hdated (records.head hne) (List.head_mem_head? hne)
    rw [htext]
    rfl

lemma timeEnd_of_kept : t.timeEnd?.isSome ↔ 0 < t.accepted := by
  rw [h.accepted, List.length_pos_iff]
  constructor
  · rintro hsome rfl
    cases hlast : t.last with
    | none => simp [Tally.timeEnd?, hlast] at hsome
    | some time =>
      obtain ⟨r, hr, -⟩ := h.last time hlast
      exact List.not_mem_nil hr
  · intro hne
    obtain ⟨-, -, -, text, htext, -⟩ := end_of_kept h hdated hne
    rw [htext]
    rfl

end Dated

lemma accounts_of_kept {ps : List Passage} (h : Kept settings (written settings ps) (ps.countP (!·.broken settings)) t)
    (hdated : ∀ r ∈ written settings ps, r.time.rfc3339?.isSome) :
    Accounts settings ps (ps.countP (·.broken settings)) t := by
  refine ⟨h.dropped, h.accepted, ?_, h.unverified, h.dnsPackets, card_flows h,
    ⟨timeStart_of_kept h hdated, timeEnd_of_kept h hdated⟩, start_of_kept h hdated, fun haccepted => ?_⟩
  · have hsplit := List.length_eq_countP_add_countP (·.broken settings) (l := ps)
    simp only [Bool.not_eq_true, Bool.decide_eq_false] at hsplit
    rw [h.total, hsplit, Nat.add_comm]
  · rw [h.accepted, List.length_pos_iff] at haccepted
    exact end_of_kept h hdated haccepted

lemma rounds_of_passages {job : Job} (h : job.merge.Reached) : ∀ p ∈ job.passages settings, p.record.time.Rounds := by
  intro p hp
  apply Merge.rounds_of_reached h
  rw [Merge.due_of_drain]
  apply List.mem_append_left
  exact (drain_follows settings job.merge (.start settings .empty job.sink)).initial.subset
    (List.mem_map.mpr ⟨p, hp, rfl⟩)

lemma dated_of_written {p : Passage} (h : p.written settings = true) (ht : p.record.time.Rounds) :
    p.record.time.rfc3339?.isSome := by
  rw [Passage.written] at h
  split at h
  · next hanswer =>
    rw [Passage.answer?] at hanswer
    split at hanswer
    · next unverified bytes hclass hd =>
      obtain ⟨seconds, micros, hfields⟩ := Writer.fields_of_write (Option.some.inj hanswer)
      exact Instant.rfc3339?_isSome ((Writer.timeFields_ok_iff ht).mp hfields).2.1
    · simp at hanswer
  · simp at h

lemma countP_passages (settings : Settings) (job : Job) :
    (job.passages settings).countP (·.broken settings) = if job.broken settings then 1 else 0 := by
  have honce := (drain_follows settings job.merge (.start settings .empty job.sink)).once
  rw [Job.broken]
  split
  · next hbroken =>
    obtain ⟨p, hp, hb⟩ := List.any_eq_true.mp hbroken
    exact Nat.le_antisymm honce (List.countP_pos_iff.mpr ⟨p, hp, hb⟩)
  · next hwhole =>
    rw [List.countP_eq_zero]
    exact fun p hp hb => hwhole (List.any_eq_true.mpr ⟨p, hp, hb⟩)

lemma countP_jobs (settings : Settings) (jobs : List Job) :
    (jobs.flatMap (Job.passages settings)).countP (·.broken settings) = jobs.countP (Job.broken settings) := by
  induction jobs with
  | nil => rfl
  | cons job jobs ih =>
    rw [List.flatMap_cons, List.countP_append, ih, countP_passages, List.countP_cons, Nat.add_comm]

theorem accounts_of_jobs (settings : Settings) {jobs : List Job} (h : ∀ job ∈ jobs, job.merge.Reached) :
    Accounts settings (jobs.flatMap (Job.passages settings)) (jobs.countP (Job.broken settings))
      (tallied settings jobs) ∧
    ∀ job ∈ jobs, ∀ t, Follows settings job.merge (job.passages settings)
      (drain settings job.merge (.start settings t job.sink)).1 := by
  refine ⟨?_, fun job _ t => drain_follows settings job.merge (.start settings t job.sink)⟩
  have hkept := kept_of_jobs jobs (@kept_empty settings)
  rw [List.nil_append, Nat.zero_add] at hkept
  rw [← countP_jobs]
  apply accounts_of_kept hkept
  intro r hr
  obtain ⟨p, hp, rfl⟩ := List.mem_map.mp hr
  obtain ⟨hpassage, hwritten⟩ := List.mem_filter.mp hp
  obtain ⟨job, hjob, hmem⟩ := List.mem_flatMap.mp hpassage
  exact dated_of_written hwritten (rounds_of_passages (h job hjob) p hmem)

def reply : List UInt8 :=
  [0x45, 0, 0, 29, 0, 1, 0, 0, 64, 17, 0x66, 0xcd, 10, 0, 0, 2, 10, 0, 0, 1] ++ [0, 53, 3, 0xe8, 0, 9, 0, 0, 42]

-- It says it is longer than what there is of it.
def bulky : List UInt8 :=
  [0x45, 0, 0xff, 0xff, 0, 1, 0, 0, 64, 17, 0x66, 0xea, 10, 0, 0, 1, 10, 0, 0, 2, 3, 0xe8, 0, 53, 0xff, 0xeb, 0, 0] ++
    List.replicate 8192 0

-- The second sink is full when the third of its packets comes, and the last takes nothing at all.
def threeJobs : List Job :=
  let inputs : List (List (Nat × List UInt8) × Sink) :=
    [([(951_868_799, query), (5, reply)], .unbounded),
      ([(4_107_542_400, query), (6, [0]), (4_294_967_295, bulky), (7, query)], .bounded 30 "full"),
      ([(8, query.set 8 63), (9, reply.set 23 0xe9)], .bounded 0 "full")]
  inputs.filterMap fun (packets, sink) =>
    let bytes := fileHeader 65535 .raw ++ packets.flatMap fun p => recordBytes p.1 p.2
    (Source.ofStream (.ofBytes bytes) none).toOption.map fun s => ⟨.ofSources s none, sink⟩

theorem accounts_of_threeJobs :
    (∀ job ∈ threeJobs, job.merge.Reached) ∧
      Accounts .standard (threeJobs.flatMap (Job.passages .standard)) 1 (tallied .standard threeJobs) ∧
      (tallied .standard threeJobs).accepted = 4 ∧ (tallied .standard threeJobs).drops = ⟨1, 0, 1, 0⟩ ∧
      (tallied .standard threeJobs).unverified = 4 ∧ (tallied .standard threeJobs).dnsPackets = 4 ∧
      (tallied .standard threeJobs).flowCount = 2 ∧
      (tallied .standard threeJobs).timeStart? = some "2000-02-29T23:59:59.000007Z" ∧
      (tallied .standard threeJobs).timeEnd? = some "2100-03-01T00:00:00.000007Z" := by
  have hreached : ∀ job ∈ threeJobs, job.merge.Reached := by
    intro job hjob
    obtain ⟨⟨packets, sink⟩, -, hjob⟩ := List.mem_filterMap.mp hjob
    obtain ⟨s, hs, rfl⟩ := Option.map_eq_some_iff.mp hjob
    cases hopen : Source.ofStream (.ofBytes (fileHeader 65535 .raw ++
      packets.flatMap fun p => recordBytes p.1 p.2)) none with
    | error e => simp [hopen, Except.toOption] at hs
    | ok s' =>
      obtain rfl : s' = s := by simpa [hopen, Except.toOption] using hs
      exact .opened (.opened hopen) (by simp)
  have hbroken : threeJobs.countP (Job.broken .standard) = 1 := by decide +kernel
  have haccounts := (accounts_of_jobs .standard hreached).1
  rw [hbroken] at haccounts
  exact ⟨hreached, haccounts, by decide +kernel⟩

end Sieve

end CaptureSieve
