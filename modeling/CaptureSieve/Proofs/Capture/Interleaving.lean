import CaptureSieve.Proofs.Capture.Outlook
import CaptureSieve.Writing.Writer

/-!
A merge of two sources hands out the interleaving of their records, in whatever order it is asked.
-/

namespace CaptureSieve

def interleave : List Record → List Record → List Record
  | [], _ => []
  | t :: ts, [] => t :: interleave ts []
  | t :: ts, d :: ds =>
    if d.time ≤ t.time then d :: interleave (t :: ts) ds else t :: interleave ts (d :: ds)
termination_by ts ds => ts.length + ds.length

@[simp] lemma interleave_nil (ds : List Record) : interleave [] ds = [] := by simp only [interleave]

@[simp] lemma interleave_nil_right (ts : List Record) : interleave ts [] = ts := by
  induction ts with
  | nil => exact interleave_nil []
  | cons t ts ih => rw [interleave, ih]

lemma interleave_of_le {t d : Record} (h : d.time ≤ t.time) (ts ds : List Record) :
    interleave (t :: ts) (d :: ds) = d :: interleave (t :: ts) ds := by
  rw [interleave, if_pos h]

lemma interleave_of_not_le {t d : Record} (h : ¬ d.time ≤ t.time) (ts ds : List Record) :
    interleave (t :: ts) (d :: ds) = t :: interleave ts (d :: ds) := by
  rw [interleave, if_neg h]

lemma mem_interleave {ts ds : List Record} {r : Record} (h : r ∈ interleave ts ds) : r ∈ ts ∨ r ∈ ds := by
  fun_induction interleave ts ds with
  | case1 ds => simp at h
  | case2 t ts ih =>
    rw [interleave_nil_right] at h
    exact .inl h
  | case3 t ts d ds hle ih =>
    rcases List.mem_cons.mp h with rfl | h
    · exact .inr (List.mem_cons_self ..)
    · exact (ih h).imp_right (List.mem_cons_of_mem _)
  | case4 t ts d ds hle ih =>
    rcases List.mem_cons.mp h with rfl | h
    · exact .inl (List.mem_cons_self ..)
    · exact (ih h).imp_left (List.mem_cons_of_mem _)

namespace Merge

def ask : Ask → Merge → Call Merge (Option Record)
  | .next => next
  | .peek => peek

def trafficAhead (m : Merge) : List Record := m.overtaken.toList ++ m.traffic.outlook.records

def dnsBehindHead (m : Merge) : List Record := m.dns.elim [] (·.outlook.records)

def dnsAhead (m : Merge) : List Record :=
  match m.dnsHead with
  | .unknown => m.dnsBehindHead
  | .packet d => d :: m.dnsBehindHead
  | .exhausted => []

def due (m : Merge) : List Record := m.peeked.toList ++ interleave m.trafficAhead m.dnsAhead

def Fails (m : Merge) (e : SourceError) : Prop :=
  m.traffic.outlook.failure = some e ∨ ∃ s ∈ m.dns, s.outlook.failure = some e

structure Clean (m : Merge) : Prop where
  traffic : m.traffic.outlook.failure = none
  dns : ∀ s ∈ m.dns, s.outlook.failure = none

structure Leaves (m : Merge) (rest : List Record) (n : Merge) : Prop where
  due : n.due = rest
  fails : ∀ e, n.Fails e → m.Fails e

inductive Serves (m : Merge) (rest : List Record) (c : Call Merge (Option Record)) : Prop where
  | given (answer : c.answer = .ok m.due.head?) (leaves : m.Leaves rest c.state)
  | failed (e : SourceError) (answer : c.answer = .error e) (fails : m.Fails e) (leaves : m.Leaves m.due c.state)

variable {m : Merge}

lemma clean_iff : Clean m ↔ ∀ e, ¬ m.Fails e := by
  constructor
  · rintro ⟨htraffic, hdns⟩ e (he | ⟨s, hs, he⟩)
    · simp [htraffic] at he
    · simp [hdns s hs] at he
  · intro h
    constructor
    · exact Option.eq_none_iff_forall_ne_some.mpr fun e he => h e (.inl he)
    · intro s hs
      exact Option.eq_none_iff_forall_ne_some.mpr fun e he => h e (.inr ⟨s, hs, he⟩)

lemma Leaves.clean {rest : List Record} {n : Merge} (h : m.Leaves rest n) (hm : Clean m) : Clean n :=
  clean_iff.mpr fun e he => clean_iff.mp hm e (h.fails e he)

lemma Serves.of_clean {rest : List Record} {c : Call Merge (Option Record)} (h : m.Serves rest c) (hm : Clean m) :
    c.answer = .ok m.due.head? ∧ Clean c.state ∧ c.state.due = rest := by
  cases h with
  | given answer leaves => exact ⟨answer, leaves.clean hm, leaves.due⟩
  | failed e answer fails leaves => exact absurd fails (clean_iff.mp hm e)

lemma leaves_self (m : Merge) : m.Leaves m.due m := ⟨rfl, fun _ => id⟩

lemma Leaves.trans {due rest : List Record} {n k : Merge} (h : m.Leaves due n) (hn : n.Leaves rest k) :
    m.Leaves rest k :=
  ⟨hn.due, fun e he => h.fails e (hn.fails e he)⟩

lemma leaves_of_dnsAhead {dns : Option Source} {dnsHead : Lookahead}
    (h : dnsAhead { m with dns, dnsHead } = m.dnsAhead)
    (hf : ∀ s ∈ dns, ∀ e, s.outlook.failure = some e → m.Fails e) :
    m.Leaves m.due { m with dns, dnsHead } := by
  constructor
  · rw [due, due, h]
    rfl
  · rintro e (he | ⟨s, hs, he⟩)
    · exact .inl he
    · exact hf s hs e he

lemma lookAhead_of_known (h : m.dnsHead ≠ .unknown) : m.lookAhead = .ok () m := by
  rw [lookAhead]
  split
  · next hu => exact absurd hu h
  · rfl

lemma lookAhead_of_no_dns (h : m.dnsHead = .unknown) (hd : m.dns = none) :
    m.lookAhead = .ok () { m with dnsHead := .exhausted } := by
  simp only [lookAhead, h, hd]

section Dns

variable {source : Source}

lemma lookAhead_of_packet {r : Record} (h : m.dnsHead = .unknown) (hd : m.dns = some source)
    (hr : source.next.answer = .ok (some r)) :
    m.lookAhead = ⟨.ok (), { m with dns := some source.next.state, dnsHead := .packet r }, source.next.warnings⟩ := by
  simp only [lookAhead, h, hd, hr]

lemma lookAhead_of_end (h : m.dnsHead = .unknown) (hd : m.dns = some source) (hr : source.next.answer = .ok none) :
    m.lookAhead = ⟨.ok (), { m with dns := none, dnsHead := .exhausted }, source.next.warnings⟩ := by
  simp only [lookAhead, h, hd, hr]

lemma lookAhead_of_failure {e : SourceError} (h : m.dnsHead = .unknown) (hd : m.dns = some source)
    (hr : source.next.answer = .error e) :
    m.lookAhead = ⟨.error e, { m with dns := some source.next.state }, source.next.warnings⟩ := by
  simp only [lookAhead, h, hd, hr]

end Dns

structure Looks (m : Merge) (c : Call Merge Unit) : Prop where
  leaves : m.Leaves m.due c.state
  peeked : c.state.peeked = m.peeked
  known : c.answer = .ok () → c.state.dnsHead ≠ .unknown
  fails : ∀ e, c.answer = .error e → m.Fails e

lemma lookAhead_looks (m : Merge) : m.Looks m.lookAhead := by
  by_cases hhead : m.dnsHead = .unknown
  · cases hd : m.dns with
    | none =>
      rw [lookAhead_of_no_dns hhead hd]
      refine ⟨?_, rfl, by simp [Call.ok], by simp [Call.ok]⟩
      apply leaves_of_dnsAhead
      · simp [dnsAhead, dnsBehindHead, hhead, hd]
      · exact fun s hs e he => .inr ⟨s, hs, he⟩
    | some source =>
      have hahead : m.dnsAhead = source.outlook.records := by simp [dnsAhead, dnsBehindHead, hhead, hd]
      have hfails : ∀ e, source.outlook.failure = some e → m.Fails e := fun e he => .inr ⟨source, hd, he⟩
      rcases hr : source.next.answer with e | _ | r
      · rw [lookAhead_of_failure hhead hd hr]
        have hsame := Source.outlook_of_next_error hr
        refine ⟨?_, rfl, by simp, ?_⟩
        · apply leaves_of_dnsAhead
          · simp [dnsAhead, dnsBehindHead, hhead, hd, hsame]
          · rintro s ⟨⟩
            rwa [hsame]
        · rintro _ ⟨⟩
          exact hfails e (Source.next_of_error hr)
      · rw [lookAhead_of_end hhead hd hr]
        refine ⟨?_, rfl, by simp, by simp⟩
        apply leaves_of_dnsAhead
        · rw [hahead, Outlook.eq_of_answer_none (Source.next_of_ok hr).1]
          rfl
        · simp
      · rw [lookAhead_of_packet hhead hd hr]
        obtain ⟨hanswer, hstate⟩ := Source.next_of_ok hr
        refine ⟨?_, rfl, by simp, by simp⟩
        apply leaves_of_dnsAhead
        · rw [hahead, Outlook.records_of_answer_some hanswer]
          simp [dnsAhead, dnsBehindHead, hstate]
        · rintro s ⟨⟩
          rwa [hstate]
  · rw [lookAhead_of_known hhead]
    exact ⟨leaves_self m, rfl, fun _ => hhead, by simp [Call.ok]⟩

lemma inTurn_of_le {t d : Record} (hd : m.dnsHead = .packet d) (hle : d.time ≤ t.time) :
    inTurn t m = .ok (some d) { m with dnsHead := .unknown, overtaken := some t } := by
  simp only [inTurn, hd, if_pos hle]

lemma inTurn_of_not_le {t d : Record} (hd : m.dnsHead = .packet d) (hle : ¬ d.time ≤ t.time) :
    inTurn t m = .ok (some t) m := by
  simp only [inTurn, hd, if_neg hle]

lemma inTurn_of_exhausted (t : Record) (hd : m.dnsHead = .exhausted) : inTurn t m = .ok (some t) m := by
  simp only [inTurn, hd]

@[simp] lemma inTurn_peeked (t : Record) (m : Merge) : (inTurn t m).state.peeked = m.peeked := by
  unfold inTurn
  repeat' split
  all_goals rfl

lemma due_of_no_peeked (h : m.peeked = none) : m.due = interleave m.trafficAhead m.dnsAhead := by
  rw [due, h, Option.toList_none, List.nil_append]

lemma inTurn_leaves (ho : m.overtaken = none) (hp : m.peeked = none) (hd : m.dnsHead ≠ .unknown) (t : Record) :
    (inTurn t m).answer = .ok (interleave (t :: m.trafficAhead) m.dnsAhead).head? ∧
    m.Leaves (interleave (t :: m.trafficAhead) m.dnsAhead).tail (inTurn t m).state := by
  cases hhead : m.dnsHead with
  | unknown => exact absurd hhead hd
  | packet d =>
    have hahead : m.dnsAhead = d :: m.dnsBehindHead := by rw [dnsAhead, hhead]
    by_cases hle : d.time ≤ t.time
    · rw [inTurn_of_le hhead hle, hahead, interleave_of_le hle]
      refine ⟨rfl, ?_, fun _ => id⟩
      simp [Call.ok, due, hp, trafficAhead, dnsAhead, dnsBehindHead, ho]
    · rw [inTurn_of_not_le hhead hle, hahead, interleave_of_not_le hle, ← hahead]
      exact ⟨rfl, due_of_no_peeked hp, fun _ => id⟩
  | exhausted =>
    have hahead : m.dnsAhead = [] := by rw [dnsAhead, hhead]
    rw [inTurn_of_exhausted t hhead, hahead, interleave_nil_right]
    refine ⟨rfl, ?_, fun _ => id⟩
    simp [Call.ok, due_of_no_peeked hp, hahead]

lemma advance_of_overtaken {t : Record} (h : m.overtaken = some t) :
    m.advance = inTurn t { m with overtaken := none } := by
  simp only [advance, h]

lemma advance_of_traffic {t : Record} (h : m.overtaken = none) (ht : m.traffic.next.answer = .ok (some t)) :
    m.advance.answer = (inTurn t { m with traffic := m.traffic.next.state }).answer ∧
    m.advance.state = (inTurn t { m with traffic := m.traffic.next.state }).state := by
  simp [advance, h, Call.andThen, Call.within, ht]

lemma advance_of_end (h : m.overtaken = none) (ht : m.traffic.next.answer = .ok none) :
    m.advance.answer = .ok none ∧ m.advance.state = exhaust { m with traffic := m.traffic.next.state } := by
  simp [advance, h, Call.andThen, Call.within, ht, Call.ok]

lemma advance_of_failure {e : SourceError} (h : m.overtaken = none) (ht : m.traffic.next.answer = .error e) :
    m.advance.answer = .error e ∧ m.advance.state = { m with traffic := m.traffic.next.state } := by
  simp [advance, h, Call.andThen, Call.within, ht]

lemma advance_peeked (m : Merge) : m.advance.state.peeked = m.peeked := by
  cases ho : m.overtaken with
  | some t => rw [advance_of_overtaken ho, inTurn_peeked]
  | none =>
    rcases ht : m.traffic.next.answer with e | _ | t
    · rw [(advance_of_failure ho ht).2]
    · rw [(advance_of_end ho ht).2, exhaust]
    · rw [(advance_of_traffic ho ht).2, inTurn_peeked]

lemma advance_serves (hp : m.peeked = none) (hd : m.dnsHead ≠ .unknown) : m.Serves m.due.tail m.advance := by
  have hdue := due_of_no_peeked hp
  cases ho : m.overtaken with
  | some t =>
    have hahead : m.trafficAhead = t :: trafficAhead { m with overtaken := none } := by simp [trafficAhead, ho]
    obtain ⟨hanswer, hleaves⟩ := @inTurn_leaves { m with overtaken := none } rfl hp hd t
    rw [hdue, hahead, advance_of_overtaken ho]
    exact .given (by rw [hanswer, hdue, hahead]; rfl) ⟨hleaves.due, hleaves.fails⟩
  | none =>
    have hahead : m.trafficAhead = m.traffic.outlook.records := by simp [trafficAhead, ho]
    rcases ht : m.traffic.next.answer with e | _ | t
    · obtain ⟨hanswer, hstate⟩ := advance_of_failure ho ht
      have hsame := Source.outlook_of_next_error ht
      refine .failed e hanswer (.inl (Source.next_of_error ht)) ?_
      rw [hstate]
      constructor
      · simp [due, trafficAhead, dnsAhead, dnsBehindHead, hsame]
      · simp [Fails, hsame]
    · -- The DNS records that are left are given up with the traffic, as the interleaving leaves them out.
      obtain ⟨hanswer, hstate⟩ := advance_of_end ho ht
      have hempty : m.due = [] := by
        rw [hdue, hahead, Outlook.eq_of_answer_none (Source.next_of_ok ht).1, interleave_nil]
      rw [hempty]
      refine .given (by rw [hanswer, hempty]; rfl) ?_
      rw [hstate]
      constructor
      · simp [due, exhaust, trafficAhead, dnsAhead, ho, hp]
      · simp [Fails, exhaust]
    · obtain ⟨hanswer, hlater⟩ := Source.next_of_ok ht
      have hfront : m.trafficAhead = t :: trafficAhead { m with traffic := m.traffic.next.state } := by
        rw [hahead, Outlook.records_of_answer_some hanswer]
        simp [trafficAhead, ho, hlater]
      obtain ⟨hgiven, hstate⟩ := advance_of_traffic ho ht
      obtain ⟨hturn, hleaves⟩ := @inTurn_leaves { m with traffic := m.traffic.next.state } ho hp hd t
      refine .given ?_ ⟨?_, fun e he => ?_⟩
      · rw [hgiven, hturn, hdue, hfront]
        rfl
      · rw [hstate, hleaves.due, hdue, hfront]
        rfl
      · rw [hstate] at he
        simpa only [Fails, hlater] using hleaves.fails e he

@[simp] lemma next_peeked (m : Merge) : m.next.state.peeked = none := by
  rw [next]
  cases hp : m.peeked with
  | some r => rfl
  | none =>
    have hnone : m.lookAhead.state.peeked = none := (lookAhead_looks m).peeked.trans hp
    simp only [Call.andThen]
    cases m.lookAhead.answer with
    | error e => exact hnone
    | ok u => exact (advance_peeked m.lookAhead.state).trans hnone

lemma next_serves (m : Merge) : m.Serves m.due.tail m.next := by
  rw [next]
  cases hp : m.peeked with
  | some r => exact .given (by simp [Call.ok, due, hp]) ⟨by simp [Call.ok, due, hp]; rfl, fun _ => id⟩
  | none =>
    obtain ⟨hahead, hsame, hknown, hfails⟩ := lookAhead_looks m
    simp only [Call.andThen]
    cases hl : m.lookAhead.answer with
    | error e => exact .failed e rfl (hfails e hl) hahead
    | ok u =>
      have hadvance := advance_serves (hsame.trans hp) (hknown hl)
      rw [hahead.due] at hadvance
      cases hadvance with
      | given answer leaves => exact .given (by rw [answer, hahead.due]) (hahead.trans leaves)
      | failed e answer fails leaves =>
        rw [hahead.due] at leaves
        exact .failed e answer (hahead.fails e fails) (hahead.trans leaves)

lemma due_eq (m : Merge) : m.due = m.peeked.toList ++ due { m with peeked := none } := rfl

lemma peek_serves (m : Merge) : m.Serves m.due m.peek := by
  rw [peek]
  cases hp : m.peeked with
  | some r => exact .given (by simp [Call.ok, due, hp]) (leaves_self m)
  | none =>
    simp only [Call.andThen]
    cases next_serves m with
    | failed e answer fails leaves =>
      rw [answer]
      exact .failed e rfl fails leaves
    | given answer leaves =>
      rw [answer]
      refine .given rfl ⟨?_, leaves.fails⟩
      have hrest : due { m.next.state with peeked := none } = m.due.tail := by
        rw [← leaves.due, due_eq m.next.state, next_peeked, Option.toList_none, List.nil_append]
      rw [due_eq]
      simp only [Call.ok]
      rw [hrest]
      cases m.due <;> rfl

lemma ask_serves (a : Ask) (m : Merge) : m.Serves (Outlook.ask a ⟨m.due, none⟩).state.records (ask a m) := by
  cases a with
  | next => exact next_serves m
  | peek => exact peek_serves m

lemma due_of_next_ok {r : Option Record} (hn : m.next.answer = .ok r) :
    m.due.head? = r ∧ m.Leaves m.due.tail m.next.state := by
  cases next_serves m with
  | given answer leaves => exact ⟨Except.ok.inj (answer.symm.trans hn), leaves⟩
  | failed e answer fails leaves => simp [answer] at hn

lemma due_of_next_none (hn : m.next.answer = .ok none) : m.due = [] :=
  List.head?_eq_none_iff.mp (due_of_next_ok hn).1

lemma due_of_next_some {r : Record} (hn : m.next.answer = .ok (some r)) : m.due = r :: m.next.state.due := by
  obtain ⟨hhead, hleaves⟩ := due_of_next_ok hn
  obtain ⟨rest, hrest⟩ := List.head?_eq_some_iff.mp hhead
  rw [hleaves.due, hrest, List.tail_cons]

lemma drain_of_error {e : SourceError} (h : m.next.answer = .error e) :
    m.drain = ⟨[], some e, m.next.state, m.next.warnings⟩ := by
  rw [drain]
  split <;> simp_all

lemma drain_of_end (h : m.next.answer = .ok none) : m.drain = ⟨[], none, m.next.state, m.next.warnings⟩ := by
  rw [drain]
  split <;> simp_all

lemma drain_of_packet {r : Record} (h : m.next.answer = .ok (some r)) :
    m.drain = { m.next.state.drain with
      items := r :: m.next.state.drain.items
      warnings := m.next.warnings ++ m.next.state.drain.warnings } := by
  rw [drain]
  split <;> simp_all

lemma due_of_drain (m : Merge) : m.due = m.drain.items ++ m.drain.state.due := by
  fun_induction drain m with
  | case1 m c e he =>
    cases next_serves m with
    | given answer leaves => simp [c, answer] at he
    | failed e answer fails leaves => exact leaves.due.symm
  | case2 m c hn =>
    obtain ⟨-, hleaves⟩ := due_of_next_ok hn
    rw [due_of_next_none hn] at hleaves ⊢
    exact hleaves.due.symm
  | case3 m c r hr lighter rest ih =>
    rw [due_of_next_some hr, ih]
    rfl

lemma failure_of_drain (m : Merge) :
    (m.drain.failure = none → m.drain.state.due = []) ∧ ∀ e, m.drain.failure = some e → m.Fails e := by
  fun_induction drain m with
  | case1 m c e he =>
    refine ⟨by simp, ?_⟩
    rintro _ ⟨⟩
    cases next_serves m with
    | given answer leaves => simp [c, answer] at he
    | failed e' answer fails leaves =>
      obtain rfl := Except.error.inj (answer.symm.trans he)
      exact fails
  | case2 m c hn =>
    obtain ⟨-, hleaves⟩ := due_of_next_ok hn
    rw [due_of_next_none hn] at hleaves
    exact ⟨fun _ => hleaves.due, by simp⟩
  | case3 m c r hr lighter rest ih =>
    obtain ⟨-, hleaves⟩ := due_of_next_ok hr
    exact ⟨ih.1, fun e he => hleaves.fails e (ih.2 e he)⟩

lemma drain_of_clean (h : Clean m) : m.drain.items = m.due ∧ m.drain.failure = none := by
  obtain ⟨hend, hfails⟩ := failure_of_drain m
  have hnone : m.drain.failure = none :=
    Option.eq_none_iff_forall_ne_some.mpr fun e he => clean_iff.mp h e (hfails e he)
  refine ⟨?_, hnone⟩
  rw [due_of_drain m, hend hnone, List.append_nil]

lemma answers_of_clean (h : Clean m) (asks : List Ask) :
    answers ask asks m = answers Outlook.ask asks ⟨m.due, none⟩ := by
  apply answers_eq_of_simulation (fun n o => Clean n ∧ o = ⟨n.due, none⟩) ?_ asks ⟨h, rfl⟩
  rintro a n _ ⟨hn, rfl⟩
  obtain ⟨hanswer, hclean, hdue⟩ := (ask_serves a n).of_clean hn
  refine ⟨by rw [hanswer, Outlook.ask_answer, Outlook.answer_of_clean], hclean, ?_⟩
  rw [hdue]
  cases a <;> rfl

def dnsRecords (dns : Option Source) : List Record := dns.elim [] (·.drain.items)

variable {traffic : Source} {dns : Option Source}

lemma clean_ofSources (ht : traffic.drain.failure = none) (hd : ∀ s ∈ dns, s.drain.failure = none) :
    Clean (ofSources traffic dns) where
  traffic := by rw [← Source.drain_failure]; exact ht
  dns s hs := by rw [← Source.drain_failure]; exact hd s hs

lemma due_ofSources_outlook (traffic : Source) (dns : Option Source) :
    (ofSources traffic dns).due = interleave traffic.outlook.records (dns.elim [] (·.outlook.records)) := rfl

lemma mem_due_ofSources {r : Record} (h : r ∈ (ofSources traffic dns).due) :
    r ∈ traffic.outlook.records ∨ ∃ s ∈ dns, r ∈ s.outlook.records := by
  rw [due_ofSources_outlook] at h
  rcases mem_interleave h with hmem | hmem
  · exact .inl hmem
  · cases dns with
    | none => simp at hmem
    | some s => exact .inr ⟨s, rfl, hmem⟩

lemma due_ofSources (ht : traffic.drain.failure = none) (hd : ∀ s ∈ dns, s.drain.failure = none) :
    (ofSources traffic dns).due = interleave traffic.drain.items (dnsRecords dns) := by
  have hclean := clean_ofSources ht hd
  have htraffic : traffic.drain.items = traffic.outlook.records := Source.drain_items hclean.traffic
  rw [due_ofSources_outlook, htraffic]
  cases dns with
  | none => rfl
  | some s =>
    have hdns := Source.drain_items (hclean.dns s rfl)
    simp only [dnsRecords, Option.elim_some, hdns]

theorem answers_eq_interleave (ht : traffic.drain.failure = none) (hd : ∀ s ∈ dns, s.drain.failure = none)
    (asks : List Ask) :
    answers ask asks (ofSources traffic dns) =
      answers Outlook.ask asks ⟨interleave traffic.drain.items (dnsRecords dns), none⟩ := by
  rw [answers_of_clean (clean_ofSources ht hd), due_ofSources ht hd]

def ticks (seconds : List Nat) (byte : UInt8) : ByteStream :=
  .ofBytes (fileHeader 65535 .raw ++ seconds.flatMap fun s => recordHeader s 0 1 1 ++ [byte])

def tick (seconds : Nat) (h : seconds < 100) (byte : UInt8) : Record :=
  ⟨⟨seconds * 1_000_000_000, by omega⟩, .raw, 1, [byte]⟩

theorem answers_unsorted_ticks :
    ∃ traffic dns, Source.ofStream (ticks [5, 2, 4] 1) none = .ok traffic ∧
      Source.ofStream (ticks [5, 1, 9, 3] 2) none = .ok dns ∧
      traffic.drain.failure = none ∧ (∀ s ∈ some dns, s.drain.failure = none) ∧
      answers ask [.peek, .next, .next, .peek, .next, .next, .next, .peek, .next] (ofSources traffic (some dns)) =
        [.ok (some (tick 5 (by decide) 2)), .ok (some (tick 5 (by decide) 2)), .ok (some (tick 1 (by decide) 2)),
          .ok (some (tick 5 (by decide) 1)), .ok (some (tick 5 (by decide) 1)), .ok (some (tick 2 (by decide) 1)),
          .ok (some (tick 4 (by decide) 1)), .ok none, .ok none] := by
  refine ⟨_, _, rfl, rfl, by decide +kernel, by decide +kernel, ?_⟩
  rw [answers_eq_interleave (by decide +kernel) (by decide +kernel)]
  decide +kernel

end Merge

end CaptureSieve
