import CaptureSieve.Proofs.Capture.Resumption
import CaptureSieve.Proofs.Filter.Views
import CaptureSieve.Proofs.Sieve.Accounts

/-!
The filter of DNS captures lets through just the packets that are counted as DNS, so all that comes from that side of a
merge is DNS, and counted once it is accepted.
-/

namespace CaptureSieve

namespace Filter

def onlyDns : Filter := ⟨dnsText.toList, .and (.primitive (.protocol .udp)) (.primitive (.port .either none Dns.port))⟩

lemma ofText_dnsText : ofText dnsText = .ok onlyDns := by
  have hparsed : (ofText dnsText).toOption.any
      (fun f => f.expression = onlyDns.expression ∧ f.expr = onlyDns.expr) = true := by
    decide +kernel
  cases h : ofText dnsText with
  | error e => simp [h, Except.toOption] at hparsed
  | ok f =>
    obtain ⟨expression, expr⟩ := f
    obtain ⟨rfl, rfl⟩ : expression = onlyDns.expression ∧ expr = onlyDns.expr := by
      simpa [h, Except.toOption] using hparsed
    rfl

structure Agrees (f : Filter) (v : View) : Prop where
  alone : (f.check v).1 = (View.isDns v).1
  after : (f.check (View.isDns v).2).1 = (View.isDns v).1
  before : (View.isDns (f.check v).2).1 = (f.check v).1

lemma port_of_udp {r : Record} (h : r.isUdp = true) (ofTcp : TcpHeader → UInt16) (ofUdp : UdpHeader → UInt16) :
    r.port ofTcp ofUdp = r.udp.map ofUdp := by
  have hprotocol : r.protocol = .ok Layers.udpProtocol := by
    rw [Record.isUdp, Record.isProtocol] at h
    cases hp : r.protocol with
    | error e => simp [hp, Except.map, Except.toOption] at h
    | ok protocol =>
      have hudp : protocol = Layers.udpProtocol := by simpa [hp, Except.map, Except.toOption] using h
      rw [hudp]
  rw [Record.port, hprotocol]
  rfl

lemma admits_onlyDns (r : Record) : onlyDns.admits r = r.isDns := by
  have hadmits : onlyDns.admits r = (r.isUdp && portHolds .either none (· == Dns.port) r) := rfl
  rw [hadmits, Record.isDns]
  cases hudp : r.isUdp with
  | false => rfl
  | true =>
    rw [portHolds, Record.sourcePort, Record.destinationPort, port_of_udp hudp, port_of_udp hudp]
    cases r.udp <;> rfl

lemma agrees_onlyDns {r : Record} {v : View} (hv : v.Keeps r) : onlyDns.Agrees v := by
  have hfilter := reads_filter r onlyDns
  rw [admits_onlyDns] at hfilter
  have hdns := View.reads_isDns r
  obtain ⟨hchecked, hafter⟩ := hfilter v hv
  obtain ⟨hanswer, hbefore⟩ := hdns v hv
  constructor
  · rw [hchecked, hanswer]
  · rw [(hfilter _ hbefore).1, hanswer]
  · rw [(hdns _ hafter).1, hchecked]

end Filter

namespace Merge

lemma outlook_of_dnsSource {stream : ByteStream} {dns : Source} (h : dnsSource stream = .ok dns) :
    ∃ whole, Source.ofStream stream none = .ok whole ∧
      dns.outlook = ⟨whole.outlook.records.filter (·.isDns), whole.outlook.failure⟩ := by
  rw [dnsSource, Filter.ofText_dnsText] at h
  obtain ⟨reader, hreader, rfl⟩ := Source.opened_of_ofStream h
  refine ⟨⟨some reader, none, []⟩, by rw [Source.ofStream, hreader]; rfl, ?_⟩
  have hadmits : Source.admits (some Filter.onlyDns) = Record.isDns := funext Filter.admits_onlyDns
  have hfiltered := Reader.outlook_eq_filter (some Filter.onlyDns) reader
  rw [hadmits] at hfiltered
  exact hfiltered

structure Labels (traffic dns : Source) (records : List Record) (l : List Labelled) : Prop where
  records : l.map Prod.snd = records
  initial : l <+: labelled traffic.outlook.records dns.outlook.records
  ofTraffic : ofOrigin .traffic l <+: traffic.outlook.records
  ofDns : ofOrigin .dns l <+: dns.outlook.records

lemma ofOrigin_dns_initial (ts ds : List Record) : ofOrigin .dns (labelled ts ds) <+: ds := by
  fun_induction labelled ts ds with
  | case1 ds => exact List.nil_prefix
  | case2 t ts ih => simpa using ih
  | case3 t ts d ds hle ih => simpa using ih
  | case4 t ts d ds hle ih => simpa using ih

lemma ofOrigin_initial {l m : List Labelled} (h : l <+: m) (o : Origin) : ofOrigin o l <+: ofOrigin o m :=
  (h.filter _).map _

lemma exists_labels {traffic dns : Source} {records : List Record}
    (h : records <+: interleave traffic.outlook.records dns.outlook.records) :
    ∃ l, Labels traffic dns records l := by
  set all := labelled traffic.outlook.records dns.outlook.records with hall
  have hinitial : all.take records.length <+: all := List.take_prefix _ _
  refine ⟨all.take records.length, ?_, hinitial, ?_, ?_⟩
  · rw [List.map_take, map_labelled]
    exact (List.prefix_iff_eq_take.mp h).symm
  · have htraffic := ofOrigin_initial hinitial .traffic
    rwa [hall, traffic_labelled] at htraffic
  · exact (ofOrigin_initial hinitial .dns).trans (ofOrigin_dns_initial _ _)

lemma Labels.forall_dns {traffic dns : Source} {records : List Record} {l : List Labelled}
    (h : Labels traffic dns records l) {P : Record → Prop} (hds : ∀ d ∈ dns.outlook.records, P d) :
    ∀ r, (.dns, r) ∈ l → P r := by
  intro r hr
  apply hds
  apply h.ofDns.subset
  exact List.mem_map.mpr ⟨_, List.mem_filter.mpr ⟨hr, rfl⟩, rfl⟩

lemma taken_initial (traffic dns : Source) (asks : List Ask) :
    taken (succeeded (calls asks (ofSources traffic (some dns)))) <+:
      interleave traffic.outlook.records dns.outlook.records :=
  Outlook.taken_prefix (succeeded_eq_answers asks (ofSources traffic (some dns)))

end Merge

namespace Sieve

variable {settings : Settings}

def acceptedFrom (settings : Settings) (o : Origin) : List Labelled → List Passage → List Record
  | (label, _) :: l, p :: ps =>
    if label = o ∧ p.written settings then p.record :: acceptedFrom settings o l ps else acceptedFrom settings o l ps
  | _, _ => []

lemma written_cons (settings : Settings) (p : Passage) (ps : List Passage) :
    written settings (p :: ps) = if p.written settings then p.record :: written settings ps else written settings ps := by
  rw [written, List.filter_cons]
  split <;> rfl

lemma countP_written {l : List Labelled} {ps : List Passage} (h : l.map Prod.snd = ps.map (·.record))
    {q : Record → Bool} (hdns : ∀ r, (.dns, r) ∈ l → q r = true) :
    (written settings ps).countP q =
      (acceptedFrom settings .dns l ps).length + (acceptedFrom settings .traffic l ps).countP q := by
  induction l generalizing ps with
  | nil =>
    obtain rfl := List.map_eq_nil_iff.mp h.symm
    rfl
  | cons x l ih =>
    obtain ⟨label, r⟩ := x
    cases ps with
    | nil => simp at h
    | cons p ps =>
      obtain ⟨hrecord, hrest⟩ := List.cons.inj h
      have hlater := ih hrest fun s hs => hdns s (List.mem_cons_of_mem _ hs)
      rw [written_cons]
      cases hp : p.written settings with
      | false => simpa [acceptedFrom, hp] using hlater
      | true =>
        cases label with
        | dns =>
          obtain rfl : r = p.record := hrecord
          have hq : q p.record = true := hdns p.record (List.mem_cons_self ..)
          simp [acceptedFrom, hp, hq, hlater, Nat.add_right_comm]
        | traffic => simp [acceptedFrom, hp, List.countP_cons, hlater, Nat.add_assoc]

lemma dnsPackets_of_jobs (settings : Settings) (jobs : List Job) :
    (tallied settings jobs).dnsPackets = (written settings (jobs.flatMap (Job.passages settings))).countP (·.isDns) :=
  (kept_of_jobs jobs kept_empty).dnsPackets

lemma dnsPackets_concat (settings : Settings) (jobs : List Job) (job : Job) :
    (tallied settings (jobs ++ [job])).dnsPackets =
      (tallied settings jobs).dnsPackets + (written settings (job.passages settings)).countP (·.isDns) := by
  rw [dnsPackets_of_jobs, dnsPackets_of_jobs, List.flatMap_append, written_append, List.countP_append,
    List.flatMap_singleton]

lemma passages_initial (settings : Settings) (job : Job) :
    (job.passages settings).map (·.record) <+: job.merge.due := by
  rw [Merge.due_of_drain]
  exact (drain_follows settings job.merge (.start settings .empty job.sink)).initial.trans (List.prefix_append _ _)

def Job.withDns (traffic dns : Source) (sink : Sink) : Job := ⟨.ofSources traffic (some dns), sink⟩

structure Counts (settings : Settings) (jobs : List Job) (traffic dns : Source) (sink : Sink) (l : List Labelled) :
    Prop where
  labels : Merge.Labels traffic dns (((Job.withDns traffic dns sink).passages settings).map (·.record)) l
  isDns : ∀ r, (.dns, r) ∈ l → r.isDns = true
  dnsPackets : (tallied settings (jobs ++ [.withDns traffic dns sink])).dnsPackets =
    (tallied settings jobs).dnsPackets +
      (acceptedFrom settings .dns l ((Job.withDns traffic dns sink).passages settings)).length +
      (acceptedFrom settings .traffic l ((Job.withDns traffic dns sink).passages settings)).countP (·.isDns)

lemma exists_counts {dns : Source} (hdns : ∀ d ∈ dns.outlook.records, d.isDns = true) (settings : Settings)
    (jobs : List Job) (traffic : Source) (sink : Sink) : ∃ l, Counts settings jobs traffic dns sink l := by
  obtain ⟨l, hl⟩ := Merge.exists_labels (passages_initial settings (.withDns traffic dns sink))
  refine ⟨l, hl, hl.forall_dns hdns, ?_⟩
  rw [dnsPackets_concat, countP_written hl.records (hl.forall_dns hdns), Nat.add_assoc]

theorem dnsFilter_agrees :
    (∃ f, Filter.ofText Filter.dnsText = .ok f ∧
      ∀ r, f.admits r = r.isDns ∧ ∀ v : View, v.Keeps r → (View.isDns v).1 = r.isDns ∧ f.Agrees v) ∧
    ∀ {stream : ByteStream} {dns : Source}, Merge.dnsSource stream = .ok dns →
      (∃ whole, Source.ofStream stream none = .ok whole ∧
        dns.outlook = ⟨whole.outlook.records.filter (·.isDns), whole.outlook.failure⟩) ∧
      ∀ traffic : Source,
        (∀ asks, ∃ l, Merge.Labels traffic dns
          (taken (succeeded (Merge.calls asks (.ofSources traffic (some dns))))) l ∧
          ∀ r, (.dns, r) ∈ l → r.isDns = true) ∧
        ∀ settings jobs sink, ∃ l, Counts settings jobs traffic dns sink l := by
  constructor
  · refine ⟨Filter.onlyDns, Filter.ofText_dnsText, fun r => ⟨Filter.admits_onlyDns r, fun v hv => ?_⟩⟩
    exact ⟨(View.reads_isDns r v hv).1, Filter.agrees_onlyDns hv⟩
  · intro stream dns h
    obtain ⟨whole, hwhole, houtlook⟩ := Merge.outlook_of_dnsSource h
    have hdns : ∀ d ∈ dns.outlook.records, d.isDns = true := by
      intro d hd
      rw [houtlook] at hd
      exact (List.mem_filter.mp hd).2
    refine ⟨⟨whole, hwhole, houtlook⟩, fun traffic => ⟨fun asks => ?_, fun settings jobs sink => ?_⟩⟩
    · obtain ⟨l, hl⟩ := Merge.exists_labels (Merge.taken_initial traffic dns asks)
      exact ⟨l, hl, hl.forall_dns hdns⟩
    · exact exists_counts hdns settings jobs traffic sink

-- Besides a query and a reply, a packet to the same port that is ICMP, and a query without its ports.
def mostlyDns : ByteStream :=
  .ofBytes (fileHeader 65535 .raw ++ [query, query.set 9 1, reply, query.take 20].flatMap (recordBytes 5))

theorem dnsFilter_agrees_mostlyDns :
    ∃ dns, Merge.dnsSource mostlyDns = .ok dns ∧ dns.outlook.records.length = 2 ∧
      ∃ whole, Source.ofStream mostlyDns none = .ok whole ∧
        dns.outlook = ⟨whole.outlook.records.filter (·.isDns), whole.outlook.failure⟩ := by
  have hchecked : (Merge.dnsSource mostlyDns).toOption.any (·.outlook.records.length = 2) = true := by decide +kernel
  cases h : Merge.dnsSource mostlyDns with
  | error e => simp [h, Except.toOption] at hchecked
  | ok dns =>
    have hlength : dns.outlook.records.length = 2 := by simpa [h, Except.toOption] using hchecked
    exact ⟨dns, rfl, hlength, (dnsFilter_agrees.2 h).1⟩

end Sieve

end CaptureSieve
