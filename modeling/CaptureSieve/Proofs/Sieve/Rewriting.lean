import CaptureSieve.Proofs.Capture.RoundTrip
import CaptureSieve.Proofs.Packet.Framing
import CaptureSieve.Proofs.Sieve.Alone

/-!
Rewriting what a run has written. Each record of the output is the datagram of an accepted packet, and is accepted again
as it stands.
-/

namespace CaptureSieve

lemma Instant.micros_of_nanos {t : Instant} {n : Nat} (h : t.nanos = n * 1000) : t.micros = n := by
  rw [micros, h]
  omega

namespace Entry

def reread (e : Entry) : Entry := ⟨(e.record .raw).time, e.wireLength, e.data⟩

lemma micros_reread {e : Entry} (h : e.Fits) : e.reread.time.micros = e.time.micros :=
  Instant.micros_of_nanos (nanos_record h .raw)

lemma bytes_reread {e : Entry} (h : e.Fits) : e.reread.bytes = e.bytes := by
  simp only [bytes, micros_reread h]
  rfl

end Entry

namespace Sieve

variable {settings : Settings} {r : Record} {e : Entry}

lemma sameDatagram_of_output (h : output? settings r = some e) : (e.record .raw).SameDatagram r := by
  obtain ⟨-, hdata, -⟩ := output?_eq_some_iff.mp h
  cases hl : r.layer .ipv4 with
  | error error => simp [Record.datagram, Record.layerBytes, hl, Except.map] at hdata
  | ok l =>
    obtain ⟨ip, hd⟩ := Record.datagram_of_layer hl
    obtain ⟨-, hbytes⟩ := Record.ipv4_of_layer hl hd
    have htake : e.data = (r.data.drop l.start).take ip.totalLength := Except.ok.inj (hdata.symm.trans hbytes)
    have hagree : Layers.Agree (r.data.drop l.start) e.data := htake ▸ Layers.agree_take hd.header hd.size_le
    have hversion : byteAt e.data 0 / 16 = 4 := (Ipv4Header.ofBytes?_eq_some (hagree.1 ▸ hd.header)).1
    have hbare : (e.record .raw).Encloses e.data := ⟨_, Layers.rawIp_of_version hversion, Layers.leadTo_ipv4 rfl⟩
    exact (Record.sameDatagram_of_encloses (Record.encloses_of_layer hl) hbare hagree).symm

lemma output?_reread (h : output? settings r = some e) : output? settings (e.record .raw) = some e.reread := by
  have hsame := sameDatagram_of_output h
  obtain ⟨haccept, hdata, -, -, hlength, htime⟩ := output?_eq_some_iff.mp h
  refine output?_eq_some_iff.mpr ⟨?_, ?_, rfl, rfl, hlength, ?_⟩
  · rw [hsame.classify]
    exact haccept
  · rw [hsame.datagram]
    exact hdata
  · rw [Entry.micros_reread (fits_of_output h)]
    exact htime

variable {records : List Record}

def kept (settings : Settings) (records : List Record) : List Entry := records.filterMap (output? settings)

lemma outputBytes_eq (settings : Settings) (records : List Record) :
    outputBytes settings records = (kept settings records).flatMap Entry.bytes := rfl

lemma output_of_kept (h : e ∈ kept settings records) : ∃ r ∈ records, output? settings r = some e :=
  List.mem_filterMap.mp h

lemma kept_of_none (h : output? settings r = none) (rest : List Record) :
    kept settings (r :: rest) = kept settings rest := by
  rw [kept, List.filterMap_cons, h]
  rfl

lemma kept_of_some (h : output? settings r = some e) (rest : List Record) :
    kept settings (r :: rest) = e :: kept settings rest := by
  rw [kept, List.filterMap_cons, h]
  rfl

def reread (settings : Settings) (records : List Record) : List Record :=
  (kept settings records).map (Entry.record .raw)

lemma outputBytes_reread (settings : Settings) (records : List Record) :
    outputBytes settings (reread settings records) = outputBytes settings records := by
  induction records with
  | nil => rfl
  | cons r rest ih =>
    rw [reread] at ih ⊢
    cases hr : output? settings r with
    | none =>
      rw [kept_of_none hr, ih, outputBytes_cons, hr]
      rfl
    | some e =>
      rw [kept_of_some hr, List.map_cons, outputBytes_cons, outputBytes_cons, ih, output?_reread hr, hr]
      simp only [Option.elim_some, Entry.bytes_reread (fits_of_output hr)]

structure SameAccepted (t u : Tally) : Prop where
  accepted : t.accepted = u.accepted
  unverified : t.unverified = u.unverified
  dnsPackets : t.dnsPackets = u.dnsPackets
  flows : t.flows = u.flows

variable {t u : Tally}

lemma sameAccepted_drop (h : SameAccepted t u) (reason : DropReason) : SameAccepted t (u.drop reason) :=
  ⟨h.accepted, h.unverified, h.dnsPackets, h.flows⟩

lemma sameAccepted_accept (h : SameAccepted t u) {s : Record} (hs : s.SameDatagram r) (unverified : Bool) :
    SameAccepted (t.accept s unverified) (u.accept r unverified) where
  accepted := by simp only [Tally.accept, h.accepted]
  unverified := by simp only [Tally.accept, h.unverified]
  dnsPackets := by simp only [Tally.accept, h.dnsPackets, hs.isDns]
  flows := by simp only [Tally.accept, h.flows, hs.flowKey]

lemma tally_reread (settings : Settings) (records : List Record) (h : SameAccepted t u) :
    SameAccepted ((reread settings records).foldl (count settings) t) (records.foldl (count settings) u) ∧
    ((reread settings records).foldl (count settings) t).dropped = t.dropped := by
  induction records generalizing t u with
  | nil => exact ⟨h, rfl⟩
  | cons r rest ih =>
    rw [reread]
    cases hr : output? settings r with
    | none =>
      rw [kept_of_none hr, List.foldl_cons, count_of_none hr]
      exact ih (sameAccepted_drop h _)
    | some e =>
      obtain ⟨⟨unverified, haccept⟩, -⟩ := output?_eq_some_iff.mp hr
      have hsame := sameDatagram_of_output hr
      have haccept' : (e.record .raw).classify settings.verifyTransport = .accept unverified := by
        rw [hsame.classify, haccept]
      rw [kept_of_some hr, List.map_cons, List.foldl_cons, List.foldl_cons, count_of_output hr haccept,
        count_of_output (output?_reread hr) haccept']
      exact ih (sameAccepted_accept h hsame unverified)

lemma admits_reread {filter : Option Filter} (h : ∀ r ∈ records, Source.admits filter r) :
    ∀ s ∈ reread settings records, Source.admits filter s := by
  intro s hs
  obtain ⟨e, he, rfl⟩ := List.mem_map.mp hs
  obtain ⟨r, hr, hout⟩ := output_of_kept he
  have hadmits := h r hr
  cases filter with
  | none => rfl
  | some f =>
    simp only [Source.admits] at hadmits ⊢
    rw [(sameDatagram_of_output hout).admits f]
    exact hadmits

end Sieve

namespace Source

variable {stream : ByteStream} {filter : Option Filter} {s : Source}

lemma admits_of_ofStream (h : ofStream stream filter = .ok s) : ∀ r ∈ s.outlook.records, admits filter r := by
  obtain ⟨reader, -, rfl⟩ := opened_of_ofStream h
  intro r hr
  have hmem : r ∈ (reader.outlook filter).records := hr
  rw [Reader.outlook_eq_filter] at hmem
  exact (List.mem_filter.mp hmem).2

lemma ofStream_written_filtered {snapLength : UInt32} {link : LinkType} {entries : List Entry} {readSize : Nat → Nat}
    (hfits : ∀ e ∈ entries, e.Fits) (filter : Option Filter) :
    ∃ s, ofStream ⟨fileHeader snapLength link ++ entries.flatMap Entry.bytes, .closed, readSize⟩ filter = .ok s ∧
      ((∀ e ∈ entries, e.size < bufferSize) →
        s.outlook = ⟨(entries.map (Entry.record link)).filter (admits filter), none⟩) ∧
      ((∀ o, readSize o ≤ 1) → s.outlook.failure = none → ∀ e ∈ entries, e.size < bufferSize) := by
  obtain ⟨intake, hopen, hholds, hreads, -⟩ := Reader.ofStream_written snapLength link entries readSize
  have houtlook : outlook ⟨some (.pcap (.written link) intake), filter, []⟩ =
      (Reader.pcap (.written link) intake).outlook filter := rfl
  refine ⟨⟨some (.pcap (.written link) intake), filter, []⟩, ?_, fun hsmall => ?_, fun hslow hnone => ?_⟩
  · simp only [ofStream, hopen, Except.map]
  · rw [houtlook, Reader.outlook_eq_filter, Reader.outlook_of_small hholds hfits hsmall]
  · rw [houtlook, Reader.outlook_eq_filter] at hnone
    rw [← hreads] at hslow
    exact (Reader.outlook_of_failure_none hholds hfits hnone).2 hslow

end Source

namespace Sieve

structure Repeats (first second : Outcome) : Prop where
  result : second.result = .ok ()
  output : second.sink.accepted = first.sink.accepted
  accepted : second.tally.accepted = first.tally.accepted
  unverified : second.tally.unverified = first.tally.unverified
  dnsPackets : second.tally.dnsPackets = first.tally.dnsPackets
  flows : second.tally.flowCount = first.tally.flowCount
  dropped : second.tally.dropped = 0

section Rewriting

variable {settings : Settings} {i : Input} {filter : Option Filter} {traffic again : Source} {sink : Sink}

lemma repeats_of_reread (hsink : sink.accepted = []) (ht : ∀ r ∈ traffic.outlook.records, r.time.Rounds)
    (hok : (run settings .empty (.ofSources traffic none) sink).result = .ok ())
    (ha : ∀ r ∈ again.outlook.records, r.time.Rounds)
    (hagain : again.outlook = ⟨reread settings traffic.outlook.records, none⟩) :
    Repeats (run settings .empty (.ofSources traffic none) sink)
      (run settings .empty (.ofSources again none) .unbounded) := by
  obtain ⟨houtput, htally⟩ := run_of_alone ht hok
  have hok' : (run settings .empty (.ofSources again none) .unbounded).result = .ok () := by
    rw [result_of_alone ha rfl, hagain]
  obtain ⟨houtput', htally'⟩ := run_of_alone ha hok'
  rw [hagain] at houtput' htally'
  obtain ⟨hsame, hdropped⟩ := tally_reread settings traffic.outlook.records
    (⟨rfl, rfl, rfl, rfl⟩ : SameAccepted Tally.empty Tally.empty)
  rw [← htally, ← htally'] at hsame
  refine ⟨hok', ?_, hsame.accepted, hsame.unverified, hsame.dnsPackets, congrArg List.length hsame.flows, ?_⟩
  · rw [houtput, houtput', outputBytes_reread, hsink]
    rfl
  · rw [htally', hdropped]
    rfl

lemma exists_again (ht : Source.ofStream i.traffic filter = .ok traffic) (hf : compiled i.filter = .ok filter)
    {out : List UInt8} (hout : out = fileHeader settings.snapLength .raw ++ outputBytes settings traffic.outlook.records)
    (readSize : Nat → Nat) :
    ∃ again, (∀ r ∈ again.outlook.records, r.time.Rounds) ∧
      distill settings ⟨⟨out, .closed, readSize⟩, i.filter, none⟩ .unbounded =
        run settings .empty (.ofSources again none) .unbounded ∧
      ((∀ e ∈ kept settings traffic.outlook.records, e.size < bufferSize) →
        again.outlook = ⟨reread settings traffic.outlook.records, none⟩) ∧
      ((∀ o, readSize o ≤ 1) → again.outlook.failure = none →
        ∀ e ∈ kept settings traffic.outlook.records, e.size < bufferSize) := by
  have hfits : ∀ e ∈ kept settings traffic.outlook.records, e.Fits := by
    intro e he
    obtain ⟨r, -, hr⟩ := output_of_kept he
    exact fits_of_output hr
  obtain ⟨again, hopen, hsmall, hslow⟩ := Source.ofStream_written_filtered hfits filter
  rw [← outputBytes_eq, ← hout] at hopen
  refine ⟨again, Source.rounds_of_ofStream hopen, ?_, fun h => ?_, hslow⟩
  · have hmerge := @merge_of_alone ⟨⟨out, .closed, readSize⟩, i.filter, none⟩ rfl filter hf again hopen
    simp only [distill, hmerge]
  · rw [hsmall h, ← reread, List.filter_eq_self.mpr (admits_reread (Source.admits_of_ofStream ht))]

theorem rewriting_repeats_iff {m : Merge} (hlink : settings.link = .raw) (hdns : i.dns = none)
    (hsink : sink.accepted = []) (hm : i.merge = .ok m) (hok : (distill settings i sink).result = .ok ()) :
    (∀ readSize, Repeats (distill settings i sink)
      (distill settings ⟨⟨(distill settings i sink).sink.accepted, .closed, readSize⟩, i.filter, none⟩ .unbounded)) ↔
    ∀ e ∈ kept settings m.due, e.data.length < 65520 := by
  obtain ⟨filter, traffic, hf, ht, rfl⟩ := alone_of_merge hdns hm
  have hrounds := Source.rounds_of_ofStream ht
  have hfirst : distill settings i sink = run settings .empty (.ofSources traffic none) sink := by
    simp only [distill, hm]
  rw [hfirst] at hok ⊢
  rw [due_of_alone]
  have houtput := (run_of_alone hrounds hok).1
  rw [hsink, List.nil_append, hlink] at houtput
  constructor
  -- Reads of one byte are the ones that leave the least room.
  · intro hall e he
    obtain ⟨again, -, hrun, -, hslow⟩ := exists_again ht hf houtput fun _ => 1
    have hresult := (hall fun _ => 1).result
    rw [hrun] at hresult
    exact e.size_lt_iff.mp (hslow (fun _ => Nat.le_refl 1) (failure_of_run hresult) e he)
  · intro hsmall readSize
    obtain ⟨again, hagain, hrun, houtlook, -⟩ := exists_again ht hf houtput readSize
    rw [hrun]
    exact repeats_of_reread hsink hrounds hok hagain (houtlook fun e he => e.size_lt_iff.mpr (hsmall e he))

end Rewriting

theorem rewriting_repeats_query :
    ∃ m, Input.merge { mixed with dns := none } = .ok m ∧
      (distill .standard { mixed with dns := none } .unbounded).result = .ok () ∧
      (∀ e ∈ kept .standard m.due, e.data.length < 65520) ∧
      ∀ readSize, Repeats (distill .standard { mixed with dns := none } .unbounded)
        (distill .standard ⟨⟨(distill .standard { mixed with dns := none } .unbounded).sink.accepted, .closed, readSize⟩,
          mixed.filter, none⟩ .unbounded) := by
  have hclean : (Input.merge { mixed with dns := none }).toOption.any (fun m =>
      m.traffic.drain.failure = none ∧ (∀ s ∈ m.dns, s.drain.failure = none) ∧
        (∀ e ∈ kept .standard m.due, e.data.length < 65520)) = true := by decide +kernel
  cases hm : Input.merge { mixed with dns := none } with
  | error e => simp [hm, Except.toOption] at hclean
  | ok m =>
    rw [hm] at hclean
    obtain ⟨ht, hd, hsmall⟩ := of_decide_eq_true hclean
    have hok := (@distill_output .standard { mixed with dns := none } m .unbounded rfl hm ht hd).1
    exact ⟨m, rfl, hok, hsmall, (rewriting_repeats_iff rfl rfl rfl hm hok).mpr hsmall⟩

lemma output?_of_bare {settings : Settings} {r : Record} {h : Ipv4Header} (hlink : r.link = .raw)
    (hheader : Ipv4Header.ofBytes? r.data = some h) (hsize : h.size ≤ h.totalLength)
    (hp : Layers.IsTransport h.protocol) (hc : Checksum.internet [h.bytes] = 0)
    (hv : settings.verifyTransport = false) (hfits : (r.data.take h.totalLength).length ≤ settings.snapLength.toNat ∧
      r.time.micros < 0x1_0000_0000 * 1_000_000) :
    output? settings r = some ⟨r.time, r.wireLength, r.data.take h.totalLength⟩ := by
  have hversion := (Ipv4Header.ofBytes?_eq_some hheader).1
  obtain ⟨l, hl, hstart⟩ : ∃ l, r.layer .ipv4 = .ok l ∧ l.start = 0 := by
    have hlayers : r.layers = .ok (Layers.ipv4 0 r.data) := by
      rw [Record.layers, hlink]
      exact Layers.rawIp_of_version hversion
    have hipv4 : ∃ l rest, Layers.ipv4 0 r.data = l :: rest ∧ l.kind = .ipv4 ∧ l.start = 0 := by
      simp only [Layers.ipv4, hheader, if_neg (Nat.not_lt.mpr hsize)]
      exact ⟨_, _, rfl, rfl, rfl⟩
    obtain ⟨l, rest, hcons, hkind, hstart⟩ := hipv4
    refine ⟨l, ?_, hstart⟩
    rw [Record.layer, hlayers, hcons]
    simp [Except.bind, Layers.find, hkind]
  obtain ⟨g, hd⟩ := Record.datagram_of_layer hl
  obtain ⟨hipv4, -⟩ := Record.ipv4_of_layer hl hd
  have hrest : r.data.drop l.start = r.data := by rw [hstart, List.drop_zero]
  obtain rfl : h = g := Option.some.inj (hheader.symm.trans (hrest ▸ hd.header))
  have hsound : r.checksumOk settings.verifyTransport := by
    simp [Record.checksumOk, Record.verify, hipv4, hc, hv, Except.isOk, Except.toBool]
  rw [output?_of_layer hl hd, hrest]
  exact if_pos ⟨hp, hsound, hfits⟩

def fullHeader : List UInt8 := [0x45, 0, 0xff, 0xf0, 0, 0, 0, 0, 64, 17, 0x66, 0xfa, 10, 0, 0, 1, 10, 0, 0, 2]

def fullDatagram : Entry := ⟨.epoch, 65520, fullHeader ++ List.replicate 65500 0⟩

def unverifying : Settings := ⟨65535, .raw, false⟩

lemma length_fullDatagram : fullDatagram.data.length = 65520 := by
  rw [fullDatagram, List.length_append, List.length_replicate]
  rfl

lemma output?_fullDatagram : output? unverifying (fullDatagram.record .raw) = some fullDatagram := by
  have hheader : Ipv4Header.ofBytes? fullDatagram.data = some ⟨fullHeader⟩ := Layers.ofBytes?_append (by decide) _
  have htake : fullDatagram.data.take (Ipv4Header.totalLength ⟨fullHeader⟩) = fullDatagram.data :=
    List.take_of_length_le (by rw [length_fullDatagram]; decide)
  have hout := @output?_of_bare unverifying (fullDatagram.record .raw) ⟨fullHeader⟩ rfl hheader (by decide) (by decide)
    (by decide) rfl
  have hrecord : fullDatagram.record .raw = ⟨.epoch, .raw, 65520, fullDatagram.data⟩ := Entry.record_epoch ..
  rw [hrecord] at hout ⊢
  rw [htake, length_fullDatagram] at hout
  exact hout ⟨by decide, Entry.micros_epoch⟩

lemma output?_spacer (settings : Settings) : output? settings (spacer.record .raw) = none := by
  have hlayer : (spacer.record .raw).layer .ipv4 = .error (.malformed (.rawVersion 0)) := rfl
  rw [output?, hlayer]

def inBuffers (bytes : List UInt8) : ByteStream := ⟨bytes, .closed, fun _ => bufferSize⟩

def spaced : ByteStream := inBuffers (fileHeader 65535 .raw ++ [spacer, fullDatagram].flatMap Entry.bytes)

theorem fullDatagram_not_repeated :
    (distill unverifying ⟨spaced, none, none⟩ .unbounded).result = .ok () ∧
    (distill unverifying
      ⟨inBuffers (distill unverifying ⟨spaced, none, none⟩ .unbounded).sink.accepted, none, none⟩ .unbounded).result =
        .error (.source (.capture .pcap .next .bufferFull)) := by
  have hfull : fullDatagram.size = bufferSize := by rw [Entry.size, length_fullDatagram]; rfl
  have hfits : fullDatagram.Fits := .of_epoch rfl (Nat.le_of_eq length_fullDatagram)
  obtain ⟨s, hs, houtlook⟩ := @Source.ofStream_written_at_once 65535 .raw (fun _ => bufferSize) spacer fullDatagram
    fits_spacer hfits size_spacer hfull fun _ => Nat.le_refl _
  have hok : (distill unverifying ⟨spaced, none, none⟩ .unbounded).result = .ok () := by
    rw [spaced, inBuffers, result_of_unfiltered hs, houtlook]
  refine ⟨hok, ?_⟩
  have hrun : distill unverifying ⟨spaced, none, none⟩ .unbounded =
      run unverifying .empty (.ofSources s none) .unbounded := by
    rw [spaced, inBuffers, distill_of_unfiltered hs]
  rw [hrun] at hok ⊢
  have haccepted : (run unverifying .empty (.ofSources s none) .unbounded).sink.accepted =
      fileHeader 65535 .raw ++ fullDatagram.bytes := by
    rw [(run_of_alone (Source.rounds_of_ofStream hs) hok).1, houtlook, outputBytes_cons, outputBytes_cons,
      output?_spacer, output?_fullDatagram]
    simp [Sink.unbounded, outputBytes, unverifying]
  obtain ⟨t, ht, houtlook'⟩ := @Source.ofStream_written_large 65535 .raw (fun _ => bufferSize) fullDatagram hfits
    (Nat.le_of_eq hfull.symm)
  rw [haccepted, inBuffers, result_of_unfiltered ht, houtlook']
  rfl

end Sieve

end CaptureSieve
