import CaptureSieve.Proofs.Packet.Integrity
import CaptureSieve.Proofs.Sieve.Totals

/-!
One input sieved twice, with the checksums of TCP and UDP verified and without.
-/

namespace CaptureSieve

namespace Record

def Mismatched (r : Record) : Prop :=
  r.verify false = .ok .headerOnly ∧
    (r.verify true = .error (.checksumMismatch .tcp) ∨ r.verify true = .error (.checksumMismatch .udp))

variable {r : Record} {l : Layer} {h : Ipv4Header}

section Layer

variable (hl : r.layer .ipv4 = .ok l) (hd : Layers.Datagram r.data l h)

include hl hd

lemma checksumOk_false_iff : r.checksumOk false ↔ h.headerSum = 0 := by
  rw [checksumOk_iff, verify_false hl hd]
  split <;> simp_all

lemma checksumOk_true_iff :
    r.checksumOk true ↔ h.headerSum = 0 ∧ ∃ v, h.finding (r.data.drop l.start) = .ok v := by
  rw [checksumOk_iff]
  by_cases hsum : h.headerSum = 0
  · rw [verify_true hl hd hsum]
    exact (and_iff_right hsum).symm
  · simp [verify_of_headerSum hl hd hsum, hsum]

lemma mismatched_iff : r.Mismatched ↔ r.checksumOk false ∧ ¬ r.checksumOk true := by
  rw [checksumOk_false_iff hl hd, checksumOk_true_iff hl hd, Mismatched, verify_false hl hd]
  by_cases hsum : h.headerSum = 0
  · simp only [hsum, if_true, true_and, verify_true hl hd hsum]
    exact Ipv4Header.finding_mismatch_iff
  · simp [hsum]

lemma transport_of_mismatched (hm : r.Mismatched) : Layers.IsTransport h.protocol := by
  obtain ⟨-, htcp | hudp⟩ := hm
  · have hfinding := finding_of_mismatch hl hd htcp (by decide)
    exact .inl (Ipv4Header.finding_eq_tcp_iff.mp hfinding).2.1.2.1
  · have hfinding := finding_of_mismatch hl hd hudp (by decide)
    exact .inr (Ipv4Header.finding_eq_udp_iff.mp hfinding).2.1.2.1

end Layer

lemma exists_ipv4_of_mismatched (hm : r.Mismatched) : ∃ l h, r.layer .ipv4 = .ok l ∧ Layers.Datagram r.data l h := by
  cases hl : r.layer .ipv4 with
  | error e =>
    have hverify := hm.1
    rw [verify_of_no_layer hl] at hverify
    simp at hverify
  | ok l =>
    obtain ⟨h, hd⟩ := datagram_of_layer hl
    exact ⟨l, h, rfl, hd⟩

end Record

namespace Record

variable {r : Record}

lemma accepts_false_of_true (h : ∃ unverified, r.classify true = .accept unverified) :
    ∃ unverified, r.classify false = .accept unverified := by
  obtain ⟨unverified, haccept⟩ := h
  obtain ⟨l, ip, hl, hd, hip⟩ := ipv4_of_accept haccept
  rw [accepts_iff hip]
  obtain ⟨hp, hsound⟩ := (accepts_iff hip).mp ⟨unverified, haccept⟩
  exact ⟨hp, (checksumOk_false_iff hl hd).mpr ((checksumOk_true_iff hl hd).mp hsound).1⟩

lemma accepts_differ_iff :
    (∃ unverified, r.classify false = .accept unverified) ∧ ¬ (∃ unverified, r.classify true = .accept unverified) ↔
      r.Mismatched := by
  constructor
  · rintro ⟨⟨unverified, haccept⟩, hrefused⟩
    obtain ⟨l, ip, hl, hd, hip⟩ := ipv4_of_accept haccept
    obtain ⟨hp, hsound⟩ := (accepts_iff hip).mp ⟨unverified, haccept⟩
    rw [accepts_iff hip, not_and] at hrefused
    exact (mismatched_iff hl hd).mpr ⟨hsound, hrefused hp⟩
  · intro hm
    obtain ⟨l, ip, hl, hd⟩ := exists_ipv4_of_mismatched hm
    have hip := (ipv4_of_layer hl hd).1
    obtain ⟨hsound, hbroken⟩ := (mismatched_iff hl hd).mp hm
    rw [accepts_iff hip, accepts_iff hip]
    exact ⟨⟨transport_of_mismatched hl hd hm, hsound⟩, fun h => hbroken h.2⟩

lemma classify_false_ne : r.classify false ≠ .accept true := by
  intro haccept
  obtain ⟨l, ip, hl, hd, hip⟩ := ipv4_of_accept haccept
  have hp := ((accepts_iff hip).mp ⟨true, haccept⟩).1
  rw [classify_of_transport hip hp, verify_false hl hd] at haccept
  split at haccept <;> simp [Verdict.ofVerification] at haccept

end Record

def Settings.verifying (s : Settings) (transport : Bool) : Settings := { s with verifyTransport := transport }

namespace Sieve

variable {settings : Settings} {r : Record} {e : Entry}

def Writable (settings : Settings) (r : Record) : Prop :=
  ∃ bytes, r.datagram = .ok bytes ∧ bytes.length ≤ settings.snapLength.toNat ∧ r.time.micros < 0x1_0000_0000 * 1_000_000

lemma isSome_output?_iff :
    (output? settings r).isSome ↔
      (∃ unverified, r.classify settings.verifyTransport = .accept unverified) ∧ Writable settings r := by
  rw [Option.isSome_iff_exists]
  constructor
  · rintro ⟨e, he⟩
    obtain ⟨haccept, hdata, htime, -, hlength, hrange⟩ := output?_eq_some_iff.mp he
    exact ⟨haccept, e.data, hdata, hlength, htime ▸ hrange⟩
  · rintro ⟨haccept, bytes, hdata, hlength, hrange⟩
    exact ⟨⟨r.time, r.wireLength, bytes⟩, output?_eq_some_iff.mpr ⟨haccept, hdata, rfl, rfl, hlength, hrange⟩⟩

lemma output?_verifying (h : output? (settings.verifying true) r = some e) :
    output? (settings.verifying false) r = some e := by
  obtain ⟨haccept, hentry⟩ := output?_eq_some_iff.mp h
  exact output?_eq_some_iff.mpr ⟨Record.accepts_false_of_true haccept, hentry⟩

lemma missing_iff :
    (output? (settings.verifying false) r).isSome ∧ output? (settings.verifying true) r = none ↔
      r.Mismatched ∧ Writable settings r := by
  rw [← Option.not_isSome_iff_eq_none, isSome_output?_iff, isSome_output?_iff, ← Record.accepts_differ_iff]
  have hwritable : ∀ transport, Writable (settings.verifying transport) r ↔ Writable settings r := fun _ => Iff.rfl
  rw [hwritable, hwritable]
  tauto

lemma sublist_filterMap {α β : Type} {f g : α → Option β} (h : ∀ a b, f a = some b → g a = some b) (xs : List α) :
    (xs.filterMap f).Sublist (xs.filterMap g) := by
  induction xs with
  | nil => exact List.Sublist.refl _
  | cons x xs ih =>
    cases hf : f x with
    | some b =>
      rw [List.filterMap_cons_some hf, List.filterMap_cons_some (h x b hf)]
      exact ih.cons_cons b
    | none =>
      rw [List.filterMap_cons_none hf]
      cases hg : g x with
      | none =>
        rw [List.filterMap_cons_none hg]
        exact ih
      | some b =>
        rw [List.filterMap_cons_some hg]
        exact ih.cons b

/-- Why a packet is dropped whatever its checksums. -/
def unfit? (r : Record) : Option DropReason :=
  match r.ipv4 with
  | .error _ => some .notIpv4
  | .ok h => if Layers.IsTransport h.protocol then none else some .notTransport

lemma classify_of_unfit {reason : DropReason} (h : unfit? r = some reason) (transport : Bool) :
    r.classify transport = .drop reason := by
  rw [unfit?] at h
  split at h
  · next hip =>
    obtain rfl := Option.some.inj h
    exact Record.classify_of_error hip transport
  · next hip =>
    split at h
    · simp at h
    · next hp =>
      obtain rfl := Option.some.inj h
      exact Record.classify_of_not_transport hip hp transport

lemma classify_of_fit (h : unfit? r = none) (transport : Bool) :
    (∃ unverified, r.classify transport = .accept unverified) ∨ r.classify transport = .drop .badChecksum := by
  rw [unfit?] at h
  split at h
  · simp at h
  · next hip =>
    split at h
    · next hp =>
      rw [Record.classify_of_transport hip hp]
      cases r.verify transport with
      | error e => exact .inr rfl
      | ok v => exact .inl (Verdict.ofVerification_ok v)
    · simp at h

lemma count_of_unfit {reason : DropReason} (h : unfit? r = some reason) (settings : Settings) (t : Tally) :
    count settings t r = t.drop reason := by
  have hclass := classify_of_unfit h settings.verifyTransport
  have hnone : output? settings r = none := by
    rw [← Option.not_isSome_iff_eq_none, isSome_output?_iff, hclass]
    simp
  rw [count_of_none hnone, dropReason, hclass]

lemma drops_of_fit (h : unfit? r = none) (settings : Settings) (t : Tally) :
    (count settings t r).drops.notIpv4 = t.drops.notIpv4 ∧
    (count settings t r).drops.notTransport = t.drops.notTransport := by
  cases ho : output? settings r with
  | some e =>
    obtain ⟨⟨unverified, haccept⟩, -⟩ := output?_eq_some_iff.mp ho
    rw [count_of_output ho haccept]
    exact ⟨rfl, rfl⟩
  | none =>
    rw [count_of_none ho, dropReason]
    rcases classify_of_fit h settings.verifyTransport with ⟨unverified, hclass⟩ | hclass
    · rw [hclass]
      exact ⟨rfl, rfl⟩
    · rw [hclass]
      exact ⟨rfl, rfl⟩

lemma drops_foldl (settings : Settings) (records : List Record) (t : Tally) :
    (records.foldl (count settings) t).drops.notIpv4 =
      t.drops.notIpv4 + records.countP (unfit? · = some .notIpv4) ∧
    (records.foldl (count settings) t).drops.notTransport =
      t.drops.notTransport + records.countP (unfit? · = some .notTransport) := by
  induction records generalizing t with
  | nil => exact ⟨rfl, rfl⟩
  | cons r rest ih =>
    rw [List.foldl_cons, List.countP_cons, List.countP_cons, (ih _).1, (ih _).2]
    cases hu : unfit? r with
    | none =>
      obtain ⟨hipv4, htransport⟩ := drops_of_fit hu settings t
      simp [hipv4, htransport]
    | some reason =>
      rw [count_of_unfit hu]
      cases reason <;> simp [Tally.drop, DropTally.add] <;> omega

lemma unverified_count (h : settings.verifyTransport = false) (t : Tally) :
    (count settings t r).unverified = t.unverified := by
  rw [count]
  split
  · simp [Tally.accept, h, Record.classify_false_ne]
  · rfl

lemma unverified_foldl (h : settings.verifyTransport = false) (records : List Record) (t : Tally) :
    (records.foldl (count settings) t).unverified = t.unverified := by
  induction records generalizing t with
  | nil => rfl
  | cons r rest ih => rw [List.foldl_cons, ih, unverified_count h]

structure Loosened (settings : Settings) (merged : List Record) (sink : Sink) (strict lenient : Outcome) : Prop where
  results : strict.result = .ok () ∧ lenient.result = .ok ()
  strictOutput : Captured (settings.verifying true) merged sink.accepted strict.sink.accepted
  lenientOutput : Captured (settings.verifying false) merged sink.accepted lenient.sink.accepted
  sublist : (merged.filterMap (output? (settings.verifying true))).Sublist
    (merged.filterMap (output? (settings.verifying false)))
  same : ∀ r e, output? (settings.verifying true) r = some e → output? (settings.verifying false) r = some e
  missing : ∀ r, (output? (settings.verifying false) r).isSome ∧ output? (settings.verifying true) r = none ↔
    r.Mismatched ∧ Writable settings r
  notIpv4 : strict.tally.drops.notIpv4 = lenient.tally.drops.notIpv4
  notTransport : strict.tally.drops.notTransport = lenient.tally.drops.notTransport
  unverified : lenient.tally.unverified = 0

theorem verification_only_drops {i : Input} {m : Merge} {sink : Sink} (h : sink.room = none) (hi : i.merge = .ok m)
    (ht : m.traffic.drain.failure = none) (hd : ∀ s ∈ m.dns, s.drain.failure = none) :
    Loosened settings (interleave m.traffic.drain.items (Merge.dnsRecords m.dns)) sink
      (distill (settings.verifying true) i sink) (distill (settings.verifying false) i sink) := by
  obtain ⟨hclean, hdue, hrounds⟩ := due_of_merge hi ht hd
  have hrun (transport : Bool) := @run_of_clean (settings.verifying transport) m sink hclean hrounds h .empty
  have htally (transport : Bool) := (run_of_ok hclean hrounds (hrun transport).1).2
  have hdistill (transport : Bool) : distill (settings.verifying transport) i sink =
      run (settings.verifying transport) .empty m sink := by
    simp only [distill, hi]
  rw [hdistill, hdistill, ← hdue]
  refine ⟨⟨(hrun true).1, (hrun false).1⟩, captured_of_bytes (hrun true).2, captured_of_bytes (hrun false).2,
    sublist_filterMap (fun _ _ => output?_verifying) _, fun _ _ => output?_verifying, fun _ => missing_iff, ?_, ?_, ?_⟩
  · rw [htally, htally, (drops_foldl _ _ _).1, (drops_foldl _ _ _).1]
  · rw [htally, htally, (drops_foldl _ _ _).2, (drops_foldl _ _ _).2]
  · rw [htally, unverified_foldl rfl]
    rfl

-- The second packet is the first with a checksum that is not its own.
def tampered : Input where
  traffic := .ofBytes (fileHeader 65535 .raw ++ recordBytes 5 query ++ recordBytes 6 (query.set 26 0x12))
  filter := none
  dns := none

theorem verification_only_drops_tampered :
    ∃ m, tampered.merge = .ok m ∧ m.traffic.drain.failure = none ∧ (∀ s ∈ m.dns, s.drain.failure = none) ∧
      Loosened .standard (interleave m.traffic.drain.items (Merge.dnsRecords m.dns)) .unbounded
        (distill (Settings.standard.verifying true) tampered .unbounded)
        (distill (Settings.standard.verifying false) tampered .unbounded) ∧
      (distill (Settings.standard.verifying true) tampered .unbounded).sink.accepted =
        fileHeader 65535 .raw ++ recordBytes 5 query ∧
      (distill (Settings.standard.verifying false) tampered .unbounded).sink.accepted =
        fileHeader 65535 .raw ++ (recordBytes 5 query ++ recordBytes 6 (query.set 26 0x12)) := by
  have hclean : tampered.merge.toOption.any (fun m =>
      let merged := interleave m.traffic.drain.items (Merge.dnsRecords m.dns)
      m.traffic.drain.failure = none ∧ (∀ s ∈ m.dns, s.drain.failure = none) ∧
        (merged.filterMap (output? (Settings.standard.verifying true))).flatMap Entry.bytes = recordBytes 5 query ∧
        (merged.filterMap (output? (Settings.standard.verifying false))).flatMap Entry.bytes =
          recordBytes 5 query ++ recordBytes 6 (query.set 26 0x12)) = true := by decide +kernel
  cases hm : tampered.merge with
  | error e => simp [hm, Except.toOption] at hclean
  | ok m =>
    rw [hm] at hclean
    obtain ⟨ht, hd, hstrict, hlenient⟩ := of_decide_eq_true hclean
    have hloosened := @verification_only_drops .standard tampered m .unbounded rfl hm ht hd
    refine ⟨m, rfl, ht, hd, hloosened, ?_, ?_⟩
    · rw [hloosened.strictOutput.bytes, hstrict]
      rfl
    · rw [hloosened.lenientOutput.bytes, hlenient]
      rfl

end Sieve

end CaptureSieve
