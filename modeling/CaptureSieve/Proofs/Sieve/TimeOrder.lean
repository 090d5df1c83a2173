import CaptureSieve.Proofs.Capture.Chronology
import CaptureSieve.Proofs.Sieve.Totals

/-!
Sources in the order of time give a merge, and an output, in the order of time.
-/

namespace CaptureSieve

namespace Entry

/-- Seconds and microseconds, the first two words of the entry's bytes. -/
def stamp (e : Entry) : Nat × Nat := (e.time.micros / 1_000_000, e.time.micros % 1_000_000)

def NotLater (d e : Entry) : Prop := d.stamp.1 < e.stamp.1 ∨ d.stamp.1 = e.stamp.1 ∧ d.stamp.2 ≤ e.stamp.2

lemma notLater_of_le {d e : Entry} (h : d.time ≤ e.time) : d.NotLater e := by
  have hmicros : d.time.micros ≤ e.time.micros := by
    apply Nat.div_le_div_right
    exact Nat.add_le_add_right h 500
  simp only [NotLater, stamp]
  omega

lemma Stamped.words {e : Entry} {bytes : List UInt8} (h : e.Stamped bytes) :
    ByteOrder.little.word32 bytes 0 = e.stamp.1 ∧ ByteOrder.little.word32 bytes 4 = e.stamp.2 := by
  obtain ⟨-, hlt, hmicros, -⟩ := h
  simp only [stamp, Instant.micros]
  omega

end Entry

def WordsInOrder (a b : List UInt8) : Prop :=
  ByteOrder.little.word32 a 0 < ByteOrder.little.word32 b 0 ∨
    ByteOrder.little.word32 a 0 = ByteOrder.little.word32 b 0 ∧
      ByteOrder.little.word32 a 4 ≤ ByteOrder.little.word32 b 4

lemma wordsInOrder_of_stamped {d e : Entry} {a b : List UInt8} (hd : d.Stamped a) (he : e.Stamped b)
    (h : d.NotLater e) : WordsInOrder a b := by
  rw [WordsInOrder, hd.words.1, hd.words.2, he.words.1, he.words.2]
  exact h

lemma wordsInOrder_of_notLater {entries : List Entry} (hfits : ∀ e ∈ entries, e.Fits)
    (h : entries.Pairwise Entry.NotLater) : (entries.map Entry.bytes).Pairwise WordsInOrder := by
  rw [List.pairwise_map]
  refine h.imp_of_mem fun hd he hle => ?_
  exact wordsInOrder_of_stamped (Entry.stamped_bytes (hfits _ hd)) (Entry.stamped_bytes (hfits _ he)) hle

namespace Sieve

variable {settings : Settings} {traffic : Source} {dns : Option Source}

lemma time_of_output {r : Record} {e : Entry} (h : output? settings r = some e) : e.time = r.time := by
  obtain ⟨-, -, htime, -⟩ := output?_eq_some_iff.mp h
  exact htime

lemma notLater_of_inTimeOrder {records : List Record} (h : InTimeOrder records) (settings : Settings) :
    (records.filterMap (output? settings)).Pairwise Entry.NotLater := by
  rw [List.pairwise_filterMap]
  apply h.imp
  intro r s hle d hd e he
  apply Entry.notLater_of_le
  rw [time_of_output hd, time_of_output he]
  exact hle

lemma inTimeOrder_of_labelled {l : List Labelled} (h : l.Pairwise MayPrecede) : InTimeOrder (l.map Prod.snd) := by
  rw [InTimeOrder, List.pairwise_map]
  exact h.imp fun hab => hab.1

lemma rounds_of_merged (hr : traffic.Reached) (hr' : ∀ s ∈ dns, s.Reached) :
    ∀ r ∈ (Merge.ofSources traffic dns).due, r.time.Rounds := by
  intro r hmem
  rcases Merge.mem_due_ofSources hmem with hmem | ⟨s, hs, hmem⟩
  · exact Source.rounds_of_reached hr r hmem
  · exact Source.rounds_of_reached (hr' s hs) r hmem

theorem merged_in_time_order (hr : traffic.Reached) (hr' : ∀ s ∈ dns, s.Reached)
    (ht : traffic.drain.failure = none) (hd : ∀ s ∈ dns, s.drain.failure = none)
    (hts : InTimeOrder traffic.drain.items) (hds : InTimeOrder (Merge.dnsRecords dns)) :
    ∃ l : List Labelled,
      (Merge.ofSources traffic dns).drain.items = l.map Prod.snd ∧ (Merge.ofSources traffic dns).drain.failure = none ∧
      ofOrigin .traffic l = traffic.drain.items ∧
      ofOrigin .dns l = (Merge.dnsRecords dns).filter (byLast traffic.drain.items) ∧
      l.Pairwise MayPrecede ∧
      ∀ settings tally sink,
        ((l.map Prod.snd).filterMap (output? settings)).Pairwise Entry.NotLater ∧
        (∃ pieces, outputBytes settings (l.map Prod.snd) = pieces.flatten ∧ pieces.Pairwise WordsInOrder ∧
          List.Forall₂ Entry.Stamped ((l.map Prod.snd).filterMap (output? settings)) pieces) ∧
        (run settings tally (.ofSources traffic dns) sink).sink.accepted <+:
          sink.accepted ++ fileHeader settings.snapLength settings.link ++ outputBytes settings (l.map Prod.snd) ∧
        ((run settings tally (.ofSources traffic dns) sink).result = .ok () →
          (run settings tally (.ofSources traffic dns) sink).sink.accepted =
            sink.accepted ++ fileHeader settings.snapLength settings.link ++ outputBytes settings (l.map Prod.snd)) ∧
        (sink.room = none → (run settings tally (.ofSources traffic dns) sink).result = .ok ()) := by
  have hclean := Merge.clean_ofSources ht hd
  have hdue := Merge.due_ofSources ht hd
  obtain ⟨hitems, hfailure⟩ := Merge.drain_of_clean hclean
  have hordered := pairwise_labelled hts hds
  have hrounds := rounds_of_merged hr hr'
  refine ⟨labelled traffic.drain.items (Merge.dnsRecords dns), ?_, hfailure, traffic_labelled _ _, dns_labelled hts hds,
    hordered, ?_⟩
  · rw [hitems, hdue, map_labelled]
  · intro settings tally sink
    have hbytes : ((labelled traffic.drain.items (Merge.dnsRecords dns)).map Prod.snd) =
        (Merge.ofSources traffic dns).due := by rw [map_labelled, hdue]
    have hnotLater := notLater_of_inTimeOrder (inTimeOrder_of_labelled hordered) settings
    have hfits := fits_of_outputs settings ((labelled traffic.drain.items (Merge.dnsRecords dns)).map Prod.snd)
    refine ⟨hnotLater, ⟨_, List.flatMap_def .., wordsInOrder_of_notLater hfits hnotLater,
      Entry.forall₂_stamped hfits⟩, ?_, ?_, ?_⟩
    · rw [hbytes]
      exact run_within hclean hrounds tally sink
    · intro hok
      rw [hbytes]
      exact (run_of_ok hclean hrounds hok).1
    · intro hroom
      exact (run_of_clean hclean hrounds hroom tally).1

theorem merged_ticks_in_time_order :
    ∃ traffic dns, Source.ofStream (Merge.ticks [1, 3, 3] 1) none = .ok traffic ∧
      Source.ofStream (Merge.ticks [0, 3, 9] 2) none = .ok dns ∧
      traffic.drain.failure = none ∧ (∀ s ∈ some dns, s.drain.failure = none) ∧
      InTimeOrder traffic.drain.items ∧ InTimeOrder (Merge.dnsRecords (some dns)) ∧
      ∃ l : List Labelled, (Merge.ofSources traffic (some dns)).drain.items = l.map Prod.snd ∧ l.Pairwise MayPrecede ∧
        ofOrigin .dns l = [Merge.tick 0 (by decide) 2, Merge.tick 3 (by decide) 2] := by
  have hchecked : (Source.ofStream (Merge.ticks [1, 3, 3] 1) none).toOption.any (fun traffic =>
      (Source.ofStream (Merge.ticks [0, 3, 9] 2) none).toOption.any fun dns =>
        traffic.drain.failure = none ∧ (∀ s ∈ some dns, s.drain.failure = none) ∧ InTimeOrder traffic.drain.items ∧
        InTimeOrder (Merge.dnsRecords (some dns)) ∧ (Merge.dnsRecords (some dns)).filter (byLast traffic.drain.items) =
          [Merge.tick 0 (by decide) 2, Merge.tick 3 (by decide) 2]) = true := by decide +kernel
  cases htraffic : Source.ofStream (Merge.ticks [1, 3, 3] 1) none with
  | error e => simp [htraffic, Except.toOption] at hchecked
  | ok traffic =>
    cases hdns : Source.ofStream (Merge.ticks [0, 3, 9] 2) none with
    | error e => simp [hdns, Except.toOption] at hchecked
    | ok dns =>
      rw [htraffic, hdns] at hchecked
      obtain ⟨ht, hd, hts, hds, hfirst⟩ := of_decide_eq_true hchecked
      have hreached : ∀ s ∈ some dns, s.Reached := by
        rintro s ⟨⟩
        exact .opened hdns
      obtain ⟨l, hitems, -, -, hpackets, hordered, -⟩ := merged_in_time_order (.opened htraffic) hreached ht hd hts hds
      exact ⟨traffic, dns, rfl, rfl, ht, hd, hts, hds, l, hitems, hordered, hpackets.trans hfirst⟩

end Sieve

end CaptureSieve
