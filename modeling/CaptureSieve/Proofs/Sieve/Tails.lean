import CaptureSieve.Proofs.Capture.Tails
import CaptureSieve.Proofs.Sieve.Alone
import CaptureSieve.Proofs.Sieve.Limits

/-!
Captures that are cut short. They lose the records that the cut falls into or before, and nothing else, and what is
written of them is a first part of what is written of the whole.
-/

namespace CaptureSieve

namespace Sieve

variable {settings : Settings} {traffic fewer : Source} {sink : Sink}

lemma outputBytes_mono {records more : List Record} (h : records <+: more) (settings : Settings) :
    outputBytes settings records <+: outputBytes settings more := by
  obtain ⟨rest, rfl⟩ := h
  simp only [outputBytes, List.filterMap_append, List.flatMap_append]
  exact List.prefix_append _ _

section Fewer

variable (ht : ∀ r ∈ traffic.outlook.records, r.time.Rounds) (hf : ∀ r ∈ fewer.outlook.records, r.time.Rounds)
  (hinitial : fewer.outlook.records <+: traffic.outlook.records)

include ht hf hinitial

lemma accepted_of_fewer (h : (run settings .empty (.ofSources traffic none) sink).result = .ok ())
    (h' : (run settings .empty (.ofSources fewer none) sink).result = .ok ()) :
    (run settings .empty (.ofSources fewer none) sink).sink.accepted <+:
      (run settings .empty (.ofSources traffic none) sink).sink.accepted := by
  rw [(run_of_alone ht h).1, (run_of_alone hf h').1]
  exact (List.prefix_append_right_inj _).mpr (outputBytes_mono hinitial settings)

lemma result_of_fewer (hclean : fewer.outlook.failure = none)
    (h : (run settings .empty (.ofSources traffic none) sink).result = .ok ()) :
    (run settings .empty (.ofSources fewer none) sink).result = .ok () := by
  have hfree : ∀ {free : Sink}, free.room = none →
      (run settings .empty (.ofSources fewer none) free).result = .ok () := by
    intro free hroom
    rw [result_of_alone hf hroom, hclean]
  cases hroom : sink.room with
  | none => exact hfree hroom
  | some room =>
    have hshadows := Sink.shadows_of_room hroom
    rcases run_inStep hshadows settings .empty (.ofSources traffic none) with ⟨hwhole, hsame⟩ | ⟨-, hfailed⟩
    · rcases run_inStep hshadows settings .empty (.ofSources fewer none) with ⟨-, hsame'⟩ | ⟨hcut, -⟩
      · exact hsame'.mpr (hfree rfl)
      · have hless := (accepted_of_fewer ht hf hinitial (hsame.mp h) (hfree rfl)).length_le
        exact absurd (Nat.le_trans hless hwhole.fits) (Nat.not_le.mpr hcut.beyond)
    · exact absurd h hfailed

end Fewer

lemma distill_of_fewer {x y : ByteStream} {text : Option String} {filter : Option Filter}
    (htext : compiled text = .ok filter) (hx : Source.ofStream x filter = .ok traffic)
    (hy : Source.ofStream y filter = .ok fewer) (hclean : fewer.outlook.failure = none)
    (hinitial : fewer.outlook.records <+: traffic.outlook.records)
    (h : (distill settings ⟨x, text, none⟩ sink).result = .ok ()) :
    (distill settings ⟨y, text, none⟩ sink).result = .ok () ∧
      (distill settings ⟨y, text, none⟩ sink).sink.accepted <+:
        (distill settings ⟨x, text, none⟩ sink).sink.accepted := by
  have hrun : ∀ {stream : ByteStream} {source : Source}, Source.ofStream stream filter = .ok source →
      distill settings ⟨stream, text, none⟩ sink = run settings .empty (.ofSources source none) sink := by
    intro stream source hs
    have hmerge := @merge_of_alone ⟨stream, text, none⟩ rfl filter htext source hs
    simp only [distill, hmerge]
  have ht := Source.rounds_of_ofStream hx
  have hf := Source.rounds_of_ofStream hy
  rw [hrun hx] at h ⊢
  rw [hrun hy]
  have hok := result_of_fewer ht hf hinitial hclean h
  exact ⟨hok, accepted_of_fewer ht hf hinitial h hok⟩

theorem loses_only_tail_iff {x : ByteStream} {filter : Option Filter} {source : Source}
    (hx : Source.ofStream x filter = .ok source) (hclean : source.drain.failure = none) :
    ∃ (o : Opening) (pieces : List Piece), o.Heads x.bytes pieces ∧
      source.drain.items = (Piece.records pieces).filter (Source.admits filter) ∧
      ((∀ p ∈ pieces, p.size ≠ bufferSize) ↔
        ∀ n readSize cut, Source.ofStream ⟨x.bytes.take n, .closed, readSize⟩ filter = .ok cut →
          let kept := Piece.within (n - o.size) pieces
          cut.Gives ((Piece.records kept).filter (Source.admits filter))
            (if o.size + Piece.extent kept = (x.bytes.take n).length then [] else [.partialTail o.dialect.format])) ∧
      ((∀ p ∈ pieces, p.size ≠ bufferSize) →
        ∀ settings text sink, compiled text = .ok filter →
          (distill settings ⟨x, text, none⟩ sink).result = .ok () →
          ∀ n readSize cut, Source.ofStream ⟨x.bytes.take n, .closed, readSize⟩ filter = .ok cut →
            let out := distill settings ⟨⟨x.bytes.take n, .closed, readSize⟩, text, none⟩ sink
            out.result = .ok () ∧ out.sink.accepted <+: (distill settings ⟨x, text, none⟩ sink).sink.accepted) := by
  obtain ⟨o, pieces, hheads, hitems⟩ := Source.pieces_of_clean hx hclean
  refine ⟨o, pieces, hheads, hitems, ⟨?_, ?_⟩, ?_⟩
  · intro hfree n readSize cut hcut
    exact Source.gives_of_cut hheads hfree hcut
  · intro hall p hp hfull
    obtain ⟨before, after, rfl⟩ := List.append_of_mem hp
    obtain ⟨cut, hcut, hrefused⟩ := Source.refused_of_cut hheads hfull rfl (fun _ => 1) filter
    simp [(hall _ _ cut hcut).failure] at hrefused
  · intro hfree settings text sink htext hok n readSize cut hcut
    have hgives := Source.gives_of_cut hheads hfree hcut
    have hinitial : cut.outlook.records <+: source.outlook.records := by
      rw [Source.drain_failure] at hclean
      rw [← Source.drain_items hclean, ← Source.drain_items hgives.outlook_failure, hitems, hgives.items]
      exact ((Piece.within_initial _ pieces).filterMap _).filter _
    exact distill_of_fewer htext hx hcut hgives.outlook_failure hinitial hok

-- Two datagrams, with the first bytes of another record behind them.
def twoQueries : List Entry := [⟨.epoch, 29, query⟩, ⟨.epoch, 1500, query⟩]

def severed : List UInt8 := fileHeader 65535 .raw ++ (twoQueries.flatMap Entry.bytes ++ [0, 0])

theorem loses_only_tail_severed :
    ∃ source, Source.ofStream ⟨severed, .closed, fun _ => 1⟩ none = .ok source ∧ source.drain.failure = none ∧
      ∀ n readSize cut, 69 ≤ n → n < 114 →
        Source.ofStream ⟨severed.take n, .closed, readSize⟩ none = .ok cut →
          cut.Gives [(⟨.epoch, 29, query⟩ : Entry).record .raw] (if n = 69 then [] else [.partialTail .pcap]) ∧
          (distill .standard ⟨⟨severed.take n, .closed, readSize⟩, none, none⟩ .unbounded).result = .ok () := by
  have hchecked : (Source.ofStream ⟨severed, .closed, fun _ => 1⟩ none).toOption.any (fun s =>
      s.drain.failure = none) = true := by decide +kernel
  have hfits : ∀ e ∈ twoQueries, e.Fits := by
    have hshort : ∀ e ∈ twoQueries, e.time = .epoch ∧ e.data.length ≤ 65520 := by decide
    exact fun e he => .of_epoch (hshort e he).1 (hshort e he).2
  have hlength : severed.length = 116 := by decide
  have hsmall : ∀ p ∈ twoQueries.map (Entry.piece .raw), p.size ≠ bufferSize := by decide
  cases hx : Source.ofStream ⟨severed, .closed, fun _ => 1⟩ none with
  | error e => simp [hx, Except.toOption] at hchecked
  | ok source =>
    rw [hx] at hchecked
    have hclean : source.drain.failure = none := of_decide_eq_true hchecked
    obtain ⟨o, pieces, hheads, -, hread, hwritten⟩ := loses_only_tail_iff hx hclean
    obtain ⟨rfl, rfl⟩ := hheads.unique (Opening.heads_written 65535 .raw hfits (by decide) (by decide))
    refine ⟨source, rfl, hclean, fun n readSize cut hfrom hto hcut => ⟨?_, ?_⟩⟩
    · have hgives := hread.mp hsmall n readSize cut hcut
      have hkept : Piece.within (n - 24) (twoQueries.map (Entry.piece .raw)) =
          [Entry.piece .raw ⟨.epoch, 29, query⟩] := by
        have hsize : ∀ w, (Entry.piece .raw ⟨.epoch, w, query⟩).size = 45 := fun _ => rfl
        simp only [twoQueries, List.map_cons, List.map_nil, Piece.within, hsize]
        rw [if_pos (by omega), if_neg (by omega)]
      have hend : 24 + Piece.extent [Entry.piece .raw ⟨.epoch, 29, query⟩] = (severed.take n).length ↔ n = 69 := by
        rw [List.length_take, Nat.min_eq_left (by omega)]
        exact eq_comm
      simp only [Pcap.headerSize, hkept, hend] at hgives
      exact hgives
    · have hok : (distill .standard ⟨⟨severed, .closed, fun _ => 1⟩, none, none⟩ .unbounded).result = .ok () := by
        rw [result_of_unfiltered hx, ← Source.drain_failure, hclean]
      exact (hwritten hsmall .standard none .unbounded rfl hok n readSize cut hcut).1

theorem cut_refused_at_spacedBuffer :
    ∃ source cut, Source.ofStream ⟨spacedBuffer, .closed, fun _ => bufferSize⟩ none = .ok source ∧
      source.drain.failure = none ∧
      Source.ofStream ⟨spacedBuffer.take 131071, .closed, fun _ => bufferSize⟩ none = .ok cut ∧
      cut.drain.failure = some (.capture .pcap .next .bufferFull) := by
  have hfull : fullBuffer.size = bufferSize := by rw [Entry.size, length_fullBuffer]; rfl
  have hfits : fullBuffer.Fits := .of_epoch rfl (Nat.le_of_eq length_fullBuffer)
  obtain ⟨source, hx, houtlook⟩ := @Source.ofStream_written_at_once 65535 .raw (fun _ => bufferSize) spacer fullBuffer
    fits_spacer hfits size_spacer hfull fun _ => Nat.le_refl _
  have hheads : Opening.Heads ⟨Pcap.dialect, .written .raw, Pcap.headerSize⟩ spacedBuffer
      ([spacer.piece .raw] ++ [fullBuffer.piece .raw]) := by
    have hwritten := @Opening.heads_written 65535 .raw [spacer, fullBuffer] (by simp [fits_spacer, hfits])
      (by simp [hfull, size_spacer]) [] (by decide)
    rwa [List.append_nil] at hwritten
  have hextent : Piece.extent [spacer.piece .raw] = bufferSize - 24 := by
    rw [Piece.extent, Piece.extent, Nat.add_zero, Entry.size_piece, size_spacer]
  obtain ⟨cut, hcut, hrefused⟩ := Source.refused_of_cut (n := 131071) hheads (by rw [Entry.size_piece, hfull])
    (by rw [hextent]; rfl) (fun _ => bufferSize) none
  exact ⟨source, cut, hx, by rw [Source.drain_failure, houtlook], hcut, hrefused⟩

end Sieve

end CaptureSieve
