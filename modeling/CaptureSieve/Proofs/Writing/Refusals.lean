import CaptureSieve.Proofs.Writing.Contents

/-!
What is left in a sink that refuses bytes: always a first part of all that was to be written.
-/

namespace CaptureSieve

namespace Sink

variable {s : Sink}

lemma accepted_of_any_write (s : Sink) (bytes : List UInt8) : (s.write bytes).2.accepted <+: s.accepted ++ bytes := by
  rw [write]
  split
  · exact List.prefix_rfl
  · apply (List.prefix_append_right_inj _).mpr
    apply List.take_prefix

lemma room_of_refused {bytes : List UInt8} (h : (s.write bytes).1.isEmpty = false) :
    (s.write bytes).2.room = some 0 := by
  rw [write] at h ⊢
  split at h
  · simp at h
  · next room _ =>
    have hover : room < bytes.length := by
      by_contra hfits
      simp [List.drop_of_length_le (Nat.not_lt.mp hfits)] at h
    simp only [Option.some.injEq]
    omega

lemma accepted_of_full (h : s.room = some 0) (bytes : List UInt8) : (s.write bytes).2.accepted = s.accepted := by
  simp only [write, h, List.take_zero, List.append_nil]

end Sink

namespace BufferedSink

variable {b : BufferedSink} {bytes : List UInt8}

lemma accepted_of_flush (b : BufferedSink) : b.flush.2.sink.accepted <+: b.contents :=
  Sink.accepted_of_any_write b.sink b.buffer

lemma room_of_flush (h : b.flush.1 = false) : b.flush.2.sink.room = some 0 := Sink.room_of_refused h

structure Stopped (b : BufferedSink) (bytes : List UInt8) : Prop where
  room : b.sink.room = some 0
  accepted : b.sink.accepted <+: bytes

lemma stopped_of_spill (hempty : outputBufferSize ≤ bytes.length → b.buffer = []) (h : (b.spill bytes).1 = false) :
    Stopped (b.spill bytes).2 (b.contents ++ bytes) := by
  rw [spill] at h ⊢
  split at h
  · next hlong =>
    rw [if_pos hlong]
    constructor
    · exact Sink.room_of_refused h
    · rw [contents, hempty hlong, List.append_nil]
      apply Sink.accepted_of_any_write
  · simp at h

lemma stopped_of_put (h : (b.put bytes).1 = false) : Stopped (b.put bytes).2 (b.contents ++ bytes) := by
  rcases Nat.lt_trichotomy bytes.length (outputBufferSize - b.buffer.length) with hlt | heq | hgt
  · simp [put_of_lt hlt] at h
  · rw [put_of_eq heq] at h ⊢
    exact stopped_of_spill (buffer_of_exact heq) h
  · rw [put_of_gt hgt] at h ⊢
    by_cases hflush : b.flush.1 = true
    · obtain ⟨hbuffer, haccepted⟩ := flush_of_true hflush
      have hcontents : b.flush.2.contents = b.contents := by rw [contents, hbuffer, haccepted, List.append_nil]
      rw [if_pos hflush] at h ⊢
      rw [← hcontents]
      exact stopped_of_spill (fun _ => hbuffer) h
    · rw [if_neg hflush]
      constructor
      · apply room_of_flush
        exact Bool.not_eq_true _ ▸ hflush
      · exact (accepted_of_flush b).trans (List.prefix_append _ _)

end BufferedSink

namespace Writer

variable {w : Writer} {data : List UInt8} {wireLength : UInt32} {time : Instant} {seconds micros : Nat}
  {bytes more : List UInt8}

lemma write_ok_or_stopped (hf : timeFields w.snapLength data.length time = .ok (seconds, micros)) :
    (w.write data wireLength time).1 = .ok () ∨
    (w.write data wireLength time).1 = .error w.refused ∧
      BufferedSink.Stopped (w.write data wireLength time).2.output
        (w.contents ++ (recordHeader seconds micros data.length wireLength ++ data)) := by
  have hheader := @BufferedSink.stopped_of_put w.output (recordHeader seconds micros data.length wireLength)
  have hwritten := @BufferedSink.put_contents w.output (recordHeader seconds micros data.length wireLength)
  cases hh : (w.output.put (recordHeader seconds micros data.length wireLength)).1 with
  | false =>
    have hstopped := hheader hh
    rw [write_of_refused_header hf hh, ← List.append_assoc]
    exact .inr ⟨rfl, hstopped.room, hstopped.accepted.trans (List.prefix_append _ _)⟩
  | true =>
    have hdata := @BufferedSink.stopped_of_put
      (w.output.put (recordHeader seconds micros data.length wireLength)).2 data
    rw [hwritten hh, List.append_assoc] at hdata
    cases hd : ((w.output.put (recordHeader seconds micros data.length wireLength)).2.put data).1 with
    | false =>
      rw [write_of_refused_data hf hh hd]
      exact .inr ⟨rfl, hdata hd⟩
    | true =>
      rw [write_of_puts hf hh hd]
      exact .inl rfl

def Within (w : Writer) (bytes : List UInt8) : Prop := w.contents <+: bytes ∨ w.output.Stopped bytes

lemma within_append (h : w.Within bytes) (more : List UInt8) : w.Within (bytes ++ more) := by
  rcases h with h | h
  · exact .inl (h.trans (List.prefix_append _ _))
  · exact .inr ⟨h.room, h.accepted.trans (List.prefix_append _ _)⟩

lemma close_within (h : w.Within bytes) : w.close.2.accepted <+: bytes := by
  have hclose : w.close.2 = w.output.flush.2.sink := rfl
  rw [hclose]
  rcases h with h | h
  · exact (BufferedSink.accepted_of_flush w.output).trans h
  · have hsame : w.output.flush.2.sink.accepted = w.output.sink.accepted := Sink.accepted_of_full h.room _
    rw [hsame]
    exact h.accepted

end Writer

end CaptureSieve
