import CaptureSieve.Proofs.Writing.Contents

/-!
A sink with a limit beside one without. They take the same bytes until the first of them is beyond the limit, and from
then on the limited one takes nothing.
-/

namespace CaptureSieve

namespace Sink

/-- `s` stands as `t` does, and may take `limit` bytes in all. -/
structure Shadows (limit : Nat) (s t : Sink) : Prop where
  accepted : s.accepted = t.accepted
  room : s.room = some (limit - t.accepted.length)
  fits : t.accepted.length ≤ limit
  free : t.room = none

structure Cut (limit : Nat) (s : Sink) (bytes : List UInt8) : Prop where
  room : s.room = some 0
  accepted : s.accepted = bytes.take limit
  beyond : limit < bytes.length

variable {limit : Nat} {s t : Sink} {bytes more : List UInt8}

lemma shadows_bounded (limit : Nat) (refusal : String) : Shadows limit (bounded limit refusal) unbounded :=
  ⟨rfl, rfl, Nat.zero_le _, rfl⟩

lemma shadows_of_room {room : Nat} (h : s.room = some room) :
    Shadows (s.accepted.length + room) s { s with room := none } := by
  refine ⟨rfl, ?_, Nat.le_add_right _ _, rfl⟩
  rw [h, Nat.add_sub_cancel_left]

lemma Cut.mono (h : Cut limit s bytes) (hm : bytes <+: more) : Cut limit s more := by
  obtain ⟨rest, rfl⟩ := hm
  refine ⟨h.room, ?_, ?_⟩
  · rw [h.accepted, List.take_append_of_le_length (Nat.le_of_lt h.beyond)]
  · have := h.beyond
    rw [List.length_append]
    omega

lemma Cut.write (h : Cut limit s bytes) (more : List UInt8) : Cut limit (s.write more).2 bytes := by
  have hfull : (s.write more).2 = { s with accepted := s.accepted ++ [], room := some (0 - more.length) } := by
    simp only [Sink.write, h.room, List.take_zero]
  rw [hfull, List.append_nil, Nat.zero_sub]
  exact ⟨rfl, h.accepted, h.beyond⟩

lemma Cut.accepted_of_retries (h : Cut limit s bytes) (retries : List (List UInt8)) :
    (retries.foldl (fun sink more => (sink.write more).2) s).accepted = s.accepted := by
  induction retries generalizing s with
  | nil => rfl
  | cons more retries ih =>
    have hlater := h.write more
    rw [List.foldl_cons, ih hlater, hlater.accepted, h.accepted]

lemma Shadows.write (h : Shadows limit s t) (bytes : List UInt8) :
    ((s.write bytes).1.isEmpty = true ∧ Shadows limit (s.write bytes).2 (t.write bytes).2) ∨
    ((s.write bytes).1.isEmpty = false ∧ Cut limit (s.write bytes).2 (t.accepted ++ bytes)) := by
  have hfits := h.fits
  rw [write_unbounded h.free]
  simp only [Sink.write, h.room, h.accepted]
  by_cases hroom : bytes.length ≤ limit - t.accepted.length
  · left
    rw [List.drop_of_length_le hroom, List.take_of_length_le hroom]
    refine ⟨rfl, rfl, ?_, ?_, h.free⟩
    · simp only [List.length_append, Option.some.injEq]
      omega
    · simp only [List.length_append]
      omega
  · right
    refine ⟨?_, ?_, ?_, ?_⟩
    · rw [← Bool.not_eq_true, List.isEmpty_iff, List.drop_eq_nil_iff]
      exact hroom
    · simp only [Option.some.injEq]
      omega
    · rw [List.take_append, List.take_of_length_le hfits]
    · rw [List.length_append]
      omega

end Sink

namespace BufferedSink

structure Shadows (limit : Nat) (b c : BufferedSink) : Prop where
  sink : b.sink.Shadows limit c.sink
  buffer : b.buffer = c.buffer

def InStep (limit : Nat) (bytes : List UInt8) (x y : Bool × BufferedSink) : Prop :=
  (x.1 = true ∧ y.1 = true ∧ x.2.Shadows limit y.2) ∨ (x.1 = false ∧ x.2.sink.Cut limit bytes)

variable {limit : Nat} {b c : BufferedSink} {bytes : List UInt8}

lemma Shadows.flush (h : Shadows limit b c) : InStep limit c.contents b.flush c.flush := by
  have hempty : (c.sink.write c.buffer).1 = [] := by rw [Sink.write_unbounded h.sink.free]
  simp only [InStep, BufferedSink.flush, h.buffer]
  rcases h.sink.write c.buffer with ⟨htaken, hshadows⟩ | ⟨hrefused, hcut⟩
  · left
    refine ⟨htaken, by rw [hempty]; rfl, hshadows, ?_⟩
    rw [hempty]
    exact List.isEmpty_iff.mp htaken
  · exact .inr ⟨hrefused, hcut⟩

lemma Shadows.spill (h : Shadows limit b c) (hempty : outputBufferSize ≤ bytes.length → c.buffer = []) :
    InStep limit (c.contents ++ bytes) (b.spill bytes) (c.spill bytes) := by
  rw [BufferedSink.spill, BufferedSink.spill]
  by_cases hlong : outputBufferSize ≤ bytes.length
  · have hcontents : c.contents = c.sink.accepted := by rw [contents, hempty hlong, List.append_nil]
    simp only [if_pos hlong, hcontents]
    rcases h.sink.write bytes with ⟨htaken, hshadows⟩ | ⟨hrefused, hcut⟩
    · exact .inl ⟨htaken, by rw [Sink.write_unbounded h.sink.free]; rfl, hshadows, h.buffer⟩
    · exact .inr ⟨hrefused, hcut⟩
  · rw [if_neg hlong, if_neg hlong]
    exact .inl ⟨rfl, rfl, h.sink, by simp only [h.buffer]⟩

lemma Shadows.put (h : Shadows limit b c) (bytes : List UInt8) :
    InStep limit (c.contents ++ bytes) (b.put bytes) (c.put bytes) := by
  rcases Nat.lt_trichotomy bytes.length (outputBufferSize - c.buffer.length) with hlt | heq | hgt
  · rw [put_of_lt hlt, put_of_lt (h.buffer ▸ hlt)]
    exact .inl ⟨rfl, rfl, h.sink, by simp only [h.buffer]⟩
  · rw [put_of_eq heq, put_of_eq (h.buffer ▸ heq)]
    exact h.spill (buffer_of_exact heq)
  · rw [put_of_gt hgt, put_of_gt (h.buffer ▸ hgt)]
    rcases h.flush with ⟨htaken, hfree, hshadows⟩ | ⟨hrefused, hcut⟩
    · obtain ⟨hbuffer, haccepted⟩ := flush_of_true hfree
      have hcontents : c.flush.2.contents = c.contents := by rw [contents, hbuffer, haccepted, List.append_nil]
      rw [if_pos htaken, if_pos hfree, ← hcontents]
      exact hshadows.spill fun _ => hbuffer
    · rw [if_neg (by simp [hrefused])]
      exact .inr ⟨rfl, hcut.mono (List.prefix_append _ _)⟩

end BufferedSink

namespace Writer

structure Shadows (limit : Nat) (w v : Writer) : Prop where
  output : w.output.Shadows limit v.output
  snapLength : w.snapLength = v.snapLength

variable {limit : Nat} {w v : Writer} {data : List UInt8} {wireLength : UInt32} {time : Instant}

lemma Shadows.write (h : Shadows limit w v) (data : List UInt8) (wireLength : UInt32) (time : Instant) :
    ((w.write data wireLength time).1 = (v.write data wireLength time).1 ∧
      Shadows limit (w.write data wireLength time).2 (v.write data wireLength time).2) ∨
    ((∃ reason, (w.write data wireLength time).1 = .error (.io reason)) ∧
      (w.write data wireLength time).2.output.sink.Cut limit (v.write data wireLength time).2.contents) := by
  cases hf : timeFields w.snapLength data.length time with
  | error e =>
    rw [write_of_rejected hf, write_of_rejected (h.snapLength ▸ hf)]
    exact .inl ⟨rfl, h⟩
  | ok fields =>
    obtain ⟨seconds, micros⟩ := fields
    have hf' : timeFields v.snapLength data.length time = .ok (seconds, micros) := h.snapLength ▸ hf
    obtain ⟨hfree, hroom⟩ :=
      BufferedSink.put_unbounded h.output.sink.free (recordHeader seconds micros data.length wireLength)
    obtain ⟨hfree', -⟩ := BufferedSink.put_unbounded hroom data
    have hall : (v.write data wireLength time).2.contents =
        v.contents ++ recordHeader seconds micros data.length wireLength ++ data := by
      rw [write_of_puts hf' hfree hfree', contents, BufferedSink.put_contents hfree', BufferedSink.put_contents hfree]
      rfl
    rcases h.output.put (recordHeader seconds micros data.length wireLength) with
      ⟨htaken, -, hheader⟩ | ⟨hrefused, hcut⟩
    · rcases hheader.put data with ⟨htaken', -, hdata⟩ | ⟨hrefused, hcut⟩
      · rw [write_of_puts hf htaken htaken', write_of_puts hf' hfree hfree']
        exact .inl ⟨rfl, hdata, h.snapLength⟩
      · rw [write_of_refused_data hf htaken hrefused, hall]
        rw [BufferedSink.put_contents hfree] at hcut
        exact .inr ⟨⟨_, rfl⟩, hcut⟩
    · rw [write_of_refused_header hf hrefused, hall]
      exact .inr ⟨⟨_, rfl⟩, hcut.mono (List.prefix_append _ _)⟩

lemma shadows_ofSink {s t : Sink} (h : s.Shadows limit t) (snapLength : UInt32) (link : LinkType) :
    Shadows limit (ofSink s snapLength link) (ofSink t snapLength link) := by
  refine ⟨?_, rfl⟩
  rw [ofSink_output, ofSink_output]
  exact ⟨h, rfl⟩

lemma Shadows.close (h : Shadows limit w v) :
    (w.close.1 = .ok () ∧ w.close.2.Shadows limit v.close.2) ∨
    (w.close.1 ≠ .ok () ∧ w.close.2.Cut limit v.contents) := by
  rw [close_eq, close_eq]
  rcases h.output.flush with ⟨htaken, -, hshadows⟩ | ⟨hrefused, hcut⟩
  · exact .inl ⟨if_pos htaken, hshadows.sink⟩
  · exact .inr ⟨by simp [hrefused], hcut⟩

lemma cut_close {bytes : List UInt8} (h : w.output.sink.Cut limit bytes) : w.close.2.Cut limit bytes := h.write _

end Writer

end CaptureSieve
