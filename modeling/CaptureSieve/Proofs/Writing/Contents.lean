import CaptureSieve.Writing.Writer
import Mathlib.Tactic.Common

/-!
What a writer has been given so far, wherever it stands: in the sink or still in the buffer. A successful call adds
exactly the encoding of its record.
-/

namespace CaptureSieve

namespace Sink

lemma accepted_of_write {s : Sink} {bytes : List UInt8} (h : (s.write bytes).1 = []) :
    (s.write bytes).2.accepted = s.accepted ++ bytes := by
  rw [write] at h ⊢
  split at h
  · rfl
  · next room _ =>
    rw [List.drop_eq_nil_iff] at h
    simp only [List.take_of_length_le h]

lemma write_unbounded {s : Sink} (h : s.room = none) (bytes : List UInt8) :
    s.write bytes = ([], { s with accepted := s.accepted ++ bytes }) := by
  simp only [write, h]

end Sink

namespace BufferedSink

def contents (b : BufferedSink) : List UInt8 := b.sink.accepted ++ b.buffer

variable {b : BufferedSink} {bytes : List UInt8}

lemma flush_of_true (h : b.flush.1 = true) : b.flush.2.buffer = [] ∧ b.flush.2.sink.accepted = b.contents := by
  have hrest : (b.sink.write b.buffer).1 = [] := List.isEmpty_iff.mp h
  exact ⟨hrest, Sink.accepted_of_write hrest⟩

def spill (b : BufferedSink) (bytes : List UInt8) : Bool × BufferedSink :=
  if outputBufferSize ≤ bytes.length then
    let (rest, sink) := b.sink.write bytes
    (rest.isEmpty, { b with sink })
  else (true, { b with buffer := b.buffer ++ bytes })

lemma put_of_lt (h : bytes.length < outputBufferSize - b.buffer.length) :
    b.put bytes = (true, { b with buffer := b.buffer ++ bytes }) := if_pos h

lemma put_of_gt (h : outputBufferSize - b.buffer.length < bytes.length) :
    b.put bytes = if b.flush.1 then b.flush.2.spill bytes else (false, b.flush.2) := by
  rw [put]
  simp only [if_neg (Nat.lt_asymm h), if_pos h]
  rcases b.flush with ⟨_ | _, flushed⟩ <;> rfl

lemma put_of_eq (h : bytes.length = outputBufferSize - b.buffer.length) : b.put bytes = b.spill bytes := by
  have hnot : ¬ bytes.length < outputBufferSize - b.buffer.length := by omega
  have hover : ¬ outputBufferSize - b.buffer.length < bytes.length := by omega
  rw [put]
  simp only [if_neg hnot, if_neg hover]
  rfl

/-- Bytes as long as the whole buffer fill exactly only an empty one, so going past it overtakes nothing. -/
lemma buffer_of_exact (h : bytes.length = outputBufferSize - b.buffer.length) (hlong : outputBufferSize ≤ bytes.length) :
    b.buffer = [] := by
  rw [← List.length_eq_zero_iff]
  simp only [outputBufferSize] at h hlong
  omega

lemma spill_contents (hempty : outputBufferSize ≤ bytes.length → b.buffer = []) (h : (b.spill bytes).1 = true) :
    (b.spill bytes).2.contents = b.contents ++ bytes := by
  rw [spill] at h ⊢
  by_cases hlong : outputBufferSize ≤ bytes.length
  · simp only [if_pos hlong] at h ⊢
    simp only [contents, hempty hlong, Sink.accepted_of_write (List.isEmpty_iff.mp h), List.append_nil]
  · simp only [if_neg hlong, contents, List.append_assoc]

lemma put_contents (h : (b.put bytes).1 = true) : (b.put bytes).2.contents = b.contents ++ bytes := by
  rcases Nat.lt_trichotomy bytes.length (outputBufferSize - b.buffer.length) with hlt | heq | hgt
  · simp only [put_of_lt hlt, contents, List.append_assoc]
  · rw [put_of_eq heq] at h ⊢
    exact spill_contents (buffer_of_exact heq) h
  · rw [put_of_gt hgt] at h ⊢
    split at h
    · next hflush =>
      obtain ⟨hbuffer, haccepted⟩ := flush_of_true hflush
      rw [if_pos hflush, spill_contents (fun _ => hbuffer) h, contents, hbuffer, haccepted, List.append_nil]
    · simp at h

lemma flush_unbounded (h : b.sink.room = none) : b.flush.1 = true ∧ b.flush.2.sink.room = none := by
  simp [flush, Sink.write_unbounded h, h]

lemma spill_unbounded (h : b.sink.room = none) (bytes : List UInt8) :
    (b.spill bytes).1 = true ∧ (b.spill bytes).2.sink.room = none := by
  rw [spill]
  split
  · simp [Sink.write_unbounded h, h]
  · exact ⟨rfl, h⟩

lemma put_unbounded (h : b.sink.room = none) (bytes : List UInt8) :
    (b.put bytes).1 = true ∧ (b.put bytes).2.sink.room = none := by
  rcases Nat.lt_trichotomy bytes.length (outputBufferSize - b.buffer.length) with hlt | heq | hgt
  · rw [put_of_lt hlt]
    exact ⟨rfl, h⟩
  · rw [put_of_eq heq]
    exact spill_unbounded h bytes
  · obtain ⟨hflush, hroom⟩ := flush_unbounded h
    rw [put_of_gt hgt, if_pos hflush]
    exact spill_unbounded hroom bytes

end BufferedSink

/-- A record as it stands in a capture that is written: its time is kept to the nearest microsecond. -/
structure Entry where
  time : Instant
  wireLength : UInt32
  data : List UInt8
  deriving DecidableEq

namespace Entry

def bytes (e : Entry) : List UInt8 :=
  recordHeader (e.time.micros / 1_000_000) (e.time.micros % 1_000_000) e.data.length e.wireLength ++ e.data

end Entry

namespace Instant

def Rounds (t : Instant) : Prop := t.micros < 0x1_0000_0000_0000_0000 * 1_000_000

instance (t : Instant) : Decidable t.Rounds := inferInstanceAs (Decidable (_ < _))

lemma roundedMicros_of_rounds {t : Instant} (h : t.Rounds) :
    t.roundedMicros = (t.micros / 1_000_000, t.micros % 1_000_000) := by
  rw [roundedMicros, Nat.mod_eq_of_lt]
  exact Nat.div_lt_of_lt_mul (by rw [Nat.mul_comm]; exact h)

end Instant

namespace Writer

def contents (w : Writer) : List UInt8 := w.output.contents

@[simp] lemma length_fileHeader (snapLength : UInt32) (link : LinkType) :
    (fileHeader snapLength link).length = 24 := by
  simp [fileHeader]

@[simp] lemma length_recordHeader (seconds micros length : Nat) (wireLength : UInt32) :
    (recordHeader seconds micros length wireLength).length = 16 := by
  simp [recordHeader]

lemma ofSink_output (sink : Sink) (snapLength : UInt32) (link : LinkType) :
    (ofSink sink snapLength link).output = ⟨sink, fileHeader snapLength link⟩ := by
  have hroom : (fileHeader snapLength link).length < outputBufferSize - (BufferedSink.ofSink sink).buffer.length := by
    simp [BufferedSink.ofSink, outputBufferSize]
  simp only [ofSink, BufferedSink.put_of_lt hroom]
  rw [BufferedSink.ofSink, List.nil_append]

lemma contents_ofSink (sink : Sink) (snapLength : UInt32) (link : LinkType) :
    (ofSink sink snapLength link).contents = sink.accepted ++ fileHeader snapLength link := by
  rw [contents, ofSink_output, BufferedSink.contents]

variable {w : Writer} {data : List UInt8} {wireLength : UInt32} {time : Instant} {seconds micros : Nat}

lemma timeFields_ok_iff (ht : time.Rounds) {snapLength : UInt32} {length : Nat} :
    timeFields snapLength length time = .ok (seconds, micros) ↔
      length ≤ snapLength.toNat ∧ time.micros < 0x1_0000_0000 * 1_000_000 ∧
      seconds = time.micros / 1_000_000 ∧ micros = time.micros % 1_000_000 := by
  rw [timeFields]
  rw [Instant.roundedMicros_of_rounds ht]
  have hdiv : time.micros / 1_000_000 < 0x1_0000_0000 ↔ time.micros < 0x1_0000_0000 * 1_000_000 :=
    Nat.div_lt_iff_lt_mul (by decide)
  split
  · next hlong => simp [Nat.not_le.mpr hlong]
  · next hfits =>
    simp only [hdiv, Nat.not_lt.mp hfits, true_and]
    split
    · next hsmall => simp [hsmall, eq_comm]
    · next hlarge => simp [hlarge]

lemma write_of_rejected {e : WriteError} (h : timeFields w.snapLength data.length time = .error e) :
    w.write data wireLength time = (.error e, w) := by
  simp only [write, h]

lemma write_of_puts (hf : timeFields w.snapLength data.length time = .ok (seconds, micros))
    (hheader : (w.output.put (recordHeader seconds micros data.length wireLength)).1 = true)
    (hdata : ((w.output.put (recordHeader seconds micros data.length wireLength)).2.put data).1 = true) :
    w.write data wireLength time = (.ok (), { w with
      output := ((w.output.put (recordHeader seconds micros data.length wireLength)).2.put data).2
      records := w.records + 1 }) := by
  simp only [write, hf]
  generalize w.output.put (recordHeader seconds micros data.length wireLength) = header at hheader hdata
  obtain ⟨done, output⟩ := header
  obtain rfl : done = true := hheader
  dsimp only at hdata ⊢
  generalize output.put data = written at hdata
  obtain ⟨done, output⟩ := written
  obtain rfl : done = true := hdata
  rfl

lemma write_of_refused_header (hf : timeFields w.snapLength data.length time = .ok (seconds, micros))
    (hheader : (w.output.put (recordHeader seconds micros data.length wireLength)).1 = false) :
    w.write data wireLength time = (.error w.refused, { w with
      output := (w.output.put (recordHeader seconds micros data.length wireLength)).2 }) := by
  simp only [write, hf]
  generalize w.output.put (recordHeader seconds micros data.length wireLength) = header at hheader
  obtain ⟨done, output⟩ := header
  obtain rfl : done = false := hheader
  rfl

lemma write_of_refused_data (hf : timeFields w.snapLength data.length time = .ok (seconds, micros))
    (hheader : (w.output.put (recordHeader seconds micros data.length wireLength)).1 = true)
    (hdata : ((w.output.put (recordHeader seconds micros data.length wireLength)).2.put data).1 = false) :
    w.write data wireLength time = (.error w.refused, { w with
      output := ((w.output.put (recordHeader seconds micros data.length wireLength)).2.put data).2 }) := by
  simp only [write, hf]
  generalize w.output.put (recordHeader seconds micros data.length wireLength) = header at hheader hdata
  obtain ⟨done, output⟩ := header
  obtain rfl : done = true := hheader
  dsimp only at hdata ⊢
  generalize output.put data = written at hdata
  obtain ⟨done, output⟩ := written
  obtain rfl : done = false := hdata
  rfl

lemma puts_of_write (hf : timeFields w.snapLength data.length time = .ok (seconds, micros))
    (h : (w.write data wireLength time).1 = .ok ()) :
    (w.output.put (recordHeader seconds micros data.length wireLength)).1 = true ∧
    ((w.output.put (recordHeader seconds micros data.length wireLength)).2.put data).1 = true := by
  simp only [write, hf] at h
  generalize w.output.put (recordHeader seconds micros data.length wireLength) = header at h
  obtain ⟨_ | _, output⟩ := header
  · simp at h
  · dsimp only at h ⊢
    generalize output.put data = written at h
    obtain ⟨_ | _, output⟩ := written
    · simp at h
    · exact ⟨rfl, rfl⟩

lemma write_contents (hf : timeFields w.snapLength data.length time = .ok (seconds, micros))
    (h : (w.write data wireLength time).1 = .ok ()) :
    (w.write data wireLength time).2.contents =
      w.contents ++ (recordHeader seconds micros data.length wireLength ++ data) ∧
    (w.write data wireLength time).2.snapLength = w.snapLength := by
  obtain ⟨hheader, hdata⟩ := puts_of_write hf h
  rw [write_of_puts hf hheader hdata]
  refine ⟨?_, rfl⟩
  rw [contents, BufferedSink.put_contents hdata, BufferedSink.put_contents hheader, List.append_assoc]
  rfl

lemma write_unbounded (hf : timeFields w.snapLength data.length time = .ok (seconds, micros))
    (hr : w.output.sink.room = none) :
    (w.write data wireLength time).1 = .ok () ∧ (w.write data wireLength time).2.output.sink.room = none := by
  obtain ⟨hheader, hroom⟩ := BufferedSink.put_unbounded hr (recordHeader seconds micros data.length wireLength)
  obtain ⟨hdata, hroom'⟩ := BufferedSink.put_unbounded hroom data
  rw [write_of_puts hf hheader hdata]
  exact ⟨rfl, hroom'⟩

lemma fields_of_write (h : (w.write data wireLength time).1 = .ok ()) :
    ∃ seconds micros, timeFields w.snapLength data.length time = .ok (seconds, micros) := by
  cases hf : timeFields w.snapLength data.length time with
  | error e => simp [write_of_rejected hf] at h
  | ok fields => exact ⟨fields.1, fields.2, rfl⟩

lemma write_entry {e : Entry} (ht : e.time.Rounds) (h : (w.write e.data e.wireLength e.time).1 = .ok ()) :
    (w.write e.data e.wireLength e.time).2.contents = w.contents ++ e.bytes ∧
    (w.write e.data e.wireLength e.time).2.snapLength = w.snapLength ∧
    e.data.length ≤ w.snapLength.toNat ∧ e.time.micros < 0x1_0000_0000 * 1_000_000 := by
  obtain ⟨seconds, micros, hf⟩ := fields_of_write h
  obtain ⟨hsize, hrange, rfl, rfl⟩ := (timeFields_ok_iff ht).mp hf
  obtain ⟨hcontents, hsnap⟩ := write_contents hf h
  exact ⟨hcontents, hsnap, hsize, hrange⟩

lemma close_eq (w : Writer) :
    w.close = (if w.output.flush.1 then .ok () else .error w.refused, w.output.flush.2.sink) := rfl

lemma close_accepted {sink : Sink} (h : w.close = (.ok (), sink)) : sink.accepted = w.contents := by
  rw [close_eq] at h
  obtain ⟨hclosed, rfl⟩ := Prod.mk.inj h
  split at hclosed
  · next hflush => exact (BufferedSink.flush_of_true hflush).2
  · simp at hclosed

lemma close_unbounded (hr : w.output.sink.room = none) : w.close.1 = .ok () := by
  rw [close_eq]
  exact if_pos (BufferedSink.flush_unbounded hr).1

def writeAll : List Entry → Writer → Except WriteError Writer
  | [], w => .ok w
  | e :: rest, w =>
    match w.write e.data e.wireLength e.time with
    | (.ok (), w) => writeAll rest w
    | (.error err, _) => .error err

lemma writeAll_cons {e : Entry} {rest : List Entry} {out : Writer} (h : writeAll (e :: rest) w = .ok out) :
    (w.write e.data e.wireLength e.time).1 = .ok () ∧
    writeAll rest (w.write e.data e.wireLength e.time).2 = .ok out := by
  rw [writeAll] at h
  split at h
  · next hw => rw [hw]; exact ⟨rfl, h⟩
  · simp at h

lemma write_admitted {e : Entry} (hr : w.output.sink.room = none) (ht : e.time.Rounds)
    (hsize : e.data.length ≤ w.snapLength.toNat) (hrange : e.time.micros < 0x1_0000_0000 * 1_000_000) :
    (w.write e.data e.wireLength e.time).1 = .ok () ∧
    (w.write e.data e.wireLength e.time).2.output.sink.room = none :=
  write_unbounded ((timeFields_ok_iff ht).mpr ⟨hsize, hrange, rfl, rfl⟩) hr

lemma writeAll_contents {entries : List Entry} {out : Writer} (ht : ∀ e ∈ entries, e.time.Rounds)
    (h : writeAll entries w = .ok out) :
    out.contents = w.contents ++ entries.flatMap Entry.bytes ∧
    ∀ e ∈ entries, e.data.length ≤ w.snapLength.toNat ∧ e.time.micros < 0x1_0000_0000 * 1_000_000 := by
  induction entries generalizing w with
  | nil =>
    obtain rfl := Except.ok.inj h
    simp
  | cons e rest ih =>
    obtain ⟨hwrite, hrest⟩ := writeAll_cons h
    obtain ⟨hcontents, hsnap, hentry⟩ := write_entry (ht e (List.mem_cons_self ..)) hwrite
    obtain ⟨hout, hfits⟩ := ih (fun d hd => ht d (List.mem_cons_of_mem _ hd)) hrest
    rw [hsnap] at hfits
    refine ⟨?_, List.forall_mem_cons.mpr ⟨hentry, hfits⟩⟩
    rw [hout, hcontents, List.flatMap_cons, List.append_assoc]

lemma writeAll_unbounded {entries : List Entry} (hr : w.output.sink.room = none)
    (h : ∀ e ∈ entries, e.time.Rounds ∧ e.data.length ≤ w.snapLength.toNat ∧
      e.time.micros < 0x1_0000_0000 * 1_000_000) :
    ∃ out, writeAll entries w = .ok out ∧ out.output.sink.room = none := by
  induction entries generalizing w with
  | nil => exact ⟨w, rfl, hr⟩
  | cons e rest ih =>
    obtain ⟨⟨ht, hsize, hrange⟩, hrest⟩ := List.forall_mem_cons.mp h
    obtain ⟨hok, hroom⟩ := write_admitted hr ht hsize hrange
    have hsnap := (write_entry ht hok).2.1
    obtain ⟨out, hout, hdone⟩ := ih hroom (hsnap ▸ hrest)
    have hwrite : w.write e.data e.wireLength e.time = (.ok (), (w.write e.data e.wireLength e.time).2) :=
      Prod.ext hok rfl
    refine ⟨out, ?_, hdone⟩
    rw [writeAll, hwrite]
    exact hout

lemma exists_written {sink : Sink} (hr : sink.room = none) {snapLength : UInt32} (link : LinkType)
    {entries : List Entry} (h : ∀ e ∈ entries, e.time.Rounds ∧ e.data.length ≤ snapLength.toNat ∧
      e.time.micros < 0x1_0000_0000 * 1_000_000) :
    ∃ w out, (ofSink sink snapLength link).writeAll entries = .ok w ∧ w.close = (.ok (), out) ∧
      out.accepted = sink.accepted ++ fileHeader snapLength link ++ entries.flatMap Entry.bytes := by
  have hroom : (ofSink sink snapLength link).output.sink.room = none := by rw [ofSink_output]; exact hr
  obtain ⟨w, hw, hdone⟩ := writeAll_unbounded hroom h
  have hclose : w.close = (.ok (), w.close.2) := Prod.ext (close_unbounded hdone) rfl
  obtain ⟨hcontents, -⟩ := writeAll_contents (fun e he => (h e he).1) hw
  refine ⟨w, w.close.2, hw, hclose, ?_⟩
  rw [close_accepted hclose, hcontents, contents_ofSink]

end Writer

end CaptureSieve
