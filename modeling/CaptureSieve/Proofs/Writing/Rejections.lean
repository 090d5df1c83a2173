import CaptureSieve.Proofs.Writing.Words

/-!
A writer some of whose calls are rejected. What it leaves in a sink without a limit is the capture of the other records.
-/

namespace CaptureSieve

namespace Entry

/-- What is written of a record, whatever its time. -/
def written (e : Entry) : List UInt8 :=
  recordHeader e.time.roundedMicros.1 e.time.roundedMicros.2 e.data.length e.wireLength ++ e.data

structure Encoded (e : Entry) (bytes : List UInt8) : Prop where
  length : bytes.length = e.size
  seconds : ByteOrder.little.word32 bytes 0 = e.time.roundedMicros.1
  micros : ByteOrder.little.word32 bytes 4 = e.time.roundedMicros.2
  captured : ByteOrder.little.word32 bytes 8 = e.data.length
  wireLength : ByteOrder.little.word32 bytes 12 = e.wireLength.toNat
  data : bytes.drop 16 = e.data

def extent : List Entry → Nat
  | [] => 0
  | e :: rest => e.size + extent rest

@[simp] lemma length_written (e : Entry) : e.written.length = e.size := by simp [written, size]

lemma length_flatMap_written (entries : List Entry) : (entries.flatMap written).length = extent entries := by
  induction entries with
  | nil => rfl
  | cons e rest ih => rw [List.flatMap_cons, List.length_append, length_written, ih, extent]

lemma encoded_written {e : Entry} (hlength : e.data.length < 0x1_0000_0000)
    (hseconds : e.time.roundedMicros.1 < 0x1_0000_0000) : e.Encoded e.written := by
  have hmicros : e.time.roundedMicros.2 < 0x1_0000_0000 := micros_lt e
  constructor
  · exact length_written e
  · rw [written, seconds_recordHeader _ hseconds]
  · rw [written, micros_recordHeader _ hmicros]
  · rw [written, captured_recordHeader _ hlength]
  · rw [written, wireLength_recordHeader]
  · exact List.drop_left' (Writer.length_recordHeader ..)

end Entry

inductive WriteError.Rejects (e : Entry) (snapLength : UInt32) : WriteError → Prop
  | tooLarge (h : snapLength.toNat < e.data.length) :
      Rejects e snapLength (.recordTooLarge e.data.length snapLength.toNat)
  | outOfRange (h : 0x1_0000_0000 ≤ e.time.roundedMicros.1) : Rejects e snapLength (.timeOutOfRange e.time)

namespace Writer

def calls (w : Writer) : List Entry → List (Entry × Except WriteError Unit)
  | [] => []
  | e :: rest => (e, (w.write e.data e.wireLength e.time).1) :: calls (w.write e.data e.wireLength e.time).2 rest

def after (w : Writer) (entries : List Entry) : Writer :=
  entries.foldl (fun w e => (w.write e.data e.wireLength e.time).2) w

def accepted (calls : List (Entry × Except WriteError Unit)) : List Entry :=
  calls.filterMap fun (e, answer) => answer.toOption.map fun _ => e

structure Made (w : Writer) (calls : List (Entry × Except WriteError Unit)) (v : Writer) : Prop where
  contents : v.contents = w.contents ++ (accepted calls).flatMap Entry.written
  records : v.records = w.records + (accepted calls).length
  encoded : ∀ e ∈ accepted calls, e.Encoded e.written
  rejected : ∀ e err, (e, .error err) ∈ calls → err.Rejects e w.snapLength
  snapLength : v.snapLength = w.snapLength
  room : v.output.sink.room = none

variable {w v u : Writer} {calls later : List (Entry × Except WriteError Unit)}

lemma accepted_append (calls later : List (Entry × Except WriteError Unit)) :
    accepted (calls ++ later) = accepted calls ++ accepted later :=
  List.filterMap_append

lemma Made.trans (h : Made w calls v) (h' : Made v later u) : Made w (calls ++ later) u where
  contents := by rw [h'.contents, h.contents, accepted_append, List.flatMap_append, List.append_assoc]
  records := by rw [h'.records, h.records, accepted_append, List.length_append, Nat.add_assoc]
  encoded e he := by
    rw [accepted_append] at he
    exact (List.mem_append.mp he).elim (h.encoded e) (h'.encoded e)
  rejected e err he := by
    rcases List.mem_append.mp he with he | he
    · exact h.rejected e err he
    · exact h.snapLength ▸ h'.rejected e err he
  snapLength := h'.snapLength.trans h.snapLength
  room := h'.room

lemma timeFields_cases (snapLength : UInt32) (e : Entry) :
    e.Encoded e.written ∧ timeFields snapLength e.data.length e.time = .ok e.time.roundedMicros ∨
      ∃ err : WriteError, err.Rejects e snapLength ∧ timeFields snapLength e.data.length e.time = .error err := by
  rw [timeFields]
  by_cases hlong : snapLength.toNat < e.data.length
  · rw [if_pos hlong]
    exact .inr ⟨_, .tooLarge hlong, rfl⟩
  rw [if_neg hlong]
  have hlength : e.data.length < 0x1_0000_0000 := Nat.lt_of_le_of_lt (Nat.not_lt.mp hlong) snapLength.toNat_lt
  by_cases hseconds : e.time.roundedMicros.1 < 0x1_0000_0000
  · exact .inl ⟨Entry.encoded_written hlength hseconds, if_pos hseconds⟩
  · exact .inr ⟨_, .outOfRange (Nat.not_lt.mp hseconds), if_neg hseconds⟩

lemma made_nil (hr : w.output.sink.room = none) : Made w [] w := by constructor <;> simp [accepted, hr]

lemma made_write (hr : w.output.sink.room = none) (e : Entry) :
    Made w [(e, (w.write e.data e.wireLength e.time).1)] (w.write e.data e.wireLength e.time).2 := by
  rcases timeFields_cases w.snapLength e with ⟨hencoded, hfields⟩ | ⟨err, hrejects, hfields⟩
  · obtain ⟨hok, hroom⟩ := @write_unbounded w e.data e.wireLength e.time _ _ hfields hr
    obtain ⟨hcontents, hsnap⟩ := write_contents hfields hok
    obtain ⟨hheader, hdata⟩ := puts_of_write hfields hok
    have haccepted : accepted [(e, (w.write e.data e.wireLength e.time).1)] = [e] := by
      rw [hok]
      rfl
    constructor
    · rw [hcontents, haccepted, List.flatMap_singleton]
      rfl
    · rw [haccepted, write_of_puts hfields hheader hdata]
      rfl
    · rw [haccepted]
      simpa using hencoded
    · simp [hok]
    · exact hsnap
    · exact hroom
  · -- A rejected call has touched nothing.
    rw [write_of_rejected hfields]
    obtain ⟨hcontents, hrecords, hencoded, -, hsnap, hroom⟩ := made_nil hr
    refine ⟨hcontents, hrecords, hencoded, ?_, hsnap, hroom⟩
    rintro d err' hmem
    obtain ⟨rfl, rfl⟩ : d = e ∧ err' = err := by simpa using hmem
    exact hrejects

lemma made_after (entries : List Entry) (hr : w.output.sink.room = none) :
    Made w (w.calls entries) (w.after entries) := by
  induction entries generalizing w with
  | nil => exact made_nil hr
  | cons e rest ih =>
    have hfirst := made_write hr e
    exact hfirst.trans (ih hfirst.room)

structure Intact (sink : Sink) (snapLength : UInt32) (link : LinkType) (entries : List Entry) : Prop where
  rejected : ∀ e err, (e, .error err) ∈ (ofSink sink snapLength link).calls entries → err.Rejects e snapLength
  records : ((ofSink sink snapLength link).after entries).records =
    (accepted ((ofSink sink snapLength link).calls entries)).length
  encoded : ∀ e ∈ accepted ((ofSink sink snapLength link).calls entries), e.Encoded e.written
  begins : Begins snapLength link (fileHeader snapLength link ++
    (accepted ((ofSink sink snapLength link).calls entries)).flatMap Entry.written)
  closed : ∃ out, ((ofSink sink snapLength link).after entries).close = (.ok (), out) ∧
    out.accepted = sink.accepted ++ (fileHeader snapLength link ++
      (accepted ((ofSink sink snapLength link).calls entries)).flatMap Entry.written) ∧
    out.accepted.length = sink.accepted.length +
      (24 + Entry.extent (accepted ((ofSink sink snapLength link).calls entries)))

theorem intact_of_rejections {sink : Sink} (hr : sink.room = none) (snapLength : UInt32) (link : LinkType)
    (entries : List Entry) : Intact sink snapLength link entries := by
  have hroom : (ofSink sink snapLength link).output.sink.room = none := by rw [ofSink_output]; exact hr
  obtain ⟨hcontents, hrecords, hencoded, hrejected, -, hdone⟩ := made_after entries hroom
  refine ⟨hrejected, hrecords.trans (Nat.zero_add _), hencoded, begins_fileHeader snapLength link _, ?_⟩
  have hclose : ((ofSink sink snapLength link).after entries).close =
      (.ok (), ((ofSink sink snapLength link).after entries).close.2) :=
    Prod.ext (close_unbounded hdone) rfl
  have hout := close_accepted hclose
  rw [hcontents, contents_ofSink, List.append_assoc] at hout
  refine ⟨_, hclose, hout, ?_⟩
  rw [hout, List.length_append, List.length_append, length_fileHeader, Entry.length_flatMap_written]

-- The second is too large and the third too late; the time of the fourth is rounded up to two seconds.
def fourCalls : List Entry :=
  [⟨.epoch, 60, [1, 2, 3]⟩, ⟨.epoch, 60, [1, 2, 3, 4, 5]⟩, ⟨⟨4_294_967_296_000_000_000, by decide⟩, 60, [4]⟩,
    ⟨⟨1_999_999_999, by decide⟩, 9, [5, 6, 7, 8]⟩]

theorem intact_of_fourCalls :
    let w := ofSink .unbounded 4 .raw
    (w.after fourCalls).records = 2 ∧ ∃ out, (w.after fourCalls).close = (.ok (), out) ∧
      out.accepted = fileHeader 4 .raw ++ (recordHeader 0 0 3 60 ++ [1, 2, 3] ++
        (recordHeader 2 0 4 9 ++ [5, 6, 7, 8])) := by
  intro w
  have hroom : Sink.unbounded.room = none := rfl
  obtain ⟨-, hrecords, -, -, out, hclose, hout, -⟩ := intact_of_rejections hroom 4 .raw fourCalls
  have haccepted : accepted (w.calls fourCalls) =
      [⟨.epoch, 60, [1, 2, 3]⟩, ⟨⟨1_999_999_999, by decide⟩, 9, [5, 6, 7, 8]⟩] := by
    decide +kernel
  rw [haccepted] at hrecords hout
  exact ⟨hrecords, out, hclose, hout⟩

end Writer

end CaptureSieve
