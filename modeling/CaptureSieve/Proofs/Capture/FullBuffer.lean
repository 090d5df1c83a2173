import CaptureSieve.Proofs.Capture.Entries

/-!
Fetching a frame from intakes that hold different parts of the same bytes. The outcomes differ only for a frame that
is exactly as large as the buffer: one byte before it is whole, a full buffer is foreseen and the frame refused.
-/

namespace CaptureSieve

variable {α σ : Type}

def Scan.settled? {available : Nat} : Scan available α → Option (Except Fault (α × Nat))
  | found value size _ _ => some (.ok (value, size))
  | missing _ => none
  | faulty fault => some (.error fault)

namespace Scan

variable {available : Nat} {scan : Scan available α}

lemma eq_found {value : α} {size : Nat} (h : scan.settled? = some (.ok (value, size))) :
    ∃ hpos hle, scan = .found value size hpos hle := by
  cases scan with
  | found v n hpos hle =>
    obtain ⟨rfl, rfl⟩ : v = value ∧ n = size := by simpa [settled?] using h
    exact ⟨hpos, hle, rfl⟩
  | missing => simp [settled?] at h
  | faulty => simp [settled?] at h

lemma eq_faulty {fault : Fault} (h : scan.settled? = some (.error fault)) : scan = .faulty fault := by
  cases scan with
  | found => simp [settled?] at h
  | missing => simp [settled?] at h
  | faulty f =>
    obtain rfl : f = fault := by simpa [settled?] using h
    rfl

lemma eq_missing (h : scan.settled? = none) : ∃ count, scan = .missing count := by
  cases scan with
  | missing count => exact ⟨count, rfl⟩
  | found => simp [settled?] at h
  | faulty => simp [settled?] at h

end Scan

/-- What the same bytes show as more and more of them are there: once settled it stays so, and what the buffer has
no room for never comes to fit below its size. -/
structure Steady (f : (available : Nat) → Scan available α) : Prop where
  keeps : ∀ {a b result}, (f a).settled? = some result → a ≤ b → (f b).settled? = some result
  refuses : ∀ {a b count}, f a = .missing count → bufferSize ≤ a + count → a ≤ b → b < bufferSize →
    ∃ more, f b = .missing more ∧ bufferSize ≤ b + more

namespace Steady

variable {f : (available : Nat) → Scan available α}

lemma faulty (fault : Fault) : Steady fun _ => (.faulty fault : Scan _ α) where
  keeps h _ := h
  refuses h := by simp at h

lemma missing (count : Nat) : Steady fun _ => (.missing count : Scan _ α) where
  keeps h := by simp [Scan.settled?] at h
  refuses h hfull hle _ := by
    obtain rfl := Scan.missing.inj h
    exact ⟨_, rfl, by omega⟩

lemma found (value : α) {size : Nat} (hpos : 0 < size) :
    Steady fun available =>
      if h : available < size then .missing (size - available) else .found value size hpos (Nat.not_lt.mp h) where
  keeps {a b result} h hle := by
    have ha : ¬ a < size := by
      intro hlt
      simp [hlt, Scan.settled?] at h
    have hb : ¬ b < size := by omega
    simpa only [ha, hb, dite_false, Scan.settled?] using h
  refuses {a b count} h hfull hle hlt := by
    have ha : a < size := by
      by_contra hge
      simp [hge] at h
    simp only [ha, dite_true, Scan.missing.injEq] at h
    have hb : b < size := by omega
    exact ⟨size - b, dif_pos hb, by omega⟩

lemma behind (h : Steady f) (size : Nat) :
    Steady fun available => if available < size then .missing (size - available) else f available where
  keeps {a b result} hs hle := by
    have ha : ¬ a < size := by
      intro hlt
      simp [hlt, Scan.settled?] at hs
    have hb : ¬ b < size := by omega
    simp only [ha, hb, if_false] at hs ⊢
    exact h.keeps hs hle
  refuses {a b count} hs hfull hle hlt := by
    by_cases ha : a < size
    · simp only [ha, if_true, Scan.missing.injEq] at hs
      have hb : b < size := by omega
      exact ⟨size - b, if_pos hb, by omega⟩
    · have hb : ¬ b < size := by omega
      simp only [ha, hb, if_false] at hs ⊢
      exact h.refuses hs hfull hle hlt

end Steady

lemma Pcap.FileHeader.steady_frame (h : FileHeader) (bytes : List UInt8) : Steady (h.frame bytes) := by
  apply Steady.behind
  apply Steady.found

namespace Pcapng

lemma steady_blockFrame (order : ByteOrder) (code : Nat) (bytes : List UInt8) :
    Steady (blockFrame order code bytes) := by
  apply Steady.behind
  by_cases hsize : order.word32 bytes 4 < leastSize code
  · simp only [hsize, dite_true]
    exact .faulty _
  simp only [hsize, dite_false]
  apply Steady.behind
  cases hbody : body order code ((bytes.drop 8).take (order.word32 bytes 4 - 12)) with
  | malformed => exact (Steady.faulty _).behind _
  | missing count => exact (Steady.missing _).behind _
  | block b =>
    by_cases hrepeat : repeatsSize code ∧ order.word32 bytes (order.word32 bytes 4 - 4) ≠ order.word32 bytes 4
    · simp only [if_pos hrepeat]
      exact (Steady.faulty _).behind _
    · have hpos : 0 < order.word32 bytes 4 := by
        have := leastSize_pos code
        omega
      simp only [if_neg hrepeat]
      exact Steady.found b hpos

lemma steady_sectionFrame (bytes : List UInt8) : Steady (sectionFrame bytes) := by
  apply Steady.behind
  split
  · exact steady_blockFrame ..
  · split
    · exact steady_blockFrame ..
    · exact .faulty _

lemma State.steady_frame (s : State) (bytes : List UInt8) : Steady (s.frame bytes) := by
  apply Steady.behind
  dsimp only
  split
  · exact steady_sectionFrame bytes
  · exact steady_blockFrame ..

end Pcapng

def window (bytes : List UInt8) : Nat := min bytes.length bufferSize

namespace Framing

/-- What stands at the front is settled by the very byte that fills the buffer. -/
def FillsBuffer (scan : Framing α) (bytes : List UInt8) : Prop :=
  bufferSize ≤ bytes.length ∧ (scan bytes (bufferSize - 1)).settled? = none ∧
    (scan bytes bufferSize).settled? ≠ none

variable {scan : Framing α} {bytes : List UInt8}

lemma refused_in_window (hscan : Steady (scan bytes)) (hfree : ¬ FillsBuffer scan bytes) {available count : Nat}
    (hmissing : scan bytes available = .missing count) (hfull : bufferSize ≤ available + count)
    (hle : available ≤ window bytes) :
    ∃ more, scan bytes (window bytes) = .missing more ∧ bufferSize ≤ window bytes + more := by
  by_cases hshort : window bytes < bufferSize
  · exact hscan.refuses hmissing hfull hle hshort
  have hwindow : window bytes = bufferSize := by
    simp only [window] at hshort ⊢
    omega
  have hlength : bufferSize ≤ bytes.length := by
    simp only [window] at hshort
    omega
  rw [hwindow] at hle ⊢
  have hsettled : (scan bytes bufferSize).settled? = none := by
    by_cases hlast : available = bufferSize
    · rw [← hlast, hmissing]
      rfl
    · have hbefore : bufferSize - 1 < bufferSize := by decide
      obtain ⟨more, hmore, -⟩ := hscan.refuses hmissing hfull (by omega) hbefore
      by_contra hne
      exact hfree ⟨hlength, by rw [hmore]; rfl, hne⟩
  obtain ⟨more, hmore⟩ := Scan.eq_missing hsettled
  exact ⟨more, hmore, Nat.le_add_right _ _⟩

end Framing

namespace Intake

structure InStep (s t : Intake) : Prop where
  rest : s.rest = t.rest
  ending : s.ending = t.ending
  room : s.buffered ≤ bufferSize
  room' : t.buffered ≤ bufferSize

lemma InStep.symm {s t : Intake} (h : s.InStep t) : t.InStep s := ⟨h.rest.symm, h.ending.symm, h.room', h.room⟩

lemma InStep.trans {s t u : Intake} (h : s.InStep t) (h' : t.InStep u) : s.InStep u :=
  ⟨h.rest.trans h'.rest, h.ending.trans h'.ending, h.room, h'.room'⟩

end Intake

inductive Fetched.InStep : Fetched α → Fetched α → Prop
  | frame (value : α) {s t : Intake} (h : s.InStep t) : InStep (.frame value s) (.frame value t)
  | finished : InStep .finished .finished
  | truncated : InStep .truncated .truncated
  | failed (fault : Fault) {s t : Intake} (h : s.InStep t) : InStep (.failed fault s) (.failed fault t)

namespace Fetched.InStep

lemma symm {x y : Fetched α} (h : x.InStep y) : y.InStep x := by
  cases h with
  | frame value h => exact .frame value h.symm
  | finished => exact .finished
  | truncated => exact .truncated
  | failed fault h => exact .failed fault h.symm

lemma trans {x y z : Fetched α} (h : x.InStep y) (h' : y.InStep z) : x.InStep z := by
  cases h with
  | frame value h =>
    cases h' with
    | frame _ h' => exact .frame value (h.trans h')
  | finished => exact h'
  | truncated => exact h'
  | failed fault h =>
    cases h' with
    | failed _ h' => exact .failed fault (h.trans h')

end Fetched.InStep

namespace Intake

def afresh (s : Intake) : Intake := filled ⟨s.rest, s.ending, fun _ => 1⟩

lemma buffered_afresh (s : Intake) : s.afresh.buffered = window s.rest := rfl

lemma inStep_afresh {s : Intake} (h : s.buffered ≤ bufferSize) : s.InStep s.afresh :=
  ⟨rfl, rfl, h, Nat.min_le_right _ _⟩

lemma InStep.afresh_eq {s t : Intake} (h : s.InStep t) : s.afresh = t.afresh := by
  simp only [afresh, h.rest, h.ending]

lemma buffered_le_window {s : Intake} (h : s.buffered ≤ bufferSize) : s.buffered ≤ window s.rest := by
  have hlength := s.length_rest
  simp only [window]
  omega

lemma InStep.consume {s t : Intake} (h : s.InStep t) {size : Nat} (hs : size ≤ s.buffered) (ht : size ≤ t.buffered) :
    (s.consume size).InStep (t.consume size) where
  rest := by simp only [Intake.consume, Nat.min_eq_left hs, Nat.min_eq_left ht, h.rest]
  ending := h.ending
  room := Nat.le_trans (Nat.sub_le _ _) h.room
  room' := Nat.le_trans (Nat.sub_le _ _) h.room'

lemma readMore_le {s : Intake} (h : s.buffered ≤ bufferSize) : s.readMore.buffered ≤ bufferSize := by
  simp only [readMore]
  omega

variable {scan : Framing α} {s : Intake}

lemma fetch_of_found {value : α} {size : Nat} {hpos : 0 < size} {hle : size ≤ s.buffered}
    (h : scan s.rest s.buffered = .found value size hpos hle) : s.fetch scan = .frame value (s.consume size) := by
  rw [fetch, h]

lemma fetch_of_faulty {fault : Fault} (h : scan s.rest s.buffered = .faulty fault) :
    s.fetch scan = .failed fault s := by
  rw [fetch, h]

lemma fetch_of_full {count : Nat} (h : scan s.rest s.buffered = .missing count)
    (hfull : bufferSize ≤ s.buffered + count) : s.fetch scan = .failed .bufferFull s := by
  rw [fetch, h]
  exact dif_pos hfull

lemma fetch_of_more {count : Nat} (h : scan s.rest s.buffered = .missing count)
    (hroom : ¬ bufferSize ≤ s.buffered + count) (hmore : 0 < s.unread) : s.fetch scan = s.readMore.fetch scan := by
  rw [fetch, h]
  exact (dif_neg hroom).trans (dif_pos hmore)

lemma fetch_of_end {count : Nat} (h : scan s.rest s.buffered = .missing count)
    (hroom : ¬ bufferSize ≤ s.buffered + count) (hdone : ¬ 0 < s.unread) :
    s.fetch scan = match s.ending with
      | .broken _ => .failed .readFailed s
      | .closed => if s.buffered = 0 then .finished else .truncated := by
  rw [fetch, h]
  refine (dif_neg hroom).trans ((dif_neg hdone).trans ?_)
  cases s.ending <;> rfl

lemma window_of_read (hs : s.buffered ≤ bufferSize) (hdone : ¬ 0 < s.unread) : window s.rest = s.buffered := by
  have hlength := s.length_rest
  simp only [window]
  omega

lemma fetch_afresh_of_end (hs : s.buffered ≤ bufferSize) {count : Nat}
    (h : scan s.rest s.buffered = .missing count) (hroom : ¬ bufferSize ≤ s.buffered + count)
    (hdone : ¬ 0 < s.unread) :
    s.afresh.fetch scan = match s.ending with
      | .broken _ => .failed .readFailed s.afresh
      | .closed => if s.buffered = 0 then .finished else .truncated := by
  have hwindow := window_of_read hs hdone
  have hunread : ¬ 0 < s.afresh.unread := by
    have hlength := s.length_rest
    simp only [afresh, filled]
    omega
  have hmissing : scan s.afresh.rest s.afresh.buffered = .missing count := by
    rw [buffered_afresh, hwindow]
    exact h
  rw [← hwindow] at hroom ⊢
  exact fetch_of_end hmissing hroom hunread

lemma fetch_afresh (hscan : Steady (scan s.rest)) (hfree : ¬ scan.FillsBuffer s.rest) (hs : s.buffered ≤ bufferSize) :
    (s.fetch scan).InStep (s.afresh.fetch scan) := by
  fun_induction fetch scan s with
  | case1 s value size pos le hfound =>
    have hsettled := hscan.keeps (by rw [hfound]; rfl) (buffered_le_window hs)
    obtain ⟨hpos, hle, hwindow⟩ := Scan.eq_found hsettled
    have hfetch : s.afresh.fetch scan = .frame value (s.afresh.consume size) := fetch_of_found hwindow
    rw [hfetch]
    exact .frame value ((inStep_afresh hs).consume le hle)
  | case2 s fault hfaulty =>
    have hsettled := hscan.keeps (by rw [hfaulty]; rfl) (buffered_le_window hs)
    have hfetch : s.afresh.fetch scan = .failed fault s.afresh := fetch_of_faulty (Scan.eq_faulty hsettled)
    rw [hfetch]
    exact .failed fault (inStep_afresh hs)
  | case3 s count hmissing hfull =>
    obtain ⟨more, hmore, hmorefull⟩ := Framing.refused_in_window hscan hfree hmissing hfull (buffered_le_window hs)
    have hfetch : s.afresh.fetch scan = .failed .bufferFull s.afresh := fetch_of_full hmore hmorefull
    rw [hfetch]
    exact .failed .bufferFull (inStep_afresh hs)
  | case4 s count hmissing room more ih => exact ih hscan hfree (readMore_le hs)
  | case5 s count hmissing room done reason hending =>
    rw [fetch_afresh_of_end hs hmissing room done, hending]
    exact .failed .readFailed (inStep_afresh hs)
  | case6 s count hmissing room done hending hempty =>
    rw [fetch_afresh_of_end hs hmissing room done, hending]
    simp only [hempty, if_true]
    exact .finished
  | case7 s count hmissing room done hending hsome =>
    rw [fetch_afresh_of_end hs hmissing room done, hending]
    simp only [hsome, if_false]
    exact .truncated

lemma fetch_inStep {t : Intake} (h : s.InStep t) (hscan : Steady (scan s.rest)) (hfree : ¬ scan.FillsBuffer s.rest) :
    (s.fetch scan).InStep (t.fetch scan) := by
  have hs := fetch_afresh hscan hfree h.room
  have ht := @fetch_afresh _ scan t (h.rest ▸ hscan) (h.rest ▸ hfree) h.room'
  rw [← h.afresh_eq] at ht
  exact hs.trans ht.symm

lemma frame_of_fetch (hscan : Steady (scan s.rest)) (hs : s.buffered ≤ bufferSize) {value : α} {next : Intake}
    (h : s.fetch scan = .frame value next) :
    ∃ size hpos hle, scan s.rest (window s.rest) = .found value size hpos hle ∧ next.rest = s.rest.drop size := by
  fun_induction fetch scan s with
  | case1 s v size pos le hfound =>
    obtain ⟨rfl, rfl⟩ := Fetched.frame.inj h
    have hsettled := hscan.keeps (by rw [hfound]; rfl) (buffered_le_window hs)
    obtain ⟨hpos, hle, hwindow⟩ := Scan.eq_found hsettled
    refine ⟨size, hpos, hle, hwindow, ?_⟩
    simp only [Intake.consume, Nat.min_eq_left le]
  | case4 s count hmissing room more ih => exact ih hscan (readMore_le hs) h
  | case2 => simp at h
  | case3 => simp at h
  | case5 => simp at h
  | case6 => simp at h
  | case7 => simp at h

lemma rest_of_failed {fault : Fault} {t : Intake} (h : s.fetch scan = .failed fault t) : t.rest = s.rest := by
  fun_induction fetch scan s with
  | case1 => simp at h
  | case2 => exact congrArg rest (Fetched.failed.inj h).2.symm
  | case3 => exact congrArg rest (Fetched.failed.inj h).2.symm
  | case4 s count hmissing room more ih => exact ih h
  | case5 => exact congrArg rest (Fetched.failed.inj h).2.symm
  | case6 => simp at h
  | case7 => simp at h

end Intake

inductive NeverFills (scan : σ → Framing α) (after : σ → α → σ) : σ → List UInt8 → Prop
  | intro {state : σ} {bytes : List UInt8} (free : ¬ (scan state).FillsBuffer bytes)
      (later : ∀ {value size hpos hle}, scan state bytes (window bytes) = .found value size hpos hle →
        NeverFills scan after (after state value) (bytes.drop size)) :
      NeverFills scan after state bytes

namespace NeverFills

variable {scan : σ → Framing α} {after : σ → α → σ} {state : σ} {bytes : List UInt8}

lemma free (h : NeverFills scan after state bytes) : ¬ (scan state).FillsBuffer bytes := by
  cases h
  assumption

lemma fetch_cases {s t : Intake} (h : NeverFills scan after state s.rest) (hscan : Steady (scan state s.rest))
    (hst : s.InStep t) :
    (∃ value a b, s.fetch (scan state) = .frame value a ∧ t.fetch (scan state) = .frame value b ∧ a.InStep b ∧
      NeverFills scan after (after state value) a.rest) ∨
    (s.fetch (scan state) = .finished ∧ t.fetch (scan state) = .finished) ∨
    (s.fetch (scan state) = .truncated ∧ t.fetch (scan state) = .truncated) ∨
    ∃ fault a b, s.fetch (scan state) = .failed fault a ∧ t.fetch (scan state) = .failed fault b ∧ a.InStep b ∧
      NeverFills scan after state a.rest := by
  have hfetch := Intake.fetch_inStep hst hscan h.free
  generalize hs : s.fetch (scan state) = x at hfetch ⊢
  generalize t.fetch (scan state) = y at hfetch ⊢
  cases hfetch with
  | frame value hab =>
    obtain ⟨size, hpos, hle, hfound, hrest⟩ := Intake.frame_of_fetch hscan hst.room hs
    obtain ⟨-, later⟩ := h
    exact .inl ⟨value, _, _, rfl, rfl, hab, hrest ▸ later hfound⟩
  | finished => exact .inr (.inl ⟨rfl, rfl⟩)
  | truncated => exact .inr (.inr (.inl ⟨rfl, rfl⟩))
  | failed fault hab =>
    have hrest := Intake.rest_of_failed hs
    exact .inr (.inr (.inr ⟨fault, _, _, rfl, rfl, hab, hrest ▸ h⟩))

lemma of_short (h : bytes.length < bufferSize) : NeverFills scan after state bytes := by
  induction hn : bytes.length using Nat.strongRecOn generalizing state bytes with
  | ind n ih =>
    refine .intro (fun hfills => Nat.not_lt.mpr hfills.1 h) fun {value size hpos hle} _ => ?_
    have hless : (bytes.drop size).length < bytes.length := by
      simp only [window] at hle
      rw [List.length_drop]
      omega
    exact ih _ (hn ▸ hless) (Nat.lt_trans hless h) rfl

end NeverFills

end CaptureSieve
