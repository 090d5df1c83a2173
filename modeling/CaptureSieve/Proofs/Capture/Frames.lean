import CaptureSieve.Proofs.Capture.FullBuffer

/-!
The frames that bytes are made of, whatever buffer they are read through. Bytes that are cut short have the same frames
up to the cut. A frame that is there is fetched, and of a part of one the reading ends softly; only a frame exactly as
large as the buffer is refused for want of its last byte.
-/

namespace CaptureSieve

variable {α : Type}

lemma slice_take {i n k : Nat} (h : i + n ≤ k) (bytes : List UInt8) :
    ((bytes.take k).drop i).take n = (bytes.drop i).take n := by
  rw [List.drop_take, List.take_take, Nat.min_eq_left (by omega)]

def Framing.Near (f : Framing α) : Prop :=
  ∀ (bytes : List UInt8) {available k : Nat}, available ≤ k → f (bytes.take k) available = f bytes available

/-- A frame of no fewer than `least` bytes is found once it is there, and a part of it asks for no more than what is left
of it. -/
structure Tight (least : Nat) (f : (available : Nat) → Scan available α) : Prop where
  least_le : ∀ {a value size}, (f a).settled? = some (.ok (value, size)) → least ≤ size
  whole : ∀ {a value size}, (f a).settled? = some (.ok (value, size)) →
    ∀ {b}, size ≤ b → (f b).settled? = some (.ok (value, size))
  part : ∀ {a value size}, (f a).settled? = some (.ok (value, size)) →
    ∀ {b}, b < size → ∃ count, f b = .missing count ∧ 0 < count ∧ b + count ≤ size

namespace Tight

variable {least : Nat} {f : (available : Nat) → Scan available α}

lemma mono (h : Tight least f) {less : Nat} (hle : less ≤ least) : Tight less f :=
  ⟨fun hs => Nat.le_trans hle (h.least_le hs), h.whole, h.part⟩

lemma faulty (least : Nat) (fault : Fault) : Tight least fun _ => (.faulty fault : Scan _ α) := by
  constructor <;> simp [Scan.settled?]

lemma missing (least count : Nat) : Tight least fun _ => (.missing count : Scan _ α) := by
  constructor <;> simp [Scan.settled?]

lemma found (value : α) {size : Nat} (hpos : 0 < size) :
    Tight size fun available =>
      if h : available < size then .missing (size - available) else .found value size hpos (Nat.not_lt.mp h) := by
  have hfound : ∀ {a v n}, Scan.settled? (if h : a < size then .missing (size - a) else
      .found value size hpos (Nat.not_lt.mp h)) = some (.ok (v, n)) → v = value ∧ n = size := by
    intro a v n hs
    split at hs
    · simp [Scan.settled?] at hs
    · obtain ⟨rfl, rfl⟩ : value = v ∧ size = n := by simpa [Scan.settled?] using hs
      exact ⟨rfl, rfl⟩
  constructor
  · intro a v n hs
    exact Nat.le_of_eq (hfound hs).2.symm
  · intro a v n hs b hle
    obtain ⟨rfl, rfl⟩ := hfound hs
    simp only [Nat.not_lt.mpr hle, dite_false, Scan.settled?]
  · intro a v n hs b hlt
    obtain ⟨rfl, rfl⟩ := hfound hs
    exact ⟨n - b, dif_pos hlt, by omega, by omega⟩

lemma behind (h : Tight least f) {size : Nat} (hsize : size ≤ least) :
    Tight least fun available => if available < size then .missing (size - available) else f available := by
  have hreach : ∀ {a result}, Scan.settled? (if a < size then .missing (size - a) else f a) = some result →
      (f a).settled? = some result := by
    intro a result hs
    split at hs
    · simp [Scan.settled?] at hs
    · exact hs
  constructor
  · intro a v n hs
    exact h.least_le (hreach hs)
  · intro a v n hs b hle
    have hb : ¬ b < size := by
      have := h.least_le (hreach hs)
      omega
    rw [if_neg hb]
    exact h.whole (hreach hs) hle
  · intro a v n hs b hlt
    have hleast := h.least_le (hreach hs)
    by_cases hb : b < size
    · exact ⟨size - b, if_pos hb, by omega, by omega⟩
    · simp only [hb, if_false]
      exact h.part (hreach hs) hlt

end Tight

namespace Pcap.FileHeader

lemma tight_frame (h : FileHeader) (bytes : List UInt8) : Tight 0 (h.frame bytes) := by
  have hframe : Tight (h.magic.recordHeaderSize + h.magic.order.word32 bytes 8) (h.frame bytes) := by
    apply Tight.behind _ (Nat.le_add_right _ _)
    apply Tight.found
  exact hframe.mono (Nat.zero_le _)

lemma sixteen_le_recordHeaderSize (m : Magic) : 16 ≤ m.recordHeaderSize := by
  rw [Magic.recordHeaderSize]
  split <;> decide

lemma record_take (h : FileHeader) (bytes : List UInt8) {length k : Nat} (hk : h.magic.recordHeaderSize + length ≤ k) :
    h.record (bytes.take k) length = h.record bytes length := by
  have hhead := sixteen_le_recordHeaderSize h.magic
  simp only [record, slice_take hk, h.magic.order.word32_take (show 0 + 4 ≤ k by omega),
    h.magic.order.word32_take (show 4 + 4 ≤ k by omega), h.magic.order.word32_take (show 12 + 4 ≤ k by omega)]

lemma near_frame (h : FileHeader) : h.frame.Near := by
  intro bytes available k hk
  have hhead := sixteen_le_recordHeaderSize h.magic
  simp only [frame]
  by_cases hshort : available < h.magic.recordHeaderSize
  · simp only [hshort, if_true]
  have hword : h.magic.order.word32 (bytes.take k) 8 = h.magic.order.word32 bytes 8 :=
    h.magic.order.word32_take (by omega) bytes
  simp only [hshort, if_false, hword]
  split
  · rfl
  · next hwhole =>
    have hrecord := record_take h bytes (show h.magic.recordHeaderSize + h.magic.order.word32 bytes 8 ≤ k by omega)
    simp only [hrecord]

end Pcap.FileHeader

namespace Pcapng

lemma twelve_le_leastSize (code : Nat) : 12 ≤ leastSize code := by
  unfold leastSize
  repeat' split
  all_goals decide

lemma tight_blockFrame (order : ByteOrder) (code : Nat) (bytes : List UInt8) :
    Tight (leastSize code) (blockFrame order code bytes) := by
  by_cases hsize : order.word32 bytes 4 < leastSize code
  · apply Tight.behind _ (Nat.le_refl _)
    simp only [hsize, dite_true]
    exact .faulty _ _
  have hleast := Nat.not_lt.mp hsize
  suffices h : Tight (order.word32 bytes 4) (blockFrame order code bytes) from h.mono hleast
  apply Tight.behind _ hleast
  simp only [hsize, dite_false]
  apply Tight.behind _ (Nat.sub_le _ _)
  cases hbody : body order code ((bytes.drop 8).take (order.word32 bytes 4 - 12)) with
  | malformed => exact (Tight.faulty _ _).behind (Nat.le_refl _)
  | missing count => exact (Tight.missing _ _).behind (Nat.le_refl _)
  | block b =>
    by_cases hrepeat : repeatsSize code ∧ order.word32 bytes (order.word32 bytes 4 - 4) ≠ order.word32 bytes 4
    · simp only [if_pos hrepeat]
      exact (Tight.faulty _ _).behind (Nat.le_refl _)
    · have hpos : 0 < order.word32 bytes 4 := by
        have := leastSize_pos code
        omega
      simp only [if_neg hrepeat]
      exact Tight.found b hpos

lemma tight_sectionFrame (bytes : List UInt8) : Tight 12 (sectionFrame bytes) := by
  apply Tight.behind _ (Nat.le_refl _)
  split
  · exact (tight_blockFrame ..).mono (by decide)
  · split
    · exact (tight_blockFrame ..).mono (by decide)
    · exact .faulty _ _

lemma State.tight_frame (s : State) (bytes : List UInt8) : Tight 12 (s.frame bytes) := by
  apply Tight.behind _ (by decide)
  dsimp only
  split
  · exact tight_sectionFrame bytes
  · exact (tight_blockFrame ..).mono (twelve_le_leastSize _)

lemma near_blockFrame (order : ByteOrder) (code : Nat) : (blockFrame order code).Near := by
  intro bytes available k hk
  have htwelve := twelve_le_leastSize code
  simp only [blockFrame]
  by_cases hshort : available < leastSize code
  · simp only [hshort, if_true]
  have hword : order.word32 (bytes.take k) 4 = order.word32 bytes 4 := order.word32_take (by omega) bytes
  simp only [hshort, if_false, hword]
  split
  · rfl
  next hleast =>
  split
  · rfl
  split
  · rfl
  next hwhole =>
  have hcontent : ((bytes.take k).drop 8).take (order.word32 bytes 4 - 12) =
      (bytes.drop 8).take (order.word32 bytes 4 - 12) := slice_take (by omega) bytes
  have hrepeated : order.word32 (bytes.take k) (order.word32 bytes 4 - 4) =
      order.word32 bytes (order.word32 bytes 4 - 4) := order.word32_take (by omega) bytes
  simp only [hcontent, hrepeated]

lemma near_sectionFrame : sectionFrame.Near := by
  intro bytes available k hk
  simp only [sectionFrame]
  by_cases hshort : available < 12
  · simp only [hshort, if_true]
  have hlittle : ByteOrder.little.word32 (bytes.take k) 8 = ByteOrder.little.word32 bytes 8 :=
    ByteOrder.little.word32_take (by omega) bytes
  have hbig : ByteOrder.big.word32 (bytes.take k) 8 = ByteOrder.big.word32 bytes 8 :=
    ByteOrder.big.word32_take (by omega) bytes
  simp only [hshort, if_false, hlittle, hbig, near_blockFrame _ _ bytes hk]

lemma State.near_frame (s : State) : s.frame.Near := by
  intro bytes available k hk
  simp only [frame]
  by_cases hshort : available < 4
  · simp only [hshort, if_true]
  have hcode : s.order.word32 (bytes.take k) 0 = s.order.word32 bytes 0 := s.order.word32_take (by omega) bytes
  simp only [hshort, if_false, hcode, near_sectionFrame bytes hk, near_blockFrame _ _ bytes hk]

end Pcapng

namespace Intake

variable {α : Type} {scan : Framing α} {s : Intake}

lemma buffered_le_length (s : Intake) : s.buffered ≤ s.rest.length := by
  have := s.length_rest
  omega

lemma buffered_of_read (h : ¬ 0 < s.unread) : s.buffered = s.rest.length := by
  have := s.length_rest
  omega

lemma unread_of_settled {result : Except Fault (α × Nat)} (h : (scan s.rest s.rest.length).settled? = some result)
    {count : Nat} (hmissing : scan s.rest s.buffered = .missing count) : 0 < s.unread := by
  by_contra done
  rw [buffered_of_read done] at hmissing
  simp [hmissing, Scan.settled?] at h

lemma fetch_of_whole (hscan : Tight 0 (scan s.rest)) {value : α} {size : Nat}
    (h : (scan s.rest s.rest.length).settled? = some (.ok (value, size))) :
    (∃ next, s.fetch scan = .frame value next ∧ next.rest = s.rest.drop size) ∨
    ((∃ t, s.fetch scan = .failed .bufferFull t) ∧ bufferSize ≤ size) := by
  fun_induction fetch scan s with
  | case1 s v n pos le hfound =>
    have hwhole := hscan.whole (by rw [hfound]; rfl) (Nat.le_trans le (buffered_le_length s))
    obtain ⟨rfl, rfl⟩ : v = value ∧ n = size := by simpa using hwhole.symm.trans h
    refine .inl ⟨_, rfl, ?_⟩
    simp only [consume, Nat.min_eq_left le]
  | case2 s fault hfaulty =>
    rcases Nat.lt_or_ge s.buffered size with hlt | hge
    · obtain ⟨count, hmissing, -⟩ := hscan.part h hlt
      simp [hfaulty] at hmissing
    · have hwhole := hscan.whole h hge
      simp [hfaulty, Scan.settled?] at hwhole
  | case3 s count hmissing hfull =>
    rcases Nat.lt_or_ge s.buffered size with hlt | hge
    · obtain ⟨more, hmore, -, hle⟩ := hscan.part h hlt
      obtain rfl := Scan.missing.inj (hmissing.symm.trans hmore)
      exact .inr ⟨⟨s, rfl⟩, by omega⟩
    · have hwhole := hscan.whole h hge
      simp [hmissing, Scan.settled?] at hwhole
  | case4 s count hmissing room more ih => exact ih hscan h
  | case5 s count hmissing room done => exact absurd (unread_of_settled h hmissing) done
  | case6 s count hmissing room done => exact absurd (unread_of_settled h hmissing) done
  | case7 s count hmissing room done => exact absurd (unread_of_settled h hmissing) done

lemma fetch_of_part (hscan : Steady (scan s.rest)) (hclosed : s.ending = .closed) {count : Nat}
    (h : scan s.rest s.rest.length = .missing count) (hroom : s.rest.length + count < bufferSize) :
    s.fetch scan = if s.rest = [] then .finished else .truncated := by
  fun_induction fetch scan s with
  | case1 s v n pos le hfound =>
    have hkept := hscan.keeps (by rw [hfound]; rfl) (buffered_le_length s)
    simp [h, Scan.settled?] at hkept
  | case2 s fault hfaulty =>
    have hkept := hscan.keeps (by rw [hfaulty]; rfl) (buffered_le_length s)
    simp [h, Scan.settled?] at hkept
  | case3 s c hmissing hfull =>
    obtain ⟨more, hmore, hnever⟩ := hscan.refuses hmissing hfull (buffered_le_length s) (by omega)
    obtain rfl := Scan.missing.inj (h.symm.trans hmore)
    omega
  | case4 s c hmissing room more ih => exact ih hscan hclosed h hroom
  | case5 s c hmissing room done reason hending => simp [hclosed] at hending
  | case6 s c hmissing room done hending hempty =>
    rw [buffered_of_read done] at hempty
    rw [if_pos (List.length_eq_zero_iff.mp hempty)]
  | case7 s c hmissing room done hending hsome =>
    rw [buffered_of_read done] at hsome
    rw [if_neg (mt List.length_eq_zero_iff.mpr hsome)]

lemma full_of_read (hlength : s.rest.length + 1 = bufferSize) (done : ¬ 0 < s.unread) {count : Nat}
    (hpart : ∀ a ≤ s.rest.length, ∃ count, scan s.rest a = .missing count ∧ 0 < count)
    (hmissing : scan s.rest s.buffered = .missing count) : bufferSize ≤ s.buffered + count := by
  obtain ⟨more, hmore, hpos⟩ := hpart s.buffered (buffered_le_length s)
  obtain rfl := Scan.missing.inj (hmissing.symm.trans hmore)
  have := buffered_of_read done
  omega

lemma fetch_of_lacking (hlength : s.rest.length + 1 = bufferSize)
    (hpart : ∀ a ≤ s.rest.length, ∃ count, scan s.rest a = .missing count ∧ 0 < count) :
    ∃ t, s.fetch scan = .failed .bufferFull t := by
  fun_induction fetch scan s with
  | case1 s v n pos le hfound =>
    obtain ⟨count, hcount, -⟩ := hpart s.buffered (buffered_le_length s)
    simp [hfound] at hcount
  | case2 s fault hfaulty =>
    obtain ⟨count, hcount, -⟩ := hpart s.buffered (buffered_le_length s)
    simp [hfaulty] at hcount
  | case3 s c hmissing hfull => exact ⟨s, rfl⟩
  | case4 s c hmissing room more ih => exact ih hlength hpart
  | case5 s c hmissing room done => exact absurd (full_of_read hlength done hpart hmissing) room
  | case6 s c hmissing room done => exact absurd (full_of_read hlength done hpart hmissing) room
  | case7 s c hmissing room done => exact absurd (full_of_read hlength done hpart hmissing) room

lemma fetch_of_slow (hslow : ∀ o, s.readSize o ≤ 1) (hroom : s.buffered < bufferSize) (hscan : Tight 0 (scan s.rest))
    {value : α} (h : (scan s.rest s.rest.length).settled? = some (.ok (value, bufferSize))) :
    ∃ t, s.fetch scan = .failed .bufferFull t := by
  fun_induction fetch scan s with
  | case1 s v n pos le hfound =>
    obtain ⟨count, hcount, -⟩ := hscan.part h hroom
    simp [hfound] at hcount
  | case2 s fault hfaulty =>
    obtain ⟨count, hcount, -⟩ := hscan.part h hroom
    simp [hfaulty] at hcount
  | case3 s c hmissing hfull => exact ⟨s, rfl⟩
  | case4 s c hmissing room more ih =>
    obtain ⟨count, hcount, hpos, -⟩ := hscan.part h hroom
    obtain rfl := Scan.missing.inj (hmissing.symm.trans hcount)
    have hread : s.readSize s.offset ≤ 1 := hslow s.offset
    have hless : s.readMore.buffered < bufferSize := by
      simp only [readMore]
      omega
    exact ih hslow hless hscan h
  | case5 s c hmissing room done => exact absurd (unread_of_settled h hmissing) done
  | case6 s c hmissing room done => exact absurd (unread_of_settled h hmissing) done
  | case7 s c hmissing room done => exact absurd (unread_of_settled h hmissing) done

lemma whole_of_fetch (hscan : Steady (scan s.rest)) (hs : s.buffered ≤ bufferSize) {value : α} {next : Intake}
    (h : s.fetch scan = .frame value next) :
    ∃ size, (scan s.rest s.rest.length).settled? = some (.ok (value, size)) ∧ size ≤ bufferSize ∧
      next.rest = s.rest.drop size := by
  obtain ⟨size, hpos, hle, hfound, hrest⟩ := frame_of_fetch hscan hs h
  have hwindow : window s.rest ≤ s.rest.length := Nat.min_le_left _ _
  exact ⟨size, hscan.keeps (by rw [hfound]; rfl) hwindow, Nat.le_trans hle (Nat.min_le_right _ _), hrest⟩

lemma part_of_fetch (h : s.fetch scan = .finished ∨ s.fetch scan = .truncated) :
    s.ending = .closed ∧ ∃ count, scan s.rest s.rest.length = .missing count ∧ s.rest.length + count < bufferSize := by
  fun_induction fetch scan s with
  | case1 => simp at h
  | case2 => simp at h
  | case3 => simp at h
  | case4 s c hmissing room more ih => exact ih h
  | case5 => simp at h
  | case6 s c hmissing room done hending =>
    rw [buffered_of_read done] at hmissing room
    exact ⟨hending, c, hmissing, Nat.not_le.mp room⟩
  | case7 s c hmissing room done hending =>
    rw [buffered_of_read done] at hmissing room
    exact ⟨hending, c, hmissing, Nat.not_le.mp room⟩

end Intake

end CaptureSieve
