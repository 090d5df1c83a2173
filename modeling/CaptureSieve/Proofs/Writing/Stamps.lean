import CaptureSieve.Proofs.Writing.Refusals
import CaptureSieve.Proofs.Writing.Words

/-!
The times of written records. A time has its microseconds written or is refused, unless rounding it passes 64-bit seconds.
-/

namespace CaptureSieve

namespace Writer

structure Stamps (w : Writer) (e : Entry) : Prop where
  written : e.time.micros < 0x1_0000_0000 * 1_000_000 → ∃ bytes after, e.Stamped bytes ∧
    (w.write e.data e.wireLength e.time = (.ok (), after) ∧ after.contents = w.contents ++ bytes ∧
        after.records = w.records + 1 ∨
      w.write e.data e.wireLength e.time = (.error w.refused, after) ∧ after.output.Stopped (w.contents ++ bytes))
  unbounded : e.time.micros < 0x1_0000_0000 * 1_000_000 → w.output.sink.room = none →
    (w.write e.data e.wireLength e.time).1 = .ok ()
  refused : 0x1_0000_0000 * 1_000_000 ≤ e.time.micros →
    w.write e.data e.wireLength e.time = (.error (.timeOutOfRange e.time), w)

variable {w : Writer} {e : Entry}

lemma fits_of_micros (hlength : e.data.length ≤ w.snapLength.toNat) (h : e.time.micros < 0x1_0000_0000 * 1_000_000) :
    e.Fits :=
  ⟨Nat.lt_of_le_of_lt hlength w.snapLength.toNat_lt, h⟩

lemma timeFields_of_late {snapLength : UInt32} {length : Nat} {time : Instant} (hlength : length ≤ snapLength.toNat)
    (h : time.Rounds) (hlate : 0x1_0000_0000 * 1_000_000 ≤ time.micros) :
    timeFields snapLength length time = .error (.timeOutOfRange time) := by
  have hseconds : 0x1_0000_0000 ≤ time.micros / 1_000_000 := (Nat.le_div_iff_mul_le (by decide)).mpr hlate
  rw [timeFields, if_neg (Nat.not_lt.mpr hlength), Instant.roundedMicros_of_rounds h]
  exact if_neg (Nat.not_lt.mpr hseconds)

lemma timeFields_of_wrapped {time : Instant} (h : ¬ time.Rounds) (snapLength : UInt32) (length : Nat) :
    timeFields snapLength length time = timeFields snapLength length .epoch := by
  have hnanos := time.nanos_lt
  have hrounded : time.roundedMicros = (0, 0) := by
    have hmicros : time.micros = 0x1_0000_0000_0000_0000 * 1_000_000 := by
      simp only [Instant.Rounds, Instant.micros] at h ⊢
      omega
    rw [Instant.roundedMicros, hmicros]
  have hepoch : Instant.epoch.roundedMicros = (0, 0) := rfl
  rw [timeFields, timeFields, hrounded, hepoch]
  split
  · rfl
  · rfl

lemma stamps_of_rounds (hlength : e.data.length ≤ w.snapLength.toNat) (h : e.time.Rounds) : w.Stamps e where
  written := by
    intro hmicros
    have hfields := (timeFields_ok_iff h).mpr ⟨hlength, hmicros, rfl, rfl⟩
    refine ⟨e.bytes, (w.write e.data e.wireLength e.time).2, Entry.stamped_bytes (fits_of_micros hlength hmicros), ?_⟩
    have hwrite := @write_ok_or_stopped w e.data e.wireLength e.time _ _ hfields
    rcases hwrite with hok | ⟨herror, hstopped⟩
    · obtain ⟨hcontents, -⟩ := write_contents hfields hok
      obtain ⟨hheader, hdata⟩ := puts_of_write hfields hok
      refine .inl ⟨Prod.ext hok rfl, hcontents, ?_⟩
      rw [write_of_puts hfields hheader hdata]
    · exact .inr ⟨Prod.ext herror rfl, hstopped⟩
  unbounded := by
    intro hmicros hroom
    exact (write_admitted hroom h hlength hmicros).1
  refused := by
    intro hlate
    exact write_of_rejected (timeFields_of_late hlength h hlate)

lemma write_of_wrapped (h : ¬ e.time.Rounds) :
    w.write e.data e.wireLength e.time = w.write e.data e.wireLength .epoch := by
  rw [write, write, timeFields_of_wrapped h]

lemma rounds_of_stamps (hlength : e.data.length ≤ w.snapLength.toNat) (h : w.Stamps e) : e.time.Rounds := by
  by_contra hwrapped
  have hlate : 0x1_0000_0000 * 1_000_000 ≤ e.time.micros := by
    simp only [Instant.Rounds] at hwrapped
    omega
  have hrefused := h.refused hlate
  have hepoch : Instant.epoch.Rounds := by decide
  have hfields := (timeFields_ok_iff hepoch).mpr ⟨hlength, by decide, rfl, rfl⟩
  have hwrite := @write_ok_or_stopped w e.data e.wireLength .epoch _ _ hfields
  rw [write_of_wrapped hwrapped] at hrefused
  rcases hwrite with hok | ⟨hstopped, -⟩
  · simp [hrefused] at hok
  · simp [hrefused, refused] at hstopped

theorem stamps_iff (hlength : e.data.length ≤ w.snapLength.toNat) :
    (w.Stamps e ↔ e.time.Rounds) ∧
      (¬ e.time.Rounds → w.write e.data e.wireLength e.time = w.write e.data e.wireLength .epoch) :=
  ⟨⟨rounds_of_stamps hlength, stamps_of_rounds hlength⟩, write_of_wrapped⟩

theorem stamps_carry :
    let w := ofSink .unbounded 65535 .raw
    let carried : Instant := ⟨9_999_999_700, by decide⟩
    let late : Instant := ⟨4_294_967_295_999_999_500, by decide⟩
    (∃ bytes after, w.write [0x45] 1 carried = (.ok (), after) ∧ after.contents = w.contents ++ bytes ∧
      ByteOrder.little.word32 bytes 0 * 1_000_000 + ByteOrder.little.word32 bytes 4 = 10_000_000) ∧
      w.write [0x45] 1 late = (.error (.timeOutOfRange late), w) := by
  intro w carried late
  have hcarried : w.Stamps ⟨carried, 1, [0x45]⟩ := (stamps_iff (by decide)).1.mpr (by decide)
  have hlate : w.Stamps ⟨late, 1, [0x45]⟩ := (stamps_iff (by decide)).1.mpr (by decide)
  obtain ⟨bytes, after, hbytes, hwrite⟩ := hcarried.written (by decide)
  have hok := hcarried.unbounded (by decide) rfl
  refine ⟨⟨bytes, after, ?_⟩, hlate.refused (by decide)⟩
  rcases hwrite with ⟨hwrite, hcontents, -⟩ | ⟨hwrite, -⟩
  · exact ⟨hwrite, hcontents, hbytes.micros.trans (by decide)⟩
  · simp [hwrite] at hok

theorem stamps_epoch_at_last :
    let w := ofSink .unbounded 65535 .raw
    let e : Entry := ⟨⟨18_446_744_073_709_551_615_999_999_500, by decide⟩, 1, [0]⟩
    0x1_0000_0000 * 1_000_000 ≤ e.time.micros ∧ (w.write e.data e.wireLength e.time).1 = .ok () ∧
      (w.write e.data e.wireLength e.time).2.contents = w.contents ++ (recordHeader 0 0 1 1 ++ [0]) ∧
      ¬ w.Stamps e := by
  intro w e
  have hok : (w.write e.data e.wireLength e.time).1 = .ok () := by decide +kernel
  refine ⟨by decide, hok, by decide +kernel, ?_⟩
  intro hstamps
  rw [hstamps.refused (by decide)] at hok
  simp at hok

end Writer

end CaptureSieve
