/-!
Capture times: nanoseconds since the Unix epoch whose whole seconds fit 64 bits.
-/

namespace CaptureSieve

structure Instant where
  nanos : Nat
  nanos_lt : nanos < 0x1_0000_0000_0000_0000 * 1_000_000_000
  deriving DecidableEq

namespace Instant

def epoch : Instant := ⟨0, by decide⟩

instance : Inhabited Instant := ⟨epoch⟩

instance : LE Instant := ⟨fun a b => a.nanos ≤ b.nanos⟩

instance (a b : Instant) : Decidable (a ≤ b) := inferInstanceAs (Decidable (a.nanos ≤ b.nanos))

theorem le_iff {a b : Instant} : a ≤ b ↔ a.nanos ≤ b.nanos := Iff.rfl

def ofNanos? (n : Nat) : Option Instant :=
  if h : n < 0x1_0000_0000_0000_0000 * 1_000_000_000 then some ⟨n, h⟩ else none

def ofParts? (seconds nanos : Nat) : Option Instant := ofNanos? (seconds * 1_000_000_000 + nanos)

def ofMicros? (seconds micros : Nat) : Option Instant := ofParts? seconds (micros * 1000)

def add? (t : Instant) (seconds nanos : Nat) : Option Instant := ofNanos? (t.nanos + seconds * 1_000_000_000 + nanos)

theorem ofNanos?_eq_some_iff {n : Nat} {t : Instant} : ofNanos? n = some t ↔ t.nanos = n := by
  obtain ⟨m, hm⟩ := t
  unfold ofNanos?
  constructor
  · intro h
    split at h
    · exact (Instant.mk.inj (Option.some.inj h)).symm
    · simp at h
  · rintro rfl
    exact dif_pos hm

def seconds (t : Instant) : Nat := t.nanos / 1_000_000_000

def subsecond (t : Instant) : Nat := t.nanos % 1_000_000_000

theorem seconds_lt (t : Instant) : t.seconds < 0x1_0000_0000_0000_0000 :=
  Nat.div_lt_of_lt_mul (by simpa only [Nat.mul_comm] using t.nanos_lt)

def micros (t : Instant) : Nat := (t.nanos + 500) / 1000

/-- Whole seconds and microseconds of one rounding of the full value. The seconds keep 64 bits. -/
def roundedMicros (t : Instant) : Nat × Nat := (t.micros / 1_000_000 % 0x1_0000_0000_0000_0000, t.micros % 1_000_000)

def padded (width n : Nat) : String :=
  let digits := toString n
  String.ofList (List.replicate (width - digits.length) '0') ++ digits

def text (t : Instant) : String := toString t.seconds ++ "." ++ padded 9 t.subsecond

end Instant

end CaptureSieve
