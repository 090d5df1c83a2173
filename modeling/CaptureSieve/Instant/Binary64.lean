import CaptureSieve.Instant

/-!
Capture times as seconds in a 64-bit binary floating-point number, given by its bits.
-/

namespace CaptureSieve.Instant

def roundHalfEven (num den : Nat) : Nat :=
  let quotient := num / den
  let twice := 2 * (num % den)
  if den < twice ∨ (twice = den ∧ quotient % 2 = 1) then quotient + 1 else quotient

/-- The exact binary value to the nearest nanosecond. A negative value, a NaN and a value past the
last second all give the epoch. -/
def ofBinary64 (bits : UInt64) : Instant :=
  let raw := bits.toNat
  let exponent := (raw >>> 52) % 2048
  let fraction := raw % 0x10_0000_0000_0000
  if 0x8000_0000_0000_0000 ≤ raw ∨ exponent = 2047 then epoch
  else
    let significand := if exponent = 0 then fraction else fraction + 0x10_0000_0000_0000
    let shift := if exponent = 0 then 1 else exponent
    (ofNanos? (roundHalfEven ((significand * 1_000_000_000) <<< shift) (1 <<< 1075))).getD epoch

def toBinary64 (t : Instant) : UInt64 :=
  ((UInt64.ofNat t.seconds).toFloat + (UInt64.ofNat t.subsecond).toFloat / 1e9).toBits

end CaptureSieve.Instant
