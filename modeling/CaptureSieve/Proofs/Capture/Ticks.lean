import CaptureSieve.Proofs.Capture.Times

/-!
The times of captures calculated in machine words. No step leaves its width, the result is the exact time wherever the
seconds with their offset fit 64 bits, and rounding it to microseconds does not wrap.
-/

namespace CaptureSieve

namespace Instant

def ofWords? (nanosecond : Bool) (seconds fraction : UInt32) : Option Instant :=
  if nanosecond then ofParts? seconds.toNat fraction.toNat else ofMicros? seconds.toNat fraction.toNat

lemma ofWords?_eq (nanosecond : Bool) (seconds fraction : UInt32) :
    ofWords? nanosecond seconds fraction = some (ofWords nanosecond seconds fraction) := by
  cases nanosecond with
  | false =>
    rw [ofWords?, if_neg (by decide), ofMicros?, ofParts?, ofNanos?_eq_some_iff]
    rfl
  | true =>
    rw [ofWords?, if_pos rfl, ofParts?, ofNanos?_eq_some_iff]
    simp only [ofWords, if_true, Nat.mul_one]

end Instant

namespace Pcapng.Interface

lemma resolution_pos (unit : UInt8) : 0 < resolution unit := by
  rw [resolution]
  split
  · split
    · exact Nat.pow_pos (by decide)
    · decide
  · split
    · rw [Nat.one_shiftLeft]
      exact Nat.two_pow_pos _
    · decide

lemma resolution_lt (unit : UInt8) : resolution unit < 0x1_0000_0000_0000_0000 := by
  rw [resolution]
  split
  · split
    · next hfits => exact hfits
    · decide
  · split
    · next hfits => exact hfits
    · decide

variable {i : Interface} {ticks : UInt64}

lemma whole_add_part (i : Interface) (ticks : UInt64) :
    ticks.toNat / max 1 i.ticksPerSecond * 1_000_000_000 + i.part ticks =
      ticks.toNat * 1_000_000_000 / max 1 i.ticksPerSecond := by
  have hpos : 0 < max 1 i.ticksPerSecond := Nat.lt_of_lt_of_le Nat.zero_lt_one (Nat.le_max_left ..)
  generalize hu : max 1 i.ticksPerSecond = units at hpos
  calc ticks.toNat / units * 1_000_000_000 + i.part ticks
      = (units * (ticks.toNat / units * 1_000_000_000) + ticks.toNat % units * 1_000_000_000) / units := by
        rw [Nat.mul_add_div hpos, part, hu]
    _ = ticks.toNat * 1_000_000_000 / units := by
        rw [← Nat.mul_assoc, ← Nat.add_mul, Nat.div_add_mod]

lemma nanos_of_second (hnot : 0 ≤ i.second ticks) (hlt : i.second ticks < 0x1_0000_0000_0000_0000) :
    ((i.time ticks).nanos : Int) =
      (ticks.toNat * 1_000_000_000 / max 1 i.ticksPerSecond : Nat) + i.offset * 1_000_000_000 := by
  have hheld : min (i.second ticks).toNat 0xffff_ffff_ffff_ffff = (i.second ticks).toNat := by omega
  rw [nanos_time, hheld, ← whole_add_part]
  simp only [second] at hnot ⊢
  omega

def addSigned (seconds : UInt64) (offset : Int64) : UInt64 :=
  let sum := seconds + offset.toUInt64
  -- With a negative offset the sum has to carry, with any other it must not.
  if sum < seconds ↔ offset < 0 then sum else if sum < seconds then 0xffff_ffff_ffff_ffff else 0

lemma toInt_eq (offset : Int64) : offset.toInt =
    if offset.toUInt64.toNat < 0x8000_0000_0000_0000 then (offset.toUInt64.toNat : Int)
    else offset.toUInt64.toNat - 0x1_0000_0000_0000_0000 := by
  have hcond : offset.toInt = if 2 * offset.toUInt64.toNat < 2 ^ 64 then (offset.toUInt64.toNat : Int)
    else offset.toUInt64.toNat - (2 ^ 64 : Nat) := BitVec.toInt_eq_toNat_cond offset.toBitVec
  rw [hcond]
  split <;> split <;> omega

lemma toNat_addSigned (seconds : UInt64) (offset : Int64) :
    (addSigned seconds offset).toNat = min ((seconds.toNat : Int) + offset.toInt).toNat 0xffff_ffff_ffff_ffff := by
  have hseconds := seconds.toNat_lt
  have hoffset := offset.toUInt64.toNat_lt
  have hsigned := toInt_eq offset
  have hnegative : offset < 0 ↔ 0x8000_0000_0000_0000 ≤ offset.toUInt64.toNat := by
    rw [Int64.lt_iff_toInt_lt, Int64.toInt_zero]
    split at hsigned <;> omega
  simp only [addSigned, hnegative, UInt64.lt_iff_toNat_lt, UInt64.toNat_add]
  split
  · rw [UInt64.toNat_add]
    split at hsigned <;> omega
  · split
    · have hlate : (0xffff_ffff_ffff_ffff : UInt64).toNat = 0xffff_ffff_ffff_ffff := rfl
      split at hsigned <;> omega
    · have hearly : (0 : UInt64).toNat = 0 := rfl
      split at hsigned <;> omega

def timeInWords? (units : UInt64) (offset : Int64) (ticks : UInt64) : Option Instant :=
  let units := max 1 units
  let seconds := addSigned (ticks / units) offset
  let nanos : BitVec 128 := (ticks % units).toBitVec.setWidth 128 * 1_000_000_000 / units.toBitVec.setWidth 128
  Instant.ofParts? seconds.toNat (nanos.setWidth 32).toNat

lemma toNat_max_one (units : UInt64) : (max 1 units).toNat = max 1 units.toNat := by
  have hone : (1 : UInt64) ≤ units ↔ 1 ≤ units.toNat := UInt64.le_iff_toNat_le
  rw [show max 1 units = if 1 ≤ units then units else 1 from rfl]
  simp only [hone]
  split
  · next hle => exact (Nat.max_eq_right hle).symm
  · next hnot => exact (Nat.max_eq_left (Nat.le_of_not_le hnot)).symm

-- Neither the product nor the cut loses a bit.
lemma toNat_part (ticks : UInt64) {units : UInt64} (hpos : 0 < units.toNat) :
    (((ticks % units).toBitVec.setWidth 128 * 1_000_000_000 / units.toBitVec.setWidth 128 : BitVec 128).setWidth
      32).toNat = ticks.toNat % units.toNat * 1_000_000_000 / units.toNat := by
  have hleft : ticks.toNat % units.toNat < 0x1_0000_0000_0000_0000 :=
    Nat.lt_of_le_of_lt (Nat.mod_le _ _) ticks.toNat_lt
  have hunits := units.toNat_lt
  have hpart : ticks.toNat % units.toNat * 1_000_000_000 / units.toNat < 1_000_000_000 :=
    Nat.div_lt_of_lt_mul (Nat.mul_lt_mul_of_pos_right (Nat.mod_lt _ hpos) (by decide))
  have hproduct : ((ticks % units).toBitVec.setWidth 128 * 1_000_000_000).toNat =
      ticks.toNat % units.toNat * 1_000_000_000 := by
    rw [BitVec.toNat_mul, BitVec.toNat_setWidth, UInt64.toNat_toBitVec, UInt64.toNat_mod]
    have hnine : (1_000_000_000 : BitVec 128).toNat = 1_000_000_000 := rfl
    rw [hnine]
    omega
  rw [BitVec.toNat_setWidth, BitVec.toNat_udiv, hproduct, BitVec.toNat_setWidth, UInt64.toNat_toBitVec,
    Nat.mod_eq_of_lt (Nat.lt_trans hunits (by decide)), Nat.mod_eq_of_lt (Nat.lt_trans hpart (by decide))]

lemma timeInWords?_eq (i : Interface) {units : UInt64} {offset : Int64} (hunits : units.toNat = i.ticksPerSecond)
    (hoffset : offset.toInt = i.offset) (ticks : UInt64) : timeInWords? units offset ticks = some (i.time ticks) := by
  have hmax : (max 1 units).toNat = max 1 i.ticksPerSecond := hunits ▸ toNat_max_one units
  have hpos : 0 < (max 1 units).toNat := hmax ▸ Nat.lt_of_lt_of_le Nat.zero_lt_one (Nat.le_max_left ..)
  rw [timeInWords?, toNat_part ticks hpos, toNat_addSigned, UInt64.toNat_div, hmax, hoffset, Instant.ofParts?,
    Instant.ofNanos?_eq_some_iff]
  exact nanos_time i ticks

end Pcapng.Interface

open Pcapng Interface in
/-- Seconds that leave 64 bits with the offset have a time too, but then it is not the exact one. -/
theorem times_exact :
    (∀ nanosecond seconds fraction,
      let t := Instant.ofWords nanosecond seconds fraction
      Instant.ofWords? nanosecond seconds fraction = some t ∧ t.Rounds ∧
        t.nanos = seconds.toNat * 1_000_000_000 + fraction.toNat * if nanosecond then 1 else 1000) ∧
    ∀ (link : LinkType) (unit : UInt8) (offset : Int64) (ticks : UInt64),
      let units := resolution unit
      let second : Int := (ticks.toNat / units : Nat) + offset.toInt
      let t := Interface.time ⟨link, units, offset.toInt⟩ ticks
      timeInWords? (.ofNat units) offset ticks = some t ∧ t.Rounds ∧
        (0 ≤ second → second < 0x1_0000_0000_0000_0000 →
          (t.nanos : Int) = (ticks.toNat * 1_000_000_000 / units : Nat) + offset.toInt * 1_000_000_000) := by
  constructor
  · intro nanosecond seconds fraction t
    exact ⟨Instant.ofWords?_eq nanosecond seconds fraction, Instant.rounds_ofWords nanosecond seconds fraction, rfl⟩
  · intro link unit offset ticks units second t
    have hmax : max 1 units = units := Nat.max_eq_right (resolution_pos unit)
    have hfits : (UInt64.ofNat units).toNat = units := UInt64.toNat_ofNat_of_lt' (resolution_lt unit)
    have htimely : Timely ⟨link, units, offset.toInt⟩ := Int64.toInt_lt offset
    refine ⟨timeInWords?_eq ⟨link, units, offset.toInt⟩ hfits rfl ticks, rounds_time htimely ticks, ?_⟩
    intro hnot hlt
    have hsecond : Interface.second ⟨link, units, offset.toInt⟩ ticks = second := by rw [Interface.second, hmax]
    have hnanos := nanos_of_second (hsecond.symm ▸ hnot) (hsecond.symm ▸ hlt)
    rwa [hmax] at hnanos

theorem times_exact_binary :
    let i : Pcapng.Interface := ⟨.raw, Pcapng.Interface.resolution 0x8a, -1⟩
    (i.time 2049).Rounds ∧ ((i.time 2049).nanos : Int) = 1_000_976_562 := by
  intro i
  obtain ⟨-, hrounds, hexact⟩ := times_exact.2 .raw 0x8a (-1) 2049
  exact ⟨hrounds, (hexact (by decide) (by decide)).trans (by decide)⟩

end CaptureSieve
