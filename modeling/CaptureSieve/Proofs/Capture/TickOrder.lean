import CaptureSieve.Proofs.Capture.Chronology
import CaptureSieve.Proofs.Capture.Sections
import CaptureSieve.Proofs.Capture.Ticks

/-!
The order of the times that pcapng packets have from their ticks. With a negative offset all seconds before the epoch are
held at zero but their fractions are not, and there a later tick may have an earlier time.
-/

namespace CaptureSieve

namespace Pcapng

namespace Interface

def Ascending (i : Interface) : Prop := ∀ a b, a ≤ b → i.time a ≤ i.time b

def KeepsOrder (i : Interface) (a b : UInt64) : Prop := 0 ≤ i.second a ∨ 0 < i.second b ∨ i.part a ≤ i.part b

variable {i : Interface} {a b : UInt64}

lemma second_le (hab : a ≤ b) : i.second a ≤ i.second b := by
  have hwhole : a.toNat / max 1 i.ticksPerSecond ≤ b.toNat / max 1 i.ticksPerSecond :=
    Nat.div_le_div_right (UInt64.le_iff_toNat_le.mp hab)
  simp only [second]
  omega

lemma part_le (hab : a ≤ b) (hsecond : i.second a = i.second b) : i.part a ≤ i.part b := by
  have hticks : a.toNat ≤ b.toNat := UInt64.le_iff_toNat_le.mp hab
  have hwhole : a.toNat / max 1 i.ticksPerSecond = b.toNat / max 1 i.ticksPerSecond := by
    simp only [second] at hsecond
    omega
  have ha := Nat.div_add_mod a.toNat (max 1 i.ticksPerSecond)
  have hb := Nat.div_add_mod b.toNat (max 1 i.ticksPerSecond)
  rw [hwhole] at ha
  apply Nat.div_le_div_right
  apply Nat.mul_le_mul_right
  omega

lemma time_le_iff (h : i.Timely) (hab : a ≤ b) : i.time a ≤ i.time b ↔ i.KeepsOrder a b := by
  have hsecond := second_le (i := i) hab
  have hpart := part_le (i := i) hab
  have ha := part_lt i a
  have hb := part_lt i b
  rw [Instant.le_iff, nanos_time, nanos_time, KeepsOrder]
  rcases second_lt_or_one h b with hearly | hone
  · omega
  · have hnone := part_of_one hone a
    omega

-- The last tick of the first second falls behind the next one.
lemma not_keepsOrder_of_negative (hfits : i.ticksPerSecond < 0x1_0000_0000_0000_0000) (hnegative : i.offset < 0)
    (hmany : 1 < i.ticksPerSecond) : ¬ i.KeepsOrder (.ofNat (i.ticksPerSecond - 1)) (.ofNat i.ticksPerSecond) := by
  have hmax : max 1 i.ticksPerSecond = i.ticksPerSecond := Nat.max_eq_right (Nat.le_of_lt hmany)
  have hlast : (UInt64.ofNat (i.ticksPerSecond - 1)).toNat = i.ticksPerSecond - 1 :=
    UInt64.toNat_ofNat_of_lt' (Nat.lt_of_le_of_lt (Nat.sub_le _ _) hfits)
  have hnext : (UInt64.ofNat i.ticksPerSecond).toNat = i.ticksPerSecond := UInt64.toNat_ofNat_of_lt' hfits
  have hpart : 0 < (i.ticksPerSecond - 1) * 1_000_000_000 / i.ticksPerSecond := by
    apply Nat.div_pos
    · omega
    · omega
  intro hkeeps
  simp only [KeepsOrder, second, part, hmax, hlast, hnext] at hkeeps
  rw [Nat.div_self (by omega), Nat.mod_self, Nat.zero_mul, Nat.zero_div, Nat.mod_eq_of_lt (by omega),
    Nat.div_eq_of_lt (by omega)] at hkeeps
  omega

lemma ascending_iff (h : i.Timely) (hfits : i.ticksPerSecond < 0x1_0000_0000_0000_0000) :
    i.Ascending ↔ 0 ≤ i.offset ∨ i.ticksPerSecond ≤ 1 := by
  constructor
  · intro hascending
    by_contra hnot
    obtain ⟨hnegative, hmany⟩ : i.offset < 0 ∧ 1 < i.ticksPerSecond := by omega
    apply not_keepsOrder_of_negative hfits hnegative hmany
    have hle : UInt64.ofNat (i.ticksPerSecond - 1) ≤ UInt64.ofNat i.ticksPerSecond := by
      rw [UInt64.le_iff_toNat_le, UInt64.toNat_ofNat_of_lt' hfits,
        UInt64.toNat_ofNat_of_lt' (Nat.lt_of_le_of_lt (Nat.sub_le _ _) hfits)]
      exact Nat.sub_le _ _
    exact (time_le_iff h hle).mp (hascending _ _ hle)
  · intro hcases a b hab
    rw [time_le_iff h hab]
    rcases hcases with hoffset | hone
    · exact .inl (Int.add_nonneg (Int.natCast_nonneg _) hoffset)
    · refine .inr (.inr ?_)
      rw [part_of_one (Nat.max_eq_left hone)]
      exact Nat.zero_le _

end Interface

structure Stored where
  interface : Interface
  ticks : UInt64
  wireLength : UInt32
  data : List UInt8
  deriving DecidableEq

def Stored.record (p : Stored) : Record := ⟨p.interface.time p.ticks, p.interface.link, p.wireLength, p.data⟩

namespace State

def stored? (s : State) : Block → Option Stored
  | .packet index ticks wireLength data => some ⟨s.interfaceAt index, ticks, wireLength, data⟩
  | _ => none

def stored (s : State) (bytes : List UInt8) : List Stored :=
  match s.frame bytes bytes.length with
  | .found block size hpos hle =>
    have _shorter : (bytes.drop size).length < bytes.length := by
      rw [List.length_drop]
      omega
    (s.stored? block).toList ++ (s.after block).stored (bytes.drop size)
  | _ => []
termination_by bytes.length
decreasing_by exact _shorter

variable {s : State} {bytes : List UInt8} {block : Block} {size : Nat}

lemma record?_eq (s : State) (block : Block) : s.record? block = (s.stored? block).map Stored.record := by
  cases block <;> rfl

lemma stored_of_settled (h : (s.frame bytes bytes.length).settled? = some (.ok (block, size))) :
    s.stored bytes = (s.stored? block).toList ++ (s.after block).stored (bytes.drop size) := by
  obtain ⟨hpos, hle, hfound⟩ := Scan.eq_found h
  rw [stored, hfound]

lemma outlook_stored (s : State) {intake : Intake} (hroom : intake.buffered ≤ bufferSize) :
    ((Pcapng.dialect.reader s intake).outlook none).records <+: (s.stored intake.rest).map Stored.record := by
  induction hn : intake.rest.length using Nat.strongRecOn generalizing s intake with
  | ind n ih =>
    subst hn
    by_cases hframe : ∃ block next, intake.fetch s.frame = .frame block next
    · obtain ⟨block, next, hfetch⟩ := hframe
      obtain ⟨size, hwhole, -, hrest⟩ := Intake.whole_of_fetch (s.steady_frame intake.rest) hroom hfetch
      obtain ⟨-, -, hless⟩ := Intake.fetch_frame_keeps hfetch
      have hlater := ih _ (Intake.fetch_lt hfetch) (s.after block) (Nat.le_of_lt (hless hroom)) rfl
      have hfirst : (s.record? block).toList = (s.stored? block).toList.map Stored.record := by
        rw [record?_eq]
        cases s.stored? block <;> rfl
      rw [Dialect.outlook_of_frame (d := Pcapng.dialect) hfetch, stored_of_settled hwhole, List.map_append, ← hrest,
        ← hfirst]
      exact (List.prefix_append_right_inj _).mpr hlater
    · rw [Dialect.records_of_no_frame (d := Pcapng.dialect) fun block next h => hframe ⟨block, next, h⟩]
      exact List.nil_prefix

lemma stored_of_magic {order : ByteOrder} (h : (start.frame bytes bytes.length).settled? =
    some (.ok (.sectionHeader order, size))) :
    start.stored bytes = (start.after (.sectionHeader order)).stored (bytes.drop size) := by
  rw [stored_of_settled h]
  rfl

end State

end Pcapng

namespace Source

open Pcapng

variable {x : ByteStream} {filter : Option Filter} {source : Source}

lemma outlook_of_stored (hmagic : x.bytes.take 4 = Reader.pcapngMagic) (hx : ofStream x filter = .ok source) :
    source.outlook.records <+: ((State.start.stored x.bytes).map Stored.record).filter (admits filter) := by
  obtain ⟨reader, hreader, rfl⟩ := opened_of_ofStream hx
  obtain ⟨o, s, hleads, -⟩ := Opening.leadsTo_of_ofStream hreader
  obtain ⟨hopens, -, hrest, hroom, hnext, -⟩ := hleads
  have houtlook : outlook ⟨some reader, filter, []⟩ = reader.outlook filter := rfl
  rw [houtlook, Reader.outlook_eq_filter, Reader.outlook_congr hnext]
  apply List.IsPrefix.filter
  cases hopens with
  | pcap magic => exact absurd hmagic magic
  | @pcapng block size _ h =>
    obtain ⟨order, rfl⟩ := sectionHeader_of_magic hmagic h
    rw [State.stored_of_magic h, ← hrest]
    exact State.outlook_stored _ hroom

lemma inTimeOrder_iff {i : Interface} (hi : i.Timely) {l : List Stored} (hon : ∀ p ∈ l, p.interface = i)
    (hticks : l.Pairwise (·.ticks ≤ ·.ticks)) :
    InTimeOrder (l.map Stored.record) ↔ l.Pairwise fun p q => i.KeepsOrder p.ticks q.ticks := by
  have htimes : ∀ p ∈ l, ∀ q ∈ l, p.ticks ≤ q.ticks →
      (p.record.time ≤ q.record.time ↔ i.KeepsOrder p.ticks q.ticks) := by
    intro p hp q hq hle
    rw [Stored.record, Stored.record, hon p hp, hon q hq]
    exact Interface.time_le_iff hi hle
  rw [InTimeOrder, List.pairwise_map]
  constructor
  · intro h
    exact (h.and hticks).imp_of_mem fun hp hq ⟨htime, hle⟩ => (htimes _ hp _ hq hle).mp htime
  · intro h
    exact (h.and hticks).imp_of_mem fun hp hq ⟨hkeeps, hle⟩ => (htimes _ hp _ hq hle).mpr hkeeps

end Source

open Pcapng in
theorem times_ascend_iff (link : LinkType) (unit : UInt8) (offset : Int64) :
    let i : Interface := ⟨link, Interface.resolution unit, offset.toInt⟩
    (i.Ascending ↔ 0 ≤ offset.toInt ∨ Interface.resolution unit = 1) ∧
    (∀ a b, a ≤ b → (i.time a ≤ i.time b ↔ i.KeepsOrder a b)) ∧
    ∀ (x : ByteStream) (filter : Option Filter) (source : Source),
      x.bytes.take 4 = Reader.pcapngMagic → Source.ofStream x filter = .ok source →
      ∃ kept, kept <+: (State.start.stored x.bytes).filter (fun p => Source.admits filter p.record) ∧
        source.outlook.records = kept.map Stored.record ∧
        ∀ l : List Stored, l.Sublist kept → (∀ p ∈ l, p.interface = i) → l.Pairwise (·.ticks ≤ ·.ticks) →
          (InTimeOrder (l.map Stored.record) ↔ l.Pairwise fun p q => i.KeepsOrder p.ticks q.ticks) ∧
          (i.Ascending → InTimeOrder (l.map Stored.record)) := by
  intro i
  have htimely : i.Timely := Int64.toInt_lt offset
  have hpos : 0 < i.ticksPerSecond := Interface.resolution_pos unit
  have hone : i.ticksPerSecond ≤ 1 ↔ Interface.resolution unit = 1 :=
    ⟨fun hle => Nat.le_antisymm hle hpos, Nat.le_of_eq⟩
  refine ⟨?_, fun a b => Interface.time_le_iff htimely, ?_⟩
  · rw [Interface.ascending_iff htimely (Interface.resolution_lt unit), hone]
  · intro x filter source hmagic hx
    have hprefix := Source.outlook_of_stored hmagic hx
    rw [List.filter_map, List.prefix_map_iff] at hprefix
    obtain ⟨kept, hkept, hrecords⟩ := hprefix
    refine ⟨kept, hkept, hrecords, ?_⟩
    intro l hl hon hticks
    have hiff := Source.inTimeOrder_iff htimely hon hticks
    refine ⟨hiff, fun hascending => hiff.mpr (hticks.imp ?_)⟩
    intro p q hle
    exact (Interface.time_le_iff htimely hle).mp (hascending _ _ hle)

-- An interface in microseconds with this offset, and two packets around its first second.
def aroundSecond (offset : List UInt8) : List UInt8 :=
  let interface := Pcapng.blockBytes .little Pcapng.interfaceCode
    ([101, 0, 0, 0, 0xff, 0xff, 0, 0, 14, 0, 8, 0] ++ offset ++ [0, 0, 0, 0])
  Pcapng.sectionBytes .little ++ (interface ++
    (Pcapng.packetBytes .little 0 999_999 1 [0] ++ Pcapng.packetBytes .little 0 1_000_000 1 [1]))

theorem times_ascend_aroundSecond :
    let i : Pcapng.Interface := ⟨.raw, Pcapng.Interface.resolution 6, 10⟩
    let bytes := aroundSecond [10, 0, 0, 0, 0, 0, 0, 0]
    let records : List Record :=
      [⟨⟨10_999_999_000, by decide⟩, .raw, 1, [0]⟩, ⟨⟨11_000_000_000, by decide⟩, .raw, 1, [1]⟩]
    i.time 999_999 ≤ i.time 1_000_000 ∧
      ∃ source, Source.ofStream ⟨bytes, .closed, fun _ => 1⟩ none = .ok source ∧ source.Gives records [] ∧
        InTimeOrder source.outlook.records := by
  intro i bytes records
  obtain ⟨hiff, -, hstream⟩ := times_ascend_iff .raw 6 10
  have hascending : i.Ascending := hiff.mpr (by decide)
  refine ⟨hascending _ _ (by decide), ?_⟩
  obtain ⟨source, hsource, hgives⟩ : ∃ source,
      Source.ofStream ⟨bytes, .closed, fun _ => 1⟩ none = .ok source ∧ source.Gives records [] := by
    apply Source.exists_gives_of_checked
    decide +kernel
  obtain ⟨kept, hkept, hrecords, hordered⟩ := hstream _ none source (by decide +kernel) hsource
  have hstored : Pcapng.State.start.stored bytes = [⟨i, 999_999, 1, [0]⟩, ⟨i, 1_000_000, 1, [1]⟩] := by decide +kernel
  have hwhole : kept.Sublist [⟨i, 999_999, 1, [0]⟩, ⟨i, 1_000_000, 1, [1]⟩] := by
    rw [← hstored]
    exact hkept.sublist.trans List.filter_sublist
  refine ⟨source, hsource, hgives, hrecords ▸ (hordered kept (List.Sublist.refl _) ?_ ?_).2 hascending⟩
  · intro p hp
    have hp := hwhole.subset hp
    simp only [List.mem_cons, List.not_mem_nil, or_false] at hp
    rcases hp with rfl | rfl <;> rfl
  · exact List.Pairwise.sublist hwhole (by decide)

theorem times_fall_before_epoch :
    let i : Pcapng.Interface := ⟨.raw, Pcapng.Interface.resolution 6, -10⟩
    let bytes := aroundSecond [0xf6, 0xff, 0xff, 0xff, 0xff, 0xff, 0xff, 0xff]
    let records : List Record := [⟨⟨999_999_000, by decide⟩, .raw, 1, [0]⟩, ⟨.epoch, .raw, 1, [1]⟩]
    ¬ i.time 999_999 ≤ i.time 1_000_000 ∧
      Pcapng.State.start.stored bytes = [⟨i, 999_999, 1, [0]⟩, ⟨i, 1_000_000, 1, [1]⟩] ∧
      (∃ source, Source.ofStream ⟨bytes, .closed, fun _ => 1⟩ none = .ok source ∧ source.Gives records []) ∧
      ¬ InTimeOrder records := by
  intro i bytes records
  refine ⟨by decide, by decide +kernel, ?_, by decide⟩
  apply Source.exists_gives_of_checked
  decide +kernel

end CaptureSieve
