import CaptureSieve.Proofs.Capture.Outlook
import CaptureSieve.Proofs.Writing.Contents

/-!
The times of the records that a reader gives. None is so late that rounding it would leave 64-bit seconds.
-/

namespace CaptureSieve

namespace Instant

lemma rounds_iff {t : Instant} : t.Rounds ↔ t.nanos + 500 < 0x1_0000_0000_0000_0000 * 1_000_000_000 := by
  simp only [Rounds, micros]
  omega

lemma rounds_ofWords (nanosecond : Bool) (seconds fraction : UInt32) :
    (ofWords nanosecond seconds fraction).Rounds := by
  have hseconds := seconds.toNat_lt
  have hfraction := fraction.toNat_lt
  rw [rounds_iff, ofWords]
  cases nanosecond
  · simp only [Bool.false_eq_true, if_false]
    omega
  · simp only [if_true]
    omega

end Instant

namespace Pcapng

namespace Interface

def Timely (i : Interface) : Prop := i.offset < 0x8000_0000_0000_0000

lemma timely_unknown : unknown.Timely := by simp [Timely, unknown]

def second (i : Interface) (ticks : UInt64) : Int := ((ticks.toNat / max 1 i.ticksPerSecond : Nat) : Int) + i.offset

def part (i : Interface) (ticks : UInt64) : Nat :=
  ticks.toNat % max 1 i.ticksPerSecond * 1_000_000_000 / max 1 i.ticksPerSecond

lemma nanos_time (i : Interface) (ticks : UInt64) :
    (i.time ticks).nanos = min (i.second ticks).toNat 0xffff_ffff_ffff_ffff * 1_000_000_000 + i.part ticks := rfl

lemma part_lt (i : Interface) (ticks : UInt64) : i.part ticks < 1_000_000_000 := by
  have hpos : 0 < max 1 i.ticksPerSecond := Nat.lt_of_lt_of_le Nat.zero_lt_one (Nat.le_max_left ..)
  apply Nat.div_lt_of_lt_mul
  exact Nat.mul_lt_mul_of_pos_right (Nat.mod_lt _ hpos) (by decide)

lemma part_of_one {i : Interface} (h : max 1 i.ticksPerSecond = 1) (ticks : UInt64) : i.part ticks = 0 := by
  rw [part, h, Nat.mod_one, Nat.zero_mul, Nat.zero_div]

/-- The last second is reached in units of a second only, and these have no fraction. -/
lemma second_lt_or_one {i : Interface} (h : i.Timely) (ticks : UInt64) :
    i.second ticks < 0xffff_ffff_ffff_ffff ∨ max 1 i.ticksPerSecond = 1 := by
  have hticks := ticks.toNat_lt
  rcases Nat.lt_or_ge 1 (max 1 i.ticksPerSecond) with hmany | hone
  · have hhalf : ticks.toNat / max 1 i.ticksPerSecond ≤ ticks.toNat / 2 := Nat.div_le_div_left hmany (by decide)
    simp only [Timely] at h
    simp only [second]
    omega
  · exact .inr (Nat.le_antisymm hone (Nat.le_max_left ..))

lemma rounds_time {i : Interface} (h : i.Timely) (ticks : UInt64) : (i.time ticks).Rounds := by
  have hpart := part_lt i ticks
  rw [Instant.rounds_iff, nanos_time]
  rcases second_lt_or_one h ticks with hearly | hone
  · omega
  · have hnone := part_of_one hone ticks
    omega

lemma signedOffset_lt (value : List UInt8) : signedOffset value < 0x8000_0000_0000_0000 := by
  have hlow := ByteOrder.little.word32_lt value 0
  have hhigh := ByteOrder.little.word32_lt value 4
  unfold signedOffset
  dsimp only
  split <;> omega

lemma timely_withOption {i : Interface} (h : i.Timely) (option : Nat × List UInt8) :
    (i.withOption option).Timely := by
  unfold withOption
  split
  · exact h
  · split
    · exact signedOffset_lt _
    · exact h
  · exact h

lemma timely_foldl {i : Interface} (h : i.Timely) (options : List (Nat × List UInt8)) :
    (options.foldl withOption i).Timely := by
  induction options generalizing i with
  | nil => exact h
  | cons option rest ih => exact ih (timely_withOption h option)

end Interface

def Block.Timely : Block → Prop
  | .interface i => i.Timely
  | _ => True

lemma timely_interfaceBody {order : ByteOrder} {content : List UInt8} {b : Block}
    (h : interfaceBody order content = .block b) : b.Timely := by
  obtain rfl := Body.block.inj h
  exact Interface.timely_foldl (by simp [Interface.Timely]) _

lemma timely_packetBody {order : ByteOrder} {content : List UInt8} {b : Block}
    (h : packetBody order content = .block b) : b.Timely := by
  rw [packetBody] at h
  dsimp only at h
  split at h
  · simp at h
  · split at h
    · simp at h
    · obtain rfl := Body.block.inj h
      trivial

lemma timely_secretsBody {order : ByteOrder} {content : List UInt8} {b : Block}
    (h : secretsBody order content = .block b) : b.Timely := by
  rw [secretsBody] at h
  dsimp only at h
  split at h
  · simp at h
  · split at h
    · simp at h
    · obtain rfl := Body.block.inj h
      trivial

lemma timely_namesBody {order : ByteOrder} {content : List UInt8} {b : Block}
    (h : namesBody order content = .block b) : b.Timely := by
  fun_induction namesBody order content with
  | case4 =>
    obtain rfl := Body.block.inj h
    trivial
  | case6 content head rest hh hz size value after hv shorter ih => exact ih h
  | case1 => simp at h
  | case2 => simp at h
  | case3 => simp at h
  | case5 => simp at h

lemma timely_body {order : ByteOrder} {code : Nat} {content : List UInt8} {b : Block}
    (h : body order code content = .block b) : b.Timely := by
  rw [body] at h
  split at h
  · obtain rfl := Body.block.inj h
    trivial
  · split at h
    · exact timely_interfaceBody h
    · split at h
      · exact timely_packetBody h
      · split at h
        · exact timely_namesBody h
        · split at h
          · exact timely_secretsBody h
          · obtain rfl := Body.block.inj h
            trivial

variable {bytes : List UInt8} {available size : Nat} {hpos : 0 < size} {hle : size ≤ available} {b : Block}

lemma timely_blockFrame {order : ByteOrder} {code : Nat}
    (h : blockFrame order code bytes available = .found b size hpos hle) : b.Timely := by
  rw [blockFrame] at h
  dsimp only at h
  repeat' split at h
  all_goals try simp at h
  next hbody _ =>
    obtain ⟨rfl, -⟩ := h
    exact timely_body hbody

lemma timely_frame {s : State} (h : s.frame bytes available = .found b size hpos hle) : b.Timely := by
  rw [State.frame, sectionFrame] at h
  dsimp only at h
  repeat' split at h
  all_goals first | exact timely_blockFrame h | simp at h

def State.Timely (s : State) : Prop := ∀ i ∈ s.interfaces, i.Timely

lemma State.timely_start : start.Timely := by simp [Timely, start]

lemma State.timely_after {s : State} (h : s.Timely) (hb : b.Timely) : (s.after b).Timely := by
  cases b with
  | sectionHeader order => simp [after, Timely]
  | interface i =>
    simp only [after, Timely, List.mem_append, List.mem_singleton]
    rintro j (hj | rfl)
    · exact h j hj
    · exact hb
  | packet => exact h
  | other => exact h

lemma State.timely_interfaceAt {s : State} (h : s.Timely) (index : Nat) : (s.interfaceAt index).Timely := by
  rw [interfaceAt, List.getD_eq_getElem?_getD]
  cases hi : s.interfaces[index]? with
  | none => exact Interface.timely_unknown
  | some i => exact h i (List.mem_of_getElem? hi)

end Pcapng

lemma Pcap.FileHeader.record_of_frame {h : FileHeader} {bytes : List UInt8} {available size : Nat} {r : Record}
    {hpos : 0 < size} {hle : size ≤ available} (hf : h.frame bytes available = .found r size hpos hle) :
    r = h.record bytes (h.magic.order.word32 bytes 8) := by
  rw [frame] at hf
  dsimp only at hf
  split at hf
  · simp at hf
  · split at hf
    · simp at hf
    · exact (Scan.found.inj hf).1.symm

lemma Intake.found_of_fetch {α : Type} {scan : Framing α} {s next : Intake} {value : α}
    (h : s.fetch scan = .frame value next) :
    ∃ bytes available size, ∃ (hpos : 0 < size) (hle : size ≤ available),
      scan bytes available = .found value size hpos hle := by
  fun_induction fetch scan s with
  | case1 s v size pos le hs =>
    obtain ⟨rfl, -⟩ := Fetched.frame.inj h
    exact ⟨_, _, size, pos, le, hs⟩
  | case4 s count hs room more ih => exact ih h
  | case2 => simp at h
  | case3 => simp at h
  | case5 => simp at h
  | case6 => simp at h
  | case7 => simp at h

namespace Reader

def Timely : Reader → Prop
  | pcap _ _ => True
  | pcapng state _ => state.Timely

lemma rounds_of_nextPcapng {state : Pcapng.State} {intake : Intake} {r : Record} {next : Reader} (h : state.Timely)
    (hn : nextPcapng state intake = .record r next) : r.time.Rounds ∧ next.Timely := by
  fun_induction nextPcapng state intake with
  | case1 state intake i ticks wire data after hf =>
    obtain ⟨rfl, rfl⟩ := Step.record.inj hn
    exact ⟨Pcapng.Interface.rounds_time (Pcapng.State.timely_interfaceAt h i) ticks, h⟩
  | case2 state intake block after hnot hf shorter ih =>
    obtain ⟨_, _, _, _, _, hfound⟩ := Intake.found_of_fetch hf
    exact ih (Pcapng.State.timely_after h (Pcapng.timely_frame hfound)) hn
  | case3 => simp at hn
  | case4 => simp at hn
  | case5 => simp at hn

lemma rounds_of_next {reader next : Reader} {r : Record} (h : reader.Timely) (hn : reader.next = .record r next) :
    r.time.Rounds ∧ next.Timely := by
  cases reader with
  | pcap header intake =>
    simp only [Reader.next, nextPcap] at hn
    split at hn <;> simp at hn
    next record after hf =>
    obtain ⟨rfl, rfl⟩ := hn
    obtain ⟨_, _, _, _, _, hfound⟩ := Intake.found_of_fetch hf
    rw [Pcap.FileHeader.record_of_frame hfound]
    exact ⟨Instant.rounds_ofWords .., trivial⟩
  | pcapng state intake => exact rounds_of_nextPcapng h hn

lemma rounds_of_outlook {filter : Option Filter} {reader : Reader} (h : reader.Timely) :
    ∀ r ∈ (reader.outlook filter).records, r.time.Rounds := by
  fun_induction outlook filter reader with
  | case1 reader r next hn shorter later hadmit ih =>
    obtain ⟨hr, hnext⟩ := rounds_of_next h hn
    exact List.forall_mem_cons.mpr ⟨hr, ih hnext⟩
  | case2 reader r next hn shorter later hadmit ih => exact ih (rounds_of_next h hn).2
  | case3 => simp
  | case4 => simp
  | case5 => simp

lemma timely_ofStream {s : ByteStream} {reader : Reader} (h : ofStream s = .ok reader) : reader.Timely := by
  unfold ofStream openPcapng openPcap at h
  repeat' split at h
  all_goals try simp at h
  all_goals subst h
  · exact Pcapng.State.timely_start
  · trivial

end Reader

lemma Source.rounds_of_ofStream {stream : ByteStream} {filter : Option Filter} {source : Source}
    (h : ofStream stream filter = .ok source) : ∀ r ∈ source.outlook.records, r.time.Rounds := by
  obtain ⟨reader, hreader, rfl⟩ := opened_of_ofStream h
  exact Reader.rounds_of_outlook (Reader.timely_ofStream hreader)

end CaptureSieve
