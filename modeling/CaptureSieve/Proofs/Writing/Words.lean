import CaptureSieve.Proofs.Capture.Entries
import Mathlib.Data.List.Forall2

/-!
What the bytes of a written capture say, read back word by word.
-/

namespace CaptureSieve

structure Begins (snapLength : UInt32) (link : LinkType) (bytes : List UInt8) : Prop where
  length : 24 ≤ bytes.length
  magic : ByteOrder.little.word32 bytes 0 = 0xa1b2c3d4
  major : ByteOrder.little.word16 bytes 4 = 2
  minor : ByteOrder.little.word16 bytes 6 = 4
  zone : ByteOrder.little.word32 bytes 8 = 0
  accuracy : ByteOrder.little.word32 bytes 12 = 0
  snapLength : ByteOrder.little.word32 bytes 16 = snapLength.toNat
  link : ByteOrder.little.word32 bytes 20 = link.word.toNat

lemma begins_fileHeader (snapLength : UInt32) (link : LinkType) (rest : List UInt8) :
    Begins snapLength link (fileHeader snapLength link ++ rest) := by
  constructor
  · rw [List.length_append, Writer.length_fileHeader]
    exact Nat.le_add_right _ _
  all_goals simp only [fileHeader, List.append_assoc, ByteOrder.word32_behind_bytes32,
    ByteOrder.word32_behind_bytes16, ByteOrder.word16_behind_bytes32, ByteOrder.word16_behind_bytes16]
  · exact ByteOrder.little.word32_bytes32 (by decide) _
  · exact ByteOrder.little.word16_bytes16 (by decide) _
  · exact ByteOrder.little.word16_bytes16 (by decide) _
  · exact ByteOrder.little.word32_bytes32 (by decide) _
  · exact ByteOrder.little.word32_bytes32 (by decide) _
  · exact ByteOrder.little.word32_bytes32 snapLength.toNat_lt _
  · exact ByteOrder.little.word32_bytes32 link.word.toNat_lt _

namespace Entry

structure Stamped (e : Entry) (bytes : List UInt8) : Prop where
  length : bytes.length = 16 + e.data.length
  micros_lt : ByteOrder.little.word32 bytes 4 < 1_000_000
  micros : ByteOrder.little.word32 bytes 0 * 1_000_000 + ByteOrder.little.word32 bytes 4 = (e.time.nanos + 500) / 1000
  captured : ByteOrder.little.word32 bytes 8 = e.data.length
  wireLength : ByteOrder.little.word32 bytes 12 = e.wireLength.toNat
  data : bytes.drop 16 = e.data

lemma stamped_bytes {e : Entry} (h : e.Fits) : e.Stamped e.bytes := by
  have hseconds := word_seconds h []
  have hmicros := word_micros (e := e) []
  have hcaptured := word_length h []
  have hwire := word_wireLength (e := e) []
  rw [List.append_nil] at hseconds hmicros hcaptured hwire
  refine ⟨length_bytes e, ?_, ?_, hcaptured, hwire, ?_⟩
  · rw [hmicros]
    exact Nat.mod_lt _ (by decide)
  · rw [hseconds, hmicros]
    exact Nat.div_add_mod' _ _
  · exact List.drop_left' (Writer.length_recordHeader ..)

lemma forall₂_stamped {entries : List Entry} (h : ∀ e ∈ entries, e.Fits) :
    List.Forall₂ Stamped entries (entries.map bytes) := by
  rw [List.forall₂_map_right_iff, List.forall₂_same]
  exact fun e he => stamped_bytes (h e he)

end Entry

structure CaptureOf (snapLength : UInt32) (link : LinkType) (entries : List Entry) (bytes : List UInt8) : Prop where
  header : Begins snapLength link bytes
  records : ∃ pieces, List.Forall₂ Entry.Stamped entries pieces ∧ bytes.drop 24 = pieces.flatten

lemma captureOf_entries {entries : List Entry} (h : ∀ e ∈ entries, e.Fits) (snapLength : UInt32) (link : LinkType) :
    CaptureOf snapLength link entries (fileHeader snapLength link ++ entries.flatMap Entry.bytes) where
  header := begins_fileHeader snapLength link _
  records := by
    refine ⟨entries.map Entry.bytes, Entry.forall₂_stamped h, ?_⟩
    rw [List.drop_left' (Writer.length_fileHeader _ _), List.flatMap_def]

end CaptureSieve
