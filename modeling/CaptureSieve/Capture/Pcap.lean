import CaptureSieve.ByteOrder
import CaptureSieve.Capture.Intake
import CaptureSieve.Record

/-!
The pcap format: a file header that fixes byte order, unit of time and link type, then records.
-/

namespace CaptureSieve

/-- Seconds and a fraction, in nanoseconds or else microseconds. A fraction past a second is just added. -/
def Instant.ofWords (nanosecond : Bool) (seconds fraction : UInt32) : Instant where
  nanos := seconds.toNat * 1_000_000_000 + fraction.toNat * (if nanosecond then 1 else 1000)
  nanos_lt := by
    have := seconds.toNat_lt
    have := fraction.toNat_lt
    split <;> omega

namespace Pcap

def headerSize : Nat := 24

/-- What the first four bytes say. A modified file has eight more bytes in each record header. -/
structure Magic where
  order : ByteOrder
  nanosecond : Bool
  modified : Bool
  deriving DecidableEq, Repr

def Magic.ofWord? (littleWord : Nat) : Option Magic :=
  if littleWord = 0xa1b2c3d4 then some ⟨.little, false, false⟩
  else if littleWord = 0xa1b23c4d then some ⟨.little, true, false⟩
  else if littleWord = 0xa1b2cd34 then some ⟨.little, false, true⟩
  else if littleWord = 0xd4c3b2a1 then some ⟨.big, false, false⟩
  else if littleWord = 0x4d3cb2a1 then some ⟨.big, true, false⟩
  else none

def Magic.recordHeaderSize (m : Magic) : Nat := if m.modified then 24 else 16

structure FileHeader where
  magic : Magic
  link : LinkType
  deriving DecidableEq, Repr

def fieldEnds : List Nat := [4, 6, 8, 12, 16, 20, 24]

/-- Of the file header only magic and link type matter. One that breaks off lacks what its last field lacks. -/
def FileHeader.ofBytes (bytes : List UInt8) (available : Nat) : Except Fault FileHeader :=
  match Magic.ofWord? (ByteOrder.little.word32 bytes 0) with
  | none => .error .unrecognized
  | some magic =>
    match fieldEnds.find? (available < ·) with
    | some stop => .error (.incomplete (stop - available))
    | none => .ok ⟨magic, .ofNat (magic.order.word32 bytes 20)⟩

def FileHeader.record (h : FileHeader) (bytes : List UInt8) (length : Nat) : Record :=
  let order := h.magic.order
  { time := .ofWords h.magic.nanosecond (UInt32.ofNat (order.word32 bytes 0)) (UInt32.ofNat (order.word32 bytes 4))
    link := h.link
    wireLength := UInt32.ofNat (order.word32 bytes 12)
    data := (bytes.drop h.magic.recordHeaderSize).take length }

theorem Magic.recordHeaderSize_pos (m : Magic) : 0 < m.recordHeaderSize := by
  unfold recordHeaderSize
  split <;> decide

def FileHeader.frame (h : FileHeader) : Framing Record := fun bytes available =>
  let head := h.magic.recordHeaderSize
  if available < head then .missing (head - available)
  else
    let length := h.magic.order.word32 bytes 8
    if _ : available < head + length then .missing (head + length - available)
    else
      .found (h.record bytes length) (head + length) (Nat.add_pos_left h.magic.recordHeaderSize_pos _) (by omega)

end Pcap

end CaptureSieve
