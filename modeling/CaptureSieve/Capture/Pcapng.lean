import CaptureSieve.ByteOrder
import CaptureSieve.Capture.Intake
import CaptureSieve.Record

/-!
The pcapng format: sections of blocks, each section with a byte order and a table of interfaces of its own.
-/

namespace CaptureSieve.Pcapng

structure Interface where
  link : LinkType
  ticksPerSecond : Nat
  offset : Int
  deriving DecidableEq, Repr

namespace Interface

def unknown : Interface := ⟨.ethernet, 1_000_000, 0⟩

/-- The high bit tells a power of two from a power of ten. A unit that does not fit 64 bits is taken for
microseconds. -/
def resolution (b : UInt8) : Nat :=
  let exponent := b.toNat % 128
  let units := if b.toNat < 128 then Nat.pow 10 exponent else 1 <<< exponent
  if units < 0x1_0000_0000_0000_0000 then units else 1_000_000

def time (i : Interface) (ticks : UInt64) : Instant where
  nanos :=
    let units := max 1 i.ticksPerSecond
    min (((ticks.toNat / units : Nat) : Int) + i.offset).toNat 0xffff_ffff_ffff_ffff * 1_000_000_000 +
      ticks.toNat % units * 1_000_000_000 / units
  nanos_lt := by
    generalize hu : max 1 i.ticksPerSecond = units
    have pos : 0 < units := by omega
    have part : ticks.toNat % units * 1_000_000_000 / units < 1_000_000_000 :=
      Nat.div_lt_of_lt_mul (Nat.mul_lt_mul_of_pos_right (Nat.mod_lt _ pos) (by decide))
    show min (((ticks.toNat / units : Nat) : Int) + i.offset).toNat 0xffff_ffff_ffff_ffff * 1_000_000_000 +
      ticks.toNat % units * 1_000_000_000 / units < 0x1_0000_0000_0000_0000 * 1_000_000_000
    omega

end Interface

inductive Block where
  | sectionHeader (order : ByteOrder)
  | interface (i : Interface)
  | packet (interface : Nat) (ticks : UInt64) (wireLength : UInt32) (data : List UInt8)
  | other
  deriving DecidableEq, Repr

structure State where
  order : ByteOrder
  interfaces : List Interface
  deriving DecidableEq, Repr

namespace State

def start : State := ⟨.little, []⟩

def after (s : State) : Block → State
  | .sectionHeader order => ⟨order, []⟩
  | .interface i => { s with interfaces := s.interfaces ++ [i] }
  | _ => s

def interfaceAt (s : State) (index : Nat) : Interface := s.interfaces.getD index .unknown

end State

def padded (n : Nat) : Nat := (n + 3) / 4 * 4

def splitOff? (n : Nat) (bytes : List UInt8) : Option (List UInt8 × List UInt8) :=
  if (bytes.take n).length = n then some (bytes.take n, bytes.drop n) else none

theorem splitOff?_eq_some_iff {n : Nat} {bytes front rest : List UInt8} :
    splitOff? n bytes = some (front, rest) ↔ front.length = n ∧ bytes = front ++ rest := by
  unfold splitOff?
  constructor
  · intro h
    split at h
    · next hn =>
      obtain ⟨rfl, rfl⟩ := Prod.mk.inj (Option.some.inj h)
      exact ⟨hn, (List.take_append_drop n bytes).symm⟩
    · simp at h
  · rintro ⟨rfl, rfl⟩
    simp

def options (order : ByteOrder) (bytes : List UInt8) : List (Nat × List UInt8) :=
  match hh : splitOff? 4 bytes with
  | none => []
  | some (head, rest) =>
    match hv : splitOff? (padded (order.word16 head 2)) rest with
    | none => []
    | some (value, after) =>
      have _shorter : after.length < bytes.length := by
        obtain ⟨four, rfl⟩ := splitOff?_eq_some_iff.1 hh
        obtain ⟨-, rfl⟩ := splitOff?_eq_some_iff.1 hv
        simp only [List.length_append]
        omega
      (order.word16 head 0, value) :: options order after
termination_by bytes.length

/-- The first eight bytes as a signed number, the least significant first whatever the section's order. -/
def signedOffset (value : List UInt8) : Int :=
  let n : Nat := ByteOrder.little.word32 value 0 + 0x1_0000_0000 * ByteOrder.little.word32 value 4
  if n < 0x8000_0000_0000_0000 then (n : Int) else (n : Int) - 0x1_0000_0000_0000_0000

def Interface.withOption (i : Interface) : Nat × List UInt8 → Interface
  | (9, unit :: _) => { i with ticksPerSecond := resolution unit }
  | (14, value) => if 8 ≤ value.length then { i with offset := signedOffset value } else i
  | _ => i

inductive Body where
  | block (b : Block)
  | missing (count : Nat)
  | malformed

def maxLength : Nat := 0xffff_fffb

def interfaceBody (order : ByteOrder) (content : List UInt8) : Body :=
  let link : LinkType := .ofNat (order.word16 content 0)
  .block (.interface ((options order (content.drop 8)).foldl Interface.withOption ⟨link, 1_000_000, 0⟩))

def packetBody (order : ByteOrder) (content : List UInt8) : Body :=
  let length := order.word32 content 12
  if maxLength ≤ length then .malformed
  else
    let rest := content.drop 20
    if rest.length < padded length then .missing (padded length - rest.length)
    else
      let ticks := UInt64.ofNat (order.word32 content 4 * 0x1_0000_0000 + order.word32 content 8)
      .block (.packet (order.word32 content 0) ticks (UInt32.ofNat (order.word32 content 16)) (rest.take length))

def secretsBody (order : ByteOrder) (content : List UInt8) : Body :=
  let length := order.word32 content 4
  if maxLength ≤ length then .malformed
  else
    let rest := content.drop 8
    if rest.length < padded length then .missing (padded length - rest.length) else .block .other

/-- Name records of code, length and padded value, up to four zero bytes. Fewer than four bytes are the start
of that end while they are zeros, and else the start of a record. -/
def namesBody (order : ByteOrder) (content : List UInt8) : Body :=
  match hh : splitOff? 4 content with
  | none =>
    if content.all (· == 0) then .missing (4 - content.length)
    else if content.length < 2 then .missing (2 - content.length)
    else .missing (4 - content.length)
  | some (head, rest) =>
    if head.all (· == 0) then .block .other
    else
      let size := padded (order.word16 head 2)
      match hv : splitOff? size rest with
      | none => .missing (size - rest.length)
      | some (value, after) =>
        have _shorter : after.length < content.length := by
          obtain ⟨four, rfl⟩ := splitOff?_eq_some_iff.1 hh
          obtain ⟨-, rfl⟩ := splitOff?_eq_some_iff.1 hv
          simp only [List.length_append]
          omega
        namesBody order after
termination_by content.length

def sectionCode : Nat := 0x0a0d0d0a
def interfaceCode : Nat := 1
def packetCode : Nat := 6
def namesCode : Nat := 4
def secretsCode : Nat := 0xa

def leastSize (code : Nat) : Nat :=
  if code = sectionCode then 28
  else if code = interfaceCode then 20
  else if code = packetCode then 32
  else if code = 3 then 16
  else if code = namesCode then 12
  else if code = 5 then 24
  else if code = 9 then 12
  else if code = secretsCode then 20
  else if code = 0xbad ∨ code = 0x40000bad then 16
  else 12

def repeatsSize (code : Nat) : Bool :=
  [interfaceCode, packetCode, namesCode, 5, secretsCode, 0xbad, 0x40000bad, 0x80000001].contains code

def body (order : ByteOrder) (code : Nat) (content : List UInt8) : Body :=
  if code = sectionCode then .block (.sectionHeader order)
  else if code = interfaceCode then interfaceBody order content
  else if code = packetCode then packetBody order content
  else if code = namesCode then namesBody order content
  else if code = secretsCode then secretsBody order content
  else .block .other

theorem leastSize_pos (code : Nat) : 0 < leastSize code := by
  unfold leastSize
  repeat' split
  all_goals decide

/-- A block of the kind `code`: head, content, and the length once more. Each piece has to be there before the
next is asked for. -/
def blockFrame (order : ByteOrder) (code : Nat) : Framing Block := fun bytes available =>
  let least := leastSize code
  if available < least then .missing (least - available)
  else
    let size := order.word32 bytes 4
    if _ : size < least then .faulty .malformed
    else if available < size - 4 then .missing (size - 4 - available)
    else if _ : available < size then .missing (size - available)
    else
      match body order code ((bytes.drop 8).take (size - 12)) with
      | .malformed => .faulty .malformed
      | .missing count => .missing count
      | .block b =>
        if repeatsSize code ∧ order.word32 bytes (size - 4) ≠ size then .faulty .malformed
        else .found b size (by have := leastSize_pos code; omega) (by omega)

def byteOrderMagic : Nat := 0x1a2b3c4d

def sectionFrame : Framing Block := fun bytes available =>
  if available < 12 then .missing (12 - available)
  else if ByteOrder.little.word32 bytes 8 = byteOrderMagic then blockFrame .little sectionCode bytes available
  else if ByteOrder.big.word32 bytes 8 = byteOrderMagic then blockFrame .big sectionCode bytes available
  else .faulty .unrecognized

def State.frame (s : State) : Framing Block := fun bytes available =>
  if available < 4 then .missing (4 - available)
  else
    let code := s.order.word32 bytes 0
    if code = sectionCode then sectionFrame bytes available else blockFrame s.order code bytes available

def State.record (s : State) (interface : Nat) (ticks : UInt64) (wireLength : UInt32) (data : List UInt8) : Record :=
  let i := s.interfaceAt interface
  ⟨i.time ticks, i.link, wireLength, data⟩

end CaptureSieve.Pcapng
