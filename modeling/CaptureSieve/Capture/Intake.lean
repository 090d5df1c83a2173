import CaptureSieve.Capture.Stream

/-!
The buffered reading of a stream, frame by frame. The buffer holds a bounded number of bytes; a frame is taken
once the buffer holds all of it.
-/

namespace CaptureSieve

def bufferSize : Nat := 65536

/-- A stream being read. Of `rest`, the bytes not yet taken, the first `buffered` are in the buffer. -/
structure Intake where
  rest : List UInt8
  buffered : Nat
  unread : Nat
  offset : Nat
  ending : Ending
  readSize : Nat → Nat
  length_rest : rest.length = buffered + unread

inductive Fault where
  | unrecognized
  | incomplete (missing : Nat)
  | malformed
  | bufferFull
  | readFailed
  deriving DecidableEq, Repr

def Fault.message : Fault → String
  | unrecognized => "Header not recognized as PCAP or PCAPNG"
  | incomplete missing => s!"Incomplete read: {missing}"
  | malformed => "Internal parser error Verify"
  | bufferFull => "Buffer is too small"
  | readFailed => "Read error"

/-- What stands at the front of a buffer of `available` bytes: a frame of some size, the first part of one, or
neither. -/
inductive Scan (available : Nat) (α : Type) where
  | found (value : α) (size : Nat) (size_pos : 0 < size) (size_le : size ≤ available)
  | missing (count : Nat)
  | faulty (fault : Fault)

abbrev Framing (α : Type) := List UInt8 → (available : Nat) → Scan available α

inductive Fetched (α : Type) where
  | frame (value : α) (next : Intake)
  | finished
  | truncated
  | failed (fault : Fault) (state : Intake)

namespace Intake

theorem buffered_add_unread (total : Nat) : total = min total bufferSize + (total - bufferSize) := by
  omega

def filled (s : ByteStream) : Intake where
  rest := s.bytes
  buffered := min s.bytes.length bufferSize
  unread := s.bytes.length - bufferSize
  offset := min s.bytes.length bufferSize
  ending := s.ending
  readSize := s.readSize
  length_rest := buffered_add_unread s.bytes.length

/-- The buffer is filled before anything is looked at, so a stream that breaks early is not begun. -/
def ofStream (s : ByteStream) : Except String Intake :=
  match s.ending with
  | .closed => .ok (filled s)
  | .broken reason => if s.bytes.length < bufferSize then .error reason else .ok (filled s)

def consume (s : Intake) (size : Nat) : Intake :=
  let taken := min size s.buffered
  { s with
    rest := s.rest.drop taken
    buffered := s.buffered - taken
    length_rest := by have := s.length_rest; rw [List.length_drop]; omega }

def readMore (s : Intake) : Intake :=
  let count := min (bufferSize - s.buffered) (min (max 1 (s.readSize s.offset)) s.unread)
  { s with
    buffered := s.buffered + count
    unread := s.unread - count
    offset := s.offset + count
    length_rest := by have := s.length_rest; omega }

theorem consume_lt {s : Intake} {size : Nat} (pos : 0 < size) (le : size ≤ s.buffered) :
    (s.consume size).rest.length < s.rest.length := by
  have := s.length_rest
  simp only [consume, List.length_drop]
  omega

theorem unread_readMore_lt {s : Intake} (room : s.buffered < bufferSize) (more : 0 < s.unread) :
    s.readMore.unread < s.unread := by
  simp only [readMore]
  omega

@[simp] theorem rest_readMore (s : Intake) : s.readMore.rest = s.rest := rfl

/-- The next frame, reading on as long as only its first part is there. A part that could never fit into the
buffer is refused before more is read. -/
def fetch {α : Type} (scan : Framing α) (s : Intake) : Fetched α :=
  match scan s.rest s.buffered with
  | .found value size _ _ => .frame value (s.consume size)
  | .faulty fault => .failed fault s
  | .missing count =>
    if _ : bufferSize ≤ s.buffered + count then .failed .bufferFull s
    else if _ : 0 < s.unread then fetch scan s.readMore
    else
      match s.ending with
      | .broken _ => .failed .readFailed s
      | .closed => if s.buffered = 0 then .finished else .truncated
termination_by s.unread
decreasing_by exact unread_readMore_lt (by omega) (by omega)

theorem fetch_lt {α : Type} {scan : Framing α} {s next : Intake} {value : α}
    (h : s.fetch scan = .frame value next) : next.rest.length < s.rest.length := by
  fun_induction fetch scan s with
  | case1 s v size pos le hs =>
    obtain ⟨rfl, rfl⟩ := Fetched.frame.inj h
    exact consume_lt pos le
  | case4 s count hs room more ih => simpa using ih h
  | case2 => simp at h
  | case3 => simp at h
  | case5 => simp at h
  | case6 => simp at h
  | case7 => simp at h

end Intake

end CaptureSieve
