import CaptureSieve.Capture.Pcap
import CaptureSieve.Capture.Pcapng
import CaptureSieve.Filter.Parser

/-!
Reading the records of a capture of either format, told apart by its first four bytes.
-/

namespace CaptureSieve

inductive Format where
  | pcap
  | pcapng
  deriving DecidableEq, Repr

def Format.name : Format → String
  | pcap => "pcap"
  | pcapng => "pcapng"

inductive Stage where
  | init
  | next
  | refill
  deriving DecidableEq, Repr

def Stage.name : Stage → String
  | init => "init"
  | next => "next"
  | refill => "refill"

inductive SourceError where
  | io (reason : String)
  | capture (format : Format) (stage : Stage) (fault : Fault)
  | filter (error : FilterError)
  deriving DecidableEq

def SourceError.message : SourceError → String
  | io reason => "I/O error: " ++ reason
  | capture format stage fault => s!"PCAP parse error: {format.name} reader {stage.name}: {fault.message}"
  | filter error => "invalid filter: " ++ error.message

inductive Reader where
  | pcap (header : Pcap.FileHeader) (intake : Intake)
  | pcapng (state : Pcapng.State) (intake : Intake)

namespace Reader

def intake : Reader → Intake
  | pcap _ intake => intake
  | pcapng _ intake => intake

def format : Reader → Format
  | pcap .. => .pcap
  | pcapng .. => .pcapng

def remaining (r : Reader) : Nat := r.intake.rest.length

def pcapngMagic : List UInt8 := [0x0a, 0x0d, 0x0d, 0x0a]

def shortCapture : String := "capture shorter than its magic"

/-- The first section header is looked at but not taken. -/
def openPcapng (intake : Intake) : Except SourceError Reader :=
  match Pcapng.State.start.frame intake.rest intake.buffered with
  | .found .. => .ok (.pcapng .start intake)
  | .missing count => .error (.capture .pcapng .init (.incomplete count))
  | .faulty fault => .error (.capture .pcapng .init fault)

def openPcap (intake : Intake) : Except SourceError Reader :=
  match Pcap.FileHeader.ofBytes intake.rest intake.buffered with
  | .ok header => .ok (.pcap header (intake.consume Pcap.headerSize))
  | .error fault => .error (.capture .pcap .init fault)

def ofStream (s : ByteStream) : Except SourceError Reader :=
  match Intake.ofStream s with
  | .error reason => .error (.io reason)
  | .ok intake =>
    if intake.buffered < 4 then .error (.io shortCapture)
    else if intake.rest.take 4 = pcapngMagic then openPcapng intake
    else openPcap intake

end Reader

/-- What one step of a reader gives. After a failure it stands before the bytes that caused it. -/
inductive Step where
  | record (r : Record) (next : Reader)
  | finished
  | truncated
  | failed (error : SourceError) (state : Reader)

namespace Step

def failure (format : Format) (fault : Fault) : SourceError :=
  .capture format (if fault = .readFailed then .refill else .next) fault

end Step

namespace Reader

def nextPcap (header : Pcap.FileHeader) (intake : Intake) : Step :=
  match intake.fetch header.frame with
  | .frame record next => .record record (.pcap header next)
  | .finished => .finished
  | .truncated => .truncated
  | .failed fault state => .failed (Step.failure .pcap fault) (.pcap header state)

def nextPcapng (state : Pcapng.State) (intake : Intake) : Step :=
  match h : intake.fetch state.frame with
  | .frame (.packet interface ticks wireLength data) next =>
    .record (state.record interface ticks wireLength data) (.pcapng state next)
  | .frame block next =>
    have _shorter := Intake.fetch_lt h
    nextPcapng (state.after block) next
  | .finished => .finished
  | .truncated => .truncated
  | .failed fault halted => .failed (Step.failure .pcapng fault) (.pcapng state halted)
termination_by intake.rest.length

def next : Reader → Step
  | pcap header intake => nextPcap header intake
  | pcapng state intake => nextPcapng state intake

theorem nextPcapng_lt {state : Pcapng.State} {intake : Intake} {record : Record} {after : Reader}
    (h : nextPcapng state intake = .record record after) : after.remaining < intake.rest.length := by
  fun_induction nextPcapng state intake with
  | case1 state intake i ticks wire data next hf =>
    obtain ⟨-, rfl⟩ := Step.record.inj h
    exact Intake.fetch_lt hf
  | case2 state intake block next hn hf shorter ih => exact Nat.lt_trans (ih h) shorter
  | case3 => simp at h
  | case4 => simp at h
  | case5 => simp at h

theorem next_lt {r after : Reader} {record : Record} (h : r.next = .record record after) :
    after.remaining < r.remaining := by
  cases r with
  | pcap header intake =>
    simp only [next, nextPcap] at h
    split at h <;> simp at h
    next hf =>
    obtain ⟨-, rfl⟩ := h
    exact Intake.fetch_lt hf
  | pcapng state intake => exact nextPcapng_lt h

end Reader

end CaptureSieve
