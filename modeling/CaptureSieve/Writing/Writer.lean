import CaptureSieve.ByteOrder
import CaptureSieve.Record
import CaptureSieve.Writing.Error
import CaptureSieve.Writing.Sink

/-!
Writing a pcap capture: a file header, then a header and the bytes of each record. All words are little-endian and
times are in microseconds.
-/

namespace CaptureSieve

def fileHeader (snapLength : UInt32) (link : LinkType) : List UInt8 :=
  let word := ByteOrder.little.bytes32
  word 0xa1b2c3d4 ++ ByteOrder.little.bytes16 2 ++ ByteOrder.little.bytes16 4 ++ word 0 ++ word 0 ++
    word snapLength.toNat ++ word link.word.toNat

def recordHeader (seconds micros length : Nat) (wireLength : UInt32) : List UInt8 :=
  let word := ByteOrder.little.bytes32
  word seconds ++ word micros ++ word length ++ word wireLength.toNat

structure Writer where
  output : BufferedSink
  snapLength : UInt32
  link : LinkType
  records : Nat

namespace Writer

/-- The file header fits into the buffer, so nothing fails yet. -/
def ofSink (sink : Sink) (snapLength : UInt32) (link : LinkType) : Writer :=
  { output := ((BufferedSink.ofSink sink).put (fileHeader snapLength link)).2, snapLength, link, records := 0 }

def timeFields (snapLength : UInt32) (length : Nat) (time : Instant) : Except WriteError (Nat × Nat) :=
  if snapLength.toNat < length then .error (.recordTooLarge length snapLength.toNat)
  else
    let (seconds, micros) := time.roundedMicros
    if seconds < 0x1_0000_0000 then .ok (seconds, micros) else .error (.timeOutOfRange time)

def refused (w : Writer) : WriteError := .io w.output.sink.refusal

def write (w : Writer) (data : List UInt8) (wireLength : UInt32) (time : Instant) :
    Except WriteError Unit × Writer :=
  match timeFields w.snapLength data.length time with
  | .error e => (.error e, w)
  | .ok (seconds, micros) =>
    match w.output.put (recordHeader seconds micros data.length wireLength) with
    | (false, output) => (.error w.refused, { w with output })
    | (true, output) =>
      match output.put data with
      | (false, output) => (.error w.refused, { w with output })
      | (true, output) => (.ok (), { w with output, records := w.records + 1 })

def close (w : Writer) : Except WriteError Unit × Sink :=
  let (all, output) := w.output.flush
  (if all then .ok () else .error w.refused, output.sink)

end Writer

end CaptureSieve
