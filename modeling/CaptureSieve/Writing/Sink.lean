/-!
Where output goes: a sink that may take only so many bytes, and a buffer in front of it.
-/

namespace CaptureSieve

structure Sink where
  accepted : List UInt8
  room : Option Nat
  refusal : String

namespace Sink

def unbounded : Sink := ⟨[], none, ""⟩

def bounded (room : Nat) (refusal : String) : Sink := ⟨[], some room, refusal⟩

def write (s : Sink) (bytes : List UInt8) : List UInt8 × Sink :=
  match s.room with
  | none => ([], { s with accepted := s.accepted ++ bytes })
  | some room =>
    (bytes.drop room, { s with accepted := s.accepted ++ bytes.take room, room := some (room - bytes.length) })

end Sink

def outputBufferSize : Nat := 8192

structure BufferedSink where
  sink : Sink
  buffer : List UInt8

namespace BufferedSink

def ofSink (s : Sink) : BufferedSink := ⟨s, []⟩

def flush (b : BufferedSink) : Bool × BufferedSink :=
  let (rest, sink) := b.sink.write b.buffer
  (rest.isEmpty, ⟨sink, rest⟩)

/-- Bytes that fit are kept back. Others wait until the buffer is flushed, and go straight to the sink if they
would fill it. A failed flush leaves them unwritten. -/
def put (b : BufferedSink) (bytes : List UInt8) : Bool × BufferedSink :=
  let free := outputBufferSize - b.buffer.length
  if bytes.length < free then (true, { b with buffer := b.buffer ++ bytes })
  else
    match if free < bytes.length then b.flush else (true, b) with
    | (false, b) => (false, b)
    | (true, b) =>
      if outputBufferSize ≤ bytes.length then
        let (rest, sink) := b.sink.write bytes
        (rest.isEmpty, { b with sink })
      else (true, { b with buffer := b.buffer ++ bytes })

end BufferedSink

end CaptureSieve
