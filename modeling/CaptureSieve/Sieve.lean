import CaptureSieve.Capture.Merge
import CaptureSieve.Tally
import CaptureSieve.Writing.Writer

/-!
The sieve itself: of the packets of a merge it writes those that are sound IPv4 datagrams of TCP or UDP, without
their framing.
-/

namespace CaptureSieve

inductive RunError where
  | source (error : SourceError)
  | writer (error : WriteError)
  deriving DecidableEq

def RunError.message : RunError → String
  | source e => "source error: " ++ e.message
  | writer e => "writer error: " ++ e.message

structure Settings where
  snapLength : UInt32
  link : LinkType
  verifyTransport : Bool

def Settings.standard : Settings := ⟨65535, .raw, true⟩

inductive Fate where
  | accepted (unverified : Bool)
  | dropped (reason : DropReason)
  | unwritable (error : WriteError)
  | failed (error : WriteError)

namespace Sieve

def place (settings : Settings) (r : Record) (w : Writer) : Fate × Writer :=
  match r.classify settings.verifyTransport, r.datagram with
  | .drop reason, _ => (.dropped reason, w)
  | .accept _, .error _ => (.dropped .notIpv4, w)
  | .accept unverified, .ok bytes =>
    match w.write bytes r.wireLength r.time with
    | (.ok (), w) => (.accepted unverified, w)
    | (.error (.io reason), w) => (.failed (.io reason), w)
    | (.error e, w) => (.unwritable e, w)

structure Progress where
  tally : Tally
  writer : Writer
  warnings : List Warning

def Progress.warn (p : Progress) (warnings : List Warning) : Progress := { p with warnings := p.warnings ++ warnings }

def Progress.step (settings : Settings) (p : Progress) (r : Record) : Except WriteError Unit × Progress :=
  match place settings r p.writer with
  | (.accepted unverified, w) => (.ok (), { p with tally := p.tally.accept r unverified, writer := w })
  | (.dropped reason, w) => (.ok (), { p with tally := p.tally.drop reason, writer := w })
  | (.unwritable e, w) =>
    (.ok (), { tally := p.tally.drop .unwritable, writer := w, warnings := p.warnings ++ [.unwritable r.time e] })
  | (.failed e, w) => (.error e, { p with writer := w })

def drain (settings : Settings) (m : Merge) (p : Progress) : Except RunError Unit × Progress :=
  let c := m.next
  let p := p.warn c.warnings
  match h : c.answer with
  | .error e => (.error (.source e), p)
  | .ok none => (.ok (), p)
  | .ok (some r) =>
    have _lighter := Merge.next_weight_lt h
    match p.step settings r with
    | (.error e, p) => (.error (.writer e), p)
    | (.ok (), p) => drain settings c.state p
termination_by m.weight

structure Outcome where
  result : Except RunError Unit
  tally : Tally
  sink : Sink
  warnings : List Warning

/-- The writer is closed on every path. After a failure, that closing fails too is only a warning. -/
def run (settings : Settings) (tally : Tally) (m : Merge) (sink : Sink) : Outcome :=
  let writer := Writer.ofSink sink settings.snapLength settings.link
  let (result, p) := drain settings m ⟨tally, writer, []⟩
  let (closed, sink) := p.writer.close
  match result, closed with
  | .ok (), .ok () => ⟨.ok (), p.tally, sink, p.warnings⟩
  | .ok (), .error e => ⟨.error (.writer e), p.tally, sink, p.warnings⟩
  | .error e, .ok () => ⟨.error e, p.tally, sink, p.warnings⟩
  | .error e, .error close => ⟨.error e, p.tally, sink, p.warnings ++ [.notClosed close]⟩

structure Input where
  traffic : ByteStream
  filter : Option String
  dns : Option (Except String ByteStream)

def Input.merge (i : Input) : Except SourceError Merge := do
  let filter ← match i.filter with
    | none => pure none
    | some text =>
      match Filter.ofText text with
      | .ok f => pure (some f)
      | .error e => .error (.filter e)
  let traffic ← Source.ofStream i.traffic filter
  match i.dns with
  | none => return Merge.ofSources traffic none
  | some (.error reason) => .error (.io reason)
  | some (.ok stream) => return Merge.ofSources traffic (some (← Merge.dnsSource stream))

def distill (settings : Settings) (i : Input) (sink : Sink) : Outcome :=
  match i.merge with
  | .error e => ⟨.error (.source e), .empty, sink, []⟩
  | .ok m => run settings .empty m sink

end Sieve

end CaptureSieve
