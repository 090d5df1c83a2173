import CaptureSieve.Packet.Fields

/-!
Checksum verification. A mismatch is found only where every byte that the checksum covers was captured.
-/

namespace CaptureSieve

inductive Unverifiable where
  | truncated
  | noTransport
  | udpChecksumAbsent
  deriving DecidableEq, Repr

inductive Verification where
  | verified
  | headerOnly
  | unverifiable (why : Unverifiable)
  deriving DecidableEq, Repr

namespace Verification

def scope? (protocol : UInt8) : Option (LayerKind × ChecksumScope) :=
  if protocol = Layers.tcpProtocol then some (.tcp, .tcp)
  else if protocol = Layers.udpProtocol then some (.udp, .udp)
  else none

def ofSegment (ip : Ipv4Header) (scope : ChecksumScope) (segment : List UInt8) :
    Except PacketError Verification :=
  if 65536 ≤ segment.length then .error (.malformed (.longSegment segment.length))
  else
    let pseudo := Checksum.pseudoHeader ip.source.bytes ip.destination.bytes ip.protocol segment.length
    if Checksum.internet [pseudo, segment] = 0 then .ok verified else .error (.checksumMismatch scope)

end Verification

namespace Record

variable (r : Record)

def verifySegment (ip : Ipv4Header) (kind : LayerKind) (scope : ChecksumScope) :
    Except PacketError Verification :=
  match r.layerBytes kind with
  | .error _ => .ok (.unverifiable .noTransport)
  | .ok segment =>
    if scope = .udp then
      match r.udp with
      | .error e => .error e
      | .ok h =>
        if h.checksum = 0 then .ok (.unverifiable .udpChecksumAbsent)
        else Verification.ofSegment ip scope segment
    else Verification.ofSegment ip scope segment

def verify (transport : Bool) : Except PacketError Verification :=
  match r.ipv4 with
  | .error e => .error e
  | .ok ip =>
    if Checksum.internet [ip.bytes] ≠ 0 then .error (.checksumMismatch .ipv4Header)
    else if !transport then .ok .headerOnly
    else
      match r.layer .ipv4 with
      | .error e => .error e
      | .ok l =>
        if r.data.length - l.start < ip.totalLength then .ok (.unverifiable .truncated)
        else
          match Verification.scope? ip.protocol with
          | none => .ok (.unverifiable .noTransport)
          | some (kind, scope) => r.verifySegment ip kind scope

def checksumOk (transport : Bool) : Bool := (r.verify transport).isOk

end Record

end CaptureSieve
