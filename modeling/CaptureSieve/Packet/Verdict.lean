import CaptureSieve.Packet.Verification

/-!
Whether a packet goes into the output.
-/

namespace CaptureSieve

inductive DropReason where
  | notIpv4
  | notTransport
  | badChecksum
  /-- The output has no place for the packet's time or size. -/
  | unwritable
  deriving DecidableEq, Repr

def DropReason.text : DropReason → String
  | notIpv4 => "not IPv4"
  | notTransport => "not TCP/UDP"
  | badChecksum => "bad checksum"
  | unwritable => "not representable in the output"

inductive Verdict where
  | accept (unverified : Bool)
  | drop (reason : DropReason)
  deriving DecidableEq, Repr

def Verdict.ofVerification : Except PacketError Verification → Verdict
  | .ok (.unverifiable _) => accept true
  | .ok _ => accept false
  | .error _ => drop .badChecksum

def Record.classify (r : Record) (verifyTransport : Bool) : Verdict :=
  match r.ipv4 with
  | .error _ => .drop .notIpv4
  | .ok _ =>
    if r.isTcp || r.isUdp then .ofVerification (r.verify verifyTransport) else .drop .notTransport

end CaptureSieve
