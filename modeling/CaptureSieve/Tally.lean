import CaptureSieve.Instant.Calendar
import CaptureSieve.Packet.Verdict

/-!
What a sieve has counted so far: packets accepted and dropped, flows, and the span of time.
-/

namespace CaptureSieve

structure DropTally where
  notIpv4 : Nat
  notTransport : Nat
  badChecksum : Nat
  unwritable : Nat
  deriving DecidableEq, Repr

def DropTally.add (d : DropTally) : DropReason → DropTally
  | .notIpv4 => { d with notIpv4 := d.notIpv4 + 1 }
  | .notTransport => { d with notTransport := d.notTransport + 1 }
  | .badChecksum => { d with badChecksum := d.badChecksum + 1 }
  | .unwritable => { d with unwritable := d.unwritable + 1 }

structure Tally where
  accepted : Nat
  dropped : Nat
  drops : DropTally
  unverified : Nat
  dnsPackets : Nat
  /-- The flows of accepted packets, each once, whichever way its packets went. -/
  flows : List FlowKey
  first : Option Instant
  last : Option Instant

namespace Tally

def empty : Tally := ⟨0, 0, ⟨0, 0, 0, 0⟩, 0, 0, [], none, none⟩

def drop (t : Tally) (reason : DropReason) : Tally :=
  { t with dropped := t.dropped + 1, drops := t.drops.add reason }

def withFlow (flows : List FlowKey) : Except PacketError FlowKey → List FlowKey
  | .error _ => flows
  | .ok key => if key.canonical ∈ flows then flows else key.canonical :: flows

def accept (t : Tally) (r : Record) (unverified : Bool) : Tally :=
  { t with
    accepted := t.accepted + 1
    unverified := if unverified then t.unverified + 1 else t.unverified
    dnsPackets := if r.isDns then t.dnsPackets + 1 else t.dnsPackets
    flows := withFlow t.flows r.flowKey
    first := some (t.first.getD r.time)
    last := match t.last with
      | some last => some (if last ≤ r.time then r.time else last)
      | none => some r.time }

def flowCount (t : Tally) : Nat := t.flows.length

def timeStart? (t : Tally) : Option String := t.first.bind Instant.rfc3339?

def timeEnd? (t : Tally) : Option String := t.last.bind Instant.rfc3339?

end Tally

end CaptureSieve
