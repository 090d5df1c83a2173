import CaptureSieve.Filter.Parser
import CaptureSieve.Packet.Fields

/-!
Which packets a filter lets through. A test on a layer that the packet does not have is false.
-/

namespace CaptureSieve.Filter

def passes {α : Type} (p : α → Bool) (field : Except PacketError α) : Bool := (field.map p).toOption.getD false

def Direction.holds (d : Direction) (source destination : Bool) : Bool :=
  match d with
  | .source => source
  | .destination => destination
  | .either => source || destination

def Transport.holds (t : Option Transport) (r : Record) : Bool :=
  match t with
  | some .tcp => r.isTcp
  | some .udp => r.isUdp
  | none => true

def Protocol.holds (p : Protocol) (r : Record) : Bool :=
  match p with
  | .tcp => r.isTcp
  | .udp => r.isUdp
  | .icmp => r.isProtocol Layers.icmpProtocol
  | .ip => (r.layer .ipv4).isOk
  | .ip6 => (r.layer .ipv6).isOk

def addressHolds (d : Direction) (p : Ipv4Address → Bool) (r : Record) : Bool :=
  d.holds (passes p r.source) (passes p r.destination)

def portHolds (d : Direction) (t : Option Transport) (p : UInt16 → Bool) (r : Record) : Bool :=
  Transport.holds t r && d.holds (passes p r.sourcePort) (passes p r.destinationPort)

def Primitive.holds (p : Primitive) (r : Record) : Bool :=
  match p with
  | .protocol p => p.holds r
  | .host d a => addressHolds d (· == a) r
  | .net d n => addressHolds d n.contains r
  | .port d t n => portHolds d t (· == n) r
  | .portRange d t first last => portHolds d t (fun n => decide (first ≤ n) && decide (n ≤ last)) r
  | .ipProtocol n => r.isProtocol n

def Expr.holds (e : Expr) (r : Record) : Bool :=
  match e with
  | .primitive p => p.holds r
  | .not e => !e.holds r
  | .and left right => left.holds r && right.holds r
  | .or left right => left.holds r || right.holds r

def admits (f : Filter) (r : Record) : Bool := f.expr.holds r

def dnsText : String := "udp and port 53"

end CaptureSieve.Filter
