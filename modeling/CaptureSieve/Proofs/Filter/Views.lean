import CaptureSieve.Filter.Matching
import CaptureSieve.Proofs.Packet.Cells

/-!
Filters asked of a view, which decodes its record only as far as the answer needs. They answer as on the record.
-/

namespace CaptureSieve.Filter

open View (Access)

def Direction.check (d : Direction) (source destination : Access Bool) : Access Bool :=
  match d with
  | .source => source
  | .destination => destination
  | .either => source.orElse destination

def Transport.check : Option Transport → Access Bool
  | some .tcp => View.isTcp
  | some .udp => View.isUdp
  | none => .answer true

def Protocol.check : Protocol → Access Bool
  | .tcp => View.isTcp
  | .udp => View.isUdp
  | .icmp => View.isProtocol Layers.icmpProtocol
  | .ip => (View.layer .ipv4).map (·.isOk)
  | .ip6 => (View.layer .ipv6).map (·.isOk)

def checkAddress (d : Direction) (p : Ipv4Address → Bool) : Access Bool :=
  d.check (View.source.map (passes p)) (View.destination.map (passes p))

def checkPort (d : Direction) (t : Option Transport) (p : UInt16 → Bool) : Access Bool :=
  (Transport.check t).andAlso (d.check (View.sourcePort.map (passes p)) (View.destinationPort.map (passes p)))

def Primitive.check : Primitive → Access Bool
  | .protocol p => p.check
  | .host d a => checkAddress d (· == a)
  | .net d n => checkAddress d n.contains
  | .port d t n => checkPort d t (· == n)
  | .portRange d t first last => checkPort d t fun n => decide (first ≤ n) && decide (n ≤ last)
  | .ipProtocol n => View.isProtocol n

def Expr.check : Expr → Access Bool
  | .primitive p => p.check
  | .not e => e.check.map (!·)
  | .and left right => left.check.andAlso right.check
  | .or left right => left.check.orElse right.check

def check (f : Filter) : Access Bool := f.expr.check

variable (r : Record)

lemma Direction.reads_check (d : Direction) {source destination : Access Bool} {x y : Bool}
    (hs : source.Reads r x) (hd : destination.Reads r y) : (d.check source destination).Reads r (d.holds x y) := by
  cases d with
  | source => exact hs
  | destination => exact hd
  | either => exact hs.orElse hd

lemma Transport.reads_check (t : Option Transport) : (Transport.check t).Reads r (Transport.holds t r) := by
  rcases t with _ | _ | _
  · exact Access.reads_answer true
  · exact View.reads_isTcp r
  · exact View.reads_isUdp r

lemma Protocol.reads_check (p : Protocol) : p.check.Reads r (p.holds r) := by
  cases p with
  | tcp => exact View.reads_isTcp r
  | udp => exact View.reads_isUdp r
  | icmp => exact View.reads_isProtocol r _
  | ip => exact (View.reads_layer r .ipv4).map _
  | ip6 => exact (View.reads_layer r .ipv6).map _

lemma reads_checkAddress (d : Direction) (p : Ipv4Address → Bool) :
    (checkAddress d p).Reads r (addressHolds d p r) :=
  d.reads_check r ((View.reads_source r).map _) ((View.reads_destination r).map _)

lemma reads_checkPort (d : Direction) (t : Option Transport) (p : UInt16 → Bool) :
    (checkPort d t p).Reads r (portHolds d t p r) :=
  (Transport.reads_check r t).andAlso
    (d.reads_check r ((View.reads_sourcePort r).map _) ((View.reads_destinationPort r).map _))

lemma Primitive.reads_check (p : Primitive) : p.check.Reads r (p.holds r) := by
  cases p with
  | protocol p => exact p.reads_check r
  | host d a => exact reads_checkAddress r d _
  | net d n => exact reads_checkAddress r d _
  | port d t n => exact reads_checkPort r d t _
  | portRange d t first last => exact reads_checkPort r d t _
  | ipProtocol n => exact View.reads_isProtocol r n

lemma Expr.reads_check (e : Expr) : e.check.Reads r (e.holds r) := by
  induction e with
  | primitive p => exact p.reads_check r
  | not e ih => exact ih.map _
  | and left right ihl ihr => exact ihl.andAlso ihr
  | or left right ihl ihr => exact ihl.orElse ihr

lemma reads_filter (f : Filter) : f.check.Reads r (f.admits r) := f.expr.reads_check r

end CaptureSieve.Filter
