import CaptureSieve.Address.Network

/-!
Packet filters: tests on a packet's addresses, ports and protocol, and their Boolean combinations.
-/

namespace CaptureSieve.Filter

inductive Direction where
  | source
  | destination
  | either
  deriving DecidableEq, Repr

inductive Protocol where
  | tcp
  | udp
  | icmp
  | ip
  | ip6
  deriving DecidableEq, Repr

inductive Transport where
  | tcp
  | udp
  deriving DecidableEq, Repr

inductive Primitive where
  | protocol (protocol : Protocol)
  | host (direction : Direction) (address : Ipv4Address)
  | net (direction : Direction) (network : Network)
  | port (direction : Direction) (transport : Option Transport) (port : UInt16)
  | portRange (direction : Direction) (transport : Option Transport) (first last : UInt16)
  | ipProtocol (number : UInt8)
  deriving DecidableEq, Repr

inductive Expr where
  | primitive (test : Primitive)
  | not (operand : Expr)
  | and (left right : Expr)
  | or (left right : Expr)
  deriving DecidableEq, Repr

end CaptureSieve.Filter
