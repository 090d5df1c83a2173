import CaptureSieve.Address

/-!
The five-tuple of a packet, and the flow it belongs to whichever way it goes.
-/

namespace CaptureSieve

structure FlowKey where
  source : Address
  sourcePort : UInt16
  destination : Address
  destinationPort : UInt16
  protocol : UInt8
  deriving DecidableEq, Repr

namespace FlowKey

def isForward (k : FlowKey) : Bool :=
  decide (k.source.rank < k.destination.rank) ||
    (decide (k.source = k.destination) && decide (k.sourcePort ≤ k.destinationPort))

def backward (k : FlowKey) : FlowKey :=
  ⟨k.destination, k.destinationPort, k.source, k.sourcePort, k.protocol⟩

@[simp] theorem backward_backward (k : FlowKey) : k.backward.backward = k := rfl

def canonical (k : FlowKey) : FlowKey := if k.isForward then k else k.backward

def endpointText (address : Address) (port : UInt16) : String :=
  match address with
  | .v4 a => s!"{a.text}:{port}"
  | .v6 a => s!"[{a.text}]:{port}"

def protocolText (protocol : UInt8) : String :=
  if protocol = 6 then "TCP" else if protocol = 17 then "UDP" else s!"IP/{protocol}"

def text (k : FlowKey) : String :=
  protocolText k.protocol ++ " " ++ endpointText k.source k.sourcePort ++ " -> " ++
    endpointText k.destination k.destinationPort

end FlowKey

end CaptureSieve
