import CaptureSieve.Packet.Error
import CaptureSieve.Packet.Header

/-!
The layers of a packet, outermost first. Only a broken link layer is an error; an inner layer that does not
decode ends the stack.
-/

namespace CaptureSieve.Layers

def tcpProtocol : UInt8 := 6
def udpProtocol : UInt8 := 17
def icmpProtocol : UInt8 := 1

def transport (protocol : UInt8) (start stop : Nat) (segment : List UInt8) : List Layer :=
  if protocol = tcpProtocol then
    match TcpHeader.ofBytes? segment with
    | some h => [⟨.tcp, start, h.size, stop⟩]
    | none => []
  else if protocol = udpProtocol then
    match UdpHeader.ofBytes? segment with
    | some _ => [⟨.udp, start, 8, stop⟩]
    | none => []
  else []

/-- The layers of an IPv4 datagram that begins at `start`. The payload ends where the total length says, so
padding behind it is left out. The transport header of a fragment is not looked for. -/
def ipv4 (start : Nat) (rest : List UInt8) : List Layer :=
  match Ipv4Header.ofBytes? rest with
  | none => []
  | some h =>
    if h.totalLength < h.size then []
    else
      let datagram := rest.take h.totalLength
      let stop := start + datagram.length
      ⟨.ipv4, start, h.size, stop⟩ ::
        if h.isFragment then [] else transport h.protocol (start + h.size) stop (datagram.drop h.size)

def ipv6 (start : Nat) (rest : List UInt8) : List Layer :=
  match Ipv6Header.ofBytes? rest with
  | none => []
  | some h =>
    let datagram := if h.payloadLength = 0 then rest else rest.take (40 + h.payloadLength)
    let stop := start + datagram.length
    ⟨.ipv6, start, 40, stop⟩ :: transport h.nextHeader (start + 40) stop (datagram.drop 40)

/-- The BSD systems disagree on the IPv6 family. -/
def family (start code : Nat) (rest : List UInt8) : List Layer :=
  if code = 2 then ipv4 start rest
  else if code = 24 ∨ code = 28 ∨ code = 30 then ipv6 start rest
  else []

/-- The family of a loopback header in the capturing host's byte order: families are small, so the order
that leaves the upper half zero is taken. -/
def hostFamily (data : List UInt8) : Nat :=
  let little := ByteOrder.little.word32 data 0
  if little < 65536 then little else ByteOrder.big.word32 data 0

def loopback (familyOf : List UInt8 → Nat) (data : List UInt8) : Except PacketError (List Layer) :=
  if data.length < 4 then .error (.malformed (.shortLoopback data.length))
  else .ok (⟨.loopback, 0, 4, data.length⟩ :: family 4 (familyOf data) (data.drop 4))

def pppoe (start : Nat) (rest : List UInt8) : List Layer :=
  if rest.length < 8 then []
  else
    let inner := rest.drop 8
    ⟨.pppoe, start, 8, start + rest.length⟩ ::
      let protocol := ByteOrder.big.word16 rest 6
      if protocol = 0x0021 then ipv4 (start + 8) inner
      else if protocol = 0x0057 then ipv6 (start + 8) inner
      else []

def tagged (stop start etherType : Nat) (rest : List UInt8) : List Layer :=
  if etherType = 0x8100 ∨ etherType = 0x88a8 ∨ etherType = 0x9100 then
    match rest with
    | _ :: _ :: high :: low :: inner =>
      ⟨.vlan, start, 4, stop⟩ :: tagged stop (start + 4) (256 * high.toNat + low.toNat) inner
    | _ => []
  else if etherType = 0x0800 then ipv4 start rest
  else if etherType = 0x86dd then ipv6 start rest
  else if etherType = 0x8864 then pppoe start rest
  else []

def ethernet (data : List UInt8) : Except PacketError (List Layer) :=
  if data.length < 14 then .error (.malformed (.shortEthernet data.length))
  else .ok (⟨.ethernet, 0, 14, data.length⟩ ::
    tagged data.length 14 (ByteOrder.big.word16 data 12) (data.drop 14))

def rawIp (data : List UInt8) : Except PacketError (List Layer) :=
  match data with
  | [] => .error (.malformed .emptyRaw)
  | first :: _ =>
    let version := first.toNat / 16
    if version = 4 then .ok (ipv4 0 data)
    else if version = 6 then .ok (ipv6 0 data)
    else .error (.malformed (.rawVersion version))

def decode (link : LinkType) (data : List UInt8) : Except PacketError (List Layer) :=
  if link = .null then loopback hostFamily data
  else if link = .loop then loopback (ByteOrder.big.word32 · 0) data
  else if link = .ethernet then ethernet data
  else if link = .raw then rawIp data
  else .error (.unsupportedLink link)

end CaptureSieve.Layers
