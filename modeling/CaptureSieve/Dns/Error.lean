import CaptureSieve.Dns.Name

/-!
Why bytes are no DNS message.
-/

namespace CaptureSieve.Dns

inductive ParseError where
  | endOfInput
  | unknownOpcode (code : Nat)
  | pointerNotPrior (position target : Nat)
  | overlap (start bound : Nat)
  | labelCode (byte : Nat)
  | nameTooLong (size : Nat)
  | optNameNotRoot (name : Name)
  | dataPastEnd (need remain : Nat)
  | dataSize (read expected : Nat)
  | optionTooLong
  | subnetFamily
  | subnetSize
  | orderFlags
  | syncFlags (flags : Nat)
  | typeOutOfMap
  | emptyMap
  | mandatoryEmpty
  | protocolsEmpty
  | protocolText
  | echTooLong
  | parameterTooLong (size remain : Nat)
  | parameterOrder
  | tagSize
  | tagText
  | queryOnlyType (type : Nat)
  | secondOpt
  deriving DecidableEq

def ParseError.message (e : ParseError) : String :=
  "malformed record: " ++ match e with
    | endOfInput => "unexpected end of input reached"
    | unknownOpcode n => s!"unknown OpCode: {n}"
    | pointerNotPrior position target => s!"label points to data not prior to idx: {position} ptr: {target}"
    | overlap start bound => s!"overlapping labels name {start} other {bound}"
    | labelCode n => "unrecognized label code: " ++ String.ofList (Nat.toDigits 2 n)
    | nameTooLong n => s!"name label data exceed 255: {n}"
    | optNameNotRoot name => "edns resource record label must be the root label (.): " ++ name.text
    | dataPastEnd need remain =>
      s!"rdata length too large for remaining bytes, need: {need} remain: {remain}"
    | dataSize read expected => s!"incorrect rdata length read: {read} expected: {expected}"
    | optionTooLong => "OPT value length exceeds rdata length"
    | subnetFamily => "Invalid family type."
    | subnetSize => "Invalid address length"
    | orderFlags => "flags are not within range [a-zA-Z0-9]"
    | syncFlags flags => "csync flags should be 0b000000**: " ++ String.ofList (Nat.toDigits 2 flags)
    | typeOutOfMap => "block len or left out of bounds in NSEC(3)"
    | emptyMap => "block left out of bounds in NSEC(3)"
    | mandatoryEmpty => "Mandatory expects at least one value"
    | protocolsEmpty => "Alpn expects at least one value"
    | protocolText => "error parsing utf8 string"
    | echTooLong => "ECH value length exceeds max size of rdata"
    | parameterTooLong size remain =>
      s!"length of SvcParamValue ({size}) exceeds remainder in RDATA ({remain})"
    | parameterOrder => "SvcParams out of order"
    | tagSize => "CAA tag length out of bounds, 1-15"
    | tagText => "CAA tag character(s) out of bounds"
    | queryOnlyType n => s!"record type value unknown: {n}"
    | secondOpt => "more than one edns record present"

end CaptureSieve.Dns
