import CaptureSieve.Dns.Data

/-!
DNS messages and how they are read from bytes.
-/

namespace CaptureSieve.Dns

structure Query where
  name : Name
  type : Nat
  qclass : Nat
  deriving DecidableEq

structure ResourceRecord where
  name : Name
  type : Nat
  rclass : Nat
  ttl : Nat
  hasData : Bool
  deriving DecidableEq

structure Header where
  id : Nat
  isResponse : Bool
  opcode : Nat
  authoritative : Bool
  truncated : Bool
  recursionDesired : Bool
  recursionAvailable : Bool
  authenticData : Bool
  checkingDisabled : Bool
  responseCode : Nat
  deriving DecidableEq

structure Message where
  header : Header
  queries : List Query
  answers : List ResourceRecord
  authority : List ResourceRecord
  additional : List ResourceRecord
  hasOpt : Bool
  deriving DecidableEq

namespace Message

def empty : Message :=
  ⟨⟨0, false, 0, false, false, false, false, false, false, 0⟩, [], [], [], [], false⟩

end Message

namespace Reader

def query (message : List UInt8) : Reader Query := do
  let name ← name message
  let type ← word
  let qclass ← word
  pure ⟨name, type, qclass⟩

def remaining : Reader Nat := fun c => (.ok c.rest.length, c)

def record (message : List UInt8) : Reader ResourceRecord := do
  let name ← name message
  let type ← word
  if type = optType ∧ name ≠ .root then fail (.optNameNotRoot name)
  else
    let rclass ← word
    let ttl ← long
    let length ← word
    let remain ← remaining
    if remain < length then fail (.dataPastEnd length remain)
    else
      if 0 < length then sizedData message type length
      pure ⟨name, type, if type = optType then max 512 rclass else rclass, ttl, 0 < length⟩

def additional (message : List UInt8) : Nat → Option ResourceRecord →
    Reader (List ResourceRecord × Option ResourceRecord)
  | 0, opt => pure ([], opt)
  | n + 1, opt => do
    let r ← record message
    if r.type = optType then
      if opt.isSome then fail .secondOpt else additional message n (some r)
    else
      let (rest, opt) ← additional message n opt
      pure (r :: rest, opt)

def bit (n i : Nat) : Bool := (n >>> i) % 2 == 1

/-- The response code's upper bits are the first byte of the OPT record's time to live. -/
def message (bytes : List UInt8) : Reader Message := do
  let id ← word
  let upper ← byte
  let opcode := upper / 8 % 16
  if opcode ≠ 0 ∧ opcode ≠ 2 ∧ opcode ≠ 4 ∧ opcode ≠ 5 then fail (.unknownOpcode opcode)
  else
    let lower ← byte
    let queryCount ← word
    let answerCount ← word
    let authorityCount ← word
    let additionalCount ← word
    let queries ← times (query bytes) queryCount
    let answers ← times (record bytes) answerCount
    let authority ← times (record bytes) authorityCount
    let (additional, opt) ← additional bytes additionalCount none
    let upperCode := match opt with
      | some r => r.ttl / 0x100_0000
      | none => 0
    let header : Header :=
      { id, isResponse := bit upper 7, opcode, authoritative := bit upper 2, truncated := bit upper 1,
        recursionDesired := bit upper 0, recursionAvailable := bit lower 7, authenticData := bit lower 5,
        checkingDisabled := bit lower 4, responseCode := upperCode * 16 + lower % 16 }
    pure ⟨header, queries, answers, authority, additional, opt.isSome⟩

end Reader

def Message.ofBytes (bytes : List UInt8) : Except ParseError Message :=
  (Reader.message bytes ⟨0, bytes⟩).1

def Message.ofBytes? (bytes : List UInt8) : Option Message := (Message.ofBytes bytes).toOption

end CaptureSieve.Dns
