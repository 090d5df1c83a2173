import CaptureSieve.Dns.Cursor

/-!
The data of resource records. Nothing of it is kept: only its form is checked, type by type.
-/

namespace CaptureSieve.Dns

def optType : Nat := 41

def Reader.subnet : Reader Unit := do
  let family ← word
  if family ≠ 1 ∧ family ≠ 2 then fail .subnetFamily
  else
    let bits ← byte
    let _scope ← byte
    let size := (bits + 7) / 8
    if (if family = 1 then 4 else 16) < size then fail .subnetSize
    else
      let _address ← times byte size
      pure ()

def checkOption (code : Nat) (value : List UInt8) : Except ParseError Unit :=
  if code = 8 then (Reader.subnet ⟨0, value⟩).1 else .ok ()

def checkUnits (size : Nat) (value : List UInt8) : Except ParseError Unit :=
  if value.length % size = 0 then .ok () else .error .endOfInput

def checkProtocols (value : List UInt8) : Except ParseError Unit :=
  match value with
  | [] => .ok ()
  | size :: tail =>
    if tail.length < size.toNat then .error .endOfInput
    else if (ByteArray.mk (tail.take size.toNat).toArray).validateUTF8 then checkProtocols (tail.drop size.toNat)
    else .error .protocolText
termination_by value.length
decreasing_by
  simp only [List.length_drop, List.length_cons]
  omega

/-- A service parameter: 0 lists other parameters, 1 names protocols, 2 is a mark, 3 is a port, 4 and 6 list
addresses, and 5 has a size of its own in front. -/
def checkParameter (key : Nat) (value : List UInt8) : Except ParseError Unit :=
  match key with
  | 0 => if value.isEmpty then .error .mandatoryEmpty else checkUnits 2 value
  | 1 => if value.isEmpty then .error .protocolsEmpty else checkProtocols value
  | 2 => if value.isEmpty then .ok () else .error .protocolsEmpty
  | 3 => if value.length < 2 then .error .endOfInput else .ok ()
  | 4 => checkUnits 4 value
  | 5 =>
    match Reader.word ⟨0, value⟩ with
    | (.error e, _) => .error e
    | (.ok size, next) => if next.rest.length < size then .error .echTooLong else .ok ()
  | 6 => checkUnits 16 value
  | _ => .ok ()

def isLetterOrDigit (b : UInt8) : Bool := (Char.ofNat b.toNat).isAlphanum

/-- The next byte of a type bit map belongs to a block: its number, its size, or its bits from some place on. -/
inductive BlockPart where
  | number
  | size
  | bits (place size : Nat)

namespace Reader

def strings (stop : Nat) : Reader Unit := fun c =>
  if c.position < stop then
    match hr : c.rest with
    | [] => (.error .endOfInput, c)
    | size :: tail =>
      have _shorter := Cursor.length_drop_lt hr size.toNat
      if tail.length < size.toNat then (.error .endOfInput, ⟨c.position + 1, tail⟩)
      else strings stop ⟨c.position + 1 + size.toNat, tail.drop size.toNat⟩
  else (.ok (), c)
termination_by c => c.rest.length
decreasing_by exact _shorter

def options (length stop : Nat) : Reader Unit := fun c =>
  if c.position < stop then
    match hr : c.rest with
    | [] => (.error .endOfInput, c)
    | [_] => (.error .endOfInput, c)
    | high :: low :: tail =>
      let atSize : Cursor := ⟨c.position + 2, tail⟩
      if atSize.position < stop then
        match word atSize with
        | (.error e, next) => (.error e, next)
        | (.ok size, next) =>
          have _shorter := Cursor.length_drop_lt hr (size + 3)
          if length < size then (.error .optionTooLong, next)
          else if next.position + size ≤ stop ∨ size = 0 then
            let after : Cursor := ⟨next.position + size, (low :: tail).drop (size + 3)⟩
            match checkOption (256 * high.toNat + low.toNat) ((tail.drop 2).take size) with
            | .error e => (.error e, after)
            | .ok () => options length stop after
          else (.ok (), next.skip (stop - next.position))
      else (.ok (), atSize)
  else (.ok (), c)
termination_by c => c.rest.length
decreasing_by exact _shorter

def serviceParameters (stop : Nat) (last : Option Nat) : Reader Unit := fun c =>
  if c.position + 4 ≤ stop then
    match hr : c.rest with
    | k :: k' :: s :: s' :: tail =>
      let key := 256 * k.toNat + k'.toNat
      let size := 256 * s.toNat + s'.toNat
      have _shorter := Cursor.length_drop_lt hr (size + 3)
      if tail.length < size then (.error (.parameterTooLong size tail.length), ⟨c.position + 4, tail⟩)
      else
        let after : Cursor := ⟨c.position + 4 + size, (k' :: s :: s' :: tail).drop (size + 3)⟩
        match checkParameter key (tail.take size) with
        | .error e => (.error e, after)
        | .ok () =>
          if last.any (key ≤ ·) then (.error .parameterOrder, after) else serviceParameters stop (some key) after
    | _ => (.error .endOfInput, c.skip (c.rest.length / 2 * 2))
  else (.ok (), c)
termination_by c => c.rest.length
decreasing_by exact _shorter

def typeMaps : Nat → BlockPart → Reader Unit
  | 0, _ => pure ()
  | n + 1, part => do
    let b ← byte
    match part with
    | .number => typeMaps n .size
    | .size => typeMaps n (.bits 0 b)
    | .bits place size =>
      if 32 ≤ place ∧ b ≠ 0 then fail .typeOutOfMap
      else if size = 0 then fail .emptyMap
      else typeMaps n (if place + 1 = size then .number else .bits (place + 1) size)

def tagLetters : Nat → Reader Unit
  | 0 => pure ()
  | n + 1 => do
    let b ← byte
    if isLetterOrDigit (UInt8.ofNat b) then tagLetters n else fail .tagText

def certificationAuthority (length : Nat) : Reader Unit := do
  let _flags ← byte
  let size ← byte
  if length < size + 2 then fail .tagText
  else if size = 0 ∨ 15 < size then fail .tagSize
  else
    tagLetters size
    opaqueBytes (length - 2 - size)

def namingPointer (message : List UInt8) : Reader Unit := do
  let _order ← times word 2
  let flags ← string
  if flags.all isLetterOrDigit then
    let _texts ← times string 2
    let _name ← name message
    pure ()
  else fail .orderFlags

def childSync (length : Nat) : Reader Unit := do
  let _serial ← long
  let flags ← word
  if flags / 4 % 64 ≠ 0 then fail (.syncFlags flags) else typeMaps (length - 6) .number

def data (message : List UInt8) (type length : Nat) : Reader Unit := fun c =>
  let name := bind (name message) fun _ => pure ()
  let fields (width count : Nat) : Reader Unit := bind (times (field width) count) fun _ => pure ()
  let stop := c.position + length
  let reader : Reader Unit :=
    if type = 0 then pure ()
    else if type = 1 then fields 1 4
    else if type = 28 then fields 2 8
    else if type = 2 ∨ type = 5 ∨ type = 12 ∨ type = 65305 then name
    else if type = 15 then bind (fields 2 1) fun _ => name
    else if type = 16 then strings stop
    else if type = 6 then bind name fun _ => bind name fun _ => fields 4 5
    else if type = 13 then bind string fun _ => bind string fun _ => pure ()
    else if type = 33 then bind (fields 2 3) fun _ => name
    else if type = 35 then namingPointer message
    else if type = 44 then bind (fields 1 2) fun _ => opaqueBytes (length - 2)
    else if type = 52 then bind (fields 1 3) fun _ => opaqueBytes (length - 3)
    else if type = 62 then childSync length
    else if type = 64 ∨ type = 65 then bind (fields 2 1) fun _ => bind name fun _ => serviceParameters stop none
    else if type = 257 then certificationAuthority length
    else if type = optType then options length stop
    else opaqueBytes length
  reader c

/-- Data of `length` bytes, which its own form must fill exactly. That is checked before the form's own
failure is looked at. Three types are for queries alone. -/
def sizedData (message : List UInt8) (type length : Nat) : Reader Unit := fun c =>
  if type = 251 ∨ type = 252 ∨ type = 255 then (.error (.queryOnlyType type), c)
  else
    let (result, next) := data message type length c
    let used := next.position - c.position
    if used = length then (result, next) else (.error (.dataSize used length), next)

end Reader

end CaptureSieve.Dns
