import CaptureSieve.Filter.Scanner
import CaptureSieve.Text.Blank
import CaptureSieve.Text.Quoted

/-!
The grammar of filters. `not` binds tightest, then `and`, then `or`; equal operators group to the left.

  expr      = term (or term)*
  term      = factor (and factor)*
  factor    = not factor | "(" expr ")" | primitive
-/

namespace CaptureSieve.Filter

namespace Scanner

def direction : Scanner Direction :=
  (do keyword ['s', 'r', 'c']; pure .source) <|> (do keyword ['d', 's', 't']; pure .destination) <|> pure .either

def transport : Scanner (Option Transport) :=
  (do keyword ['t', 'c', 'p']; pure (some .tcp)) <|> (do keyword ['u', 'd', 'p']; pure (some .udp)) <|> pure none

def ipProtocol : Scanner Primitive := do
  keyword ['p', 'r', 'o', 't', 'o']
  let n ← number 256
  pure (.ipProtocol (UInt8.ofNat n))

def net : Scanner Primitive := do
  let direction ← direction
  keyword ['n', 'e', 't']
  let address ← address
  char '/'
  let size ← number 33
  pure (.net direction ⟨address, size⟩)

def portRange : Scanner Primitive := do
  let direction ← direction
  let transport ← transport
  keyword ['p', 'o', 'r', 't', 'r', 'a', 'n', 'g', 'e']
  let first ← number 65536
  char '-'
  let last ← number 65536
  if first ≤ last then pure (.portRange direction transport (UInt16.ofNat first) (UInt16.ofNat last)) else fail

def port : Scanner Primitive := do
  let direction ← direction
  let transport ← transport
  keyword ['p', 'o', 'r', 't']
  let n ← number 65536
  pure (.port direction transport (UInt16.ofNat n))

def host : Scanner Primitive := do
  let direction ← direction
  keyword ['h', 'o', 's', 't']
  let address ← address
  pure (.host direction address)

def protocol : Scanner Primitive :=
  (do word ['t', 'c', 'p']; pure (.protocol .tcp)) <|> (do word ['u', 'd', 'p']; pure (.protocol .udp)) <|>
  (do word ['i', 'c', 'm', 'p']; pure (.protocol .icmp)) <|> (do word ['i', 'p', '6']; pure (.protocol .ip6)) <|>
  (do word ['i', 'p']; pure (.protocol .ip))

def primitive : Scanner Primitive := ipProtocol <|> net <|> portRange <|> port <|> host <|> protocol

def notOperator : Scanner Unit := keyword ['n', 'o', 't'] <|> (do char '!'; blanks)

def andOperator : Scanner Unit := do
  blanks
  keyword ['a', 'n', 'd'] <|> (do word ['&', '&']; blanks)

def orOperator : Scanner Unit := do
  blanks
  keyword ['o', 'r'] <|> (do word ['|', '|']; blanks)

def openParen : Scanner Unit := do
  char '('
  blanks

def closeParen : Scanner Unit := do
  blanks
  char ')'

theorem keeps_direction : direction.Keeps :=
  ((advances_keyword _).bind fun _ => keeps_pure _).keeps.orElse
    (((advances_keyword _).bind fun _ => keeps_pure _).keeps.orElse (keeps_pure _))

theorem keeps_transport : transport.Keeps :=
  ((advances_keyword _).bind fun _ => keeps_pure _).keeps.orElse
    (((advances_keyword _).bind fun _ => keeps_pure _).keeps.orElse (keeps_pure _))

theorem advances_ipProtocol : ipProtocol.Advances :=
  (advances_keyword _).bind fun _ => (advances_number _).keeps.bind fun _ => keeps_pure _

theorem advances_net : net.Advances :=
  keeps_direction.bind_advances fun _ => (advances_keyword _).bind fun _ => advances_address.keeps.bind fun _ =>
  (advances_char _).keeps.bind fun _ => (advances_number _).keeps.bind fun _ => keeps_pure _

theorem advances_portRange : portRange.Advances :=
  keeps_direction.bind_advances fun _ => keeps_transport.bind_advances fun _ => (advances_keyword _).bind fun _ =>
  (advances_number _).keeps.bind fun _ => (advances_char _).keeps.bind fun _ =>
  (advances_number _).keeps.bind fun _ => by
    split
    · exact keeps_pure _
    · exact keeps_fail

theorem advances_port : port.Advances :=
  keeps_direction.bind_advances fun _ => keeps_transport.bind_advances fun _ => (advances_keyword _).bind fun _ =>
  (advances_number _).keeps.bind fun _ => keeps_pure _

theorem advances_host : host.Advances :=
  keeps_direction.bind_advances fun _ => (advances_keyword _).bind fun _ => advances_address.keeps.bind fun _ =>
  keeps_pure _

theorem advances_protocol : protocol.Advances :=
  have h (c : Char) (cs : List Char) (p : Primitive) : Advances (do word (c :: cs); pure p) :=
    (advances_word c cs).bind fun _ => keeps_pure _
  (h _ _ _).orElse ((h _ _ _).orElse ((h _ _ _).orElse ((h _ _ _).orElse (h _ _ _))))

theorem advances_primitive : primitive.Advances :=
  advances_ipProtocol.orElse (advances_net.orElse (advances_portRange.orElse
    (advances_port.orElse (advances_host.orElse advances_protocol))))

theorem advances_notOperator : notOperator.Advances :=
  (advances_keyword _).orElse ((advances_char _).bind fun _ => keeps_blanks)

theorem advances_andOperator : andOperator.Advances :=
  keeps_blanks.bind_advances fun _ =>
    (advances_keyword _).orElse ((advances_word _ _).bind fun _ => keeps_blanks)

theorem advances_orOperator : orOperator.Advances :=
  keeps_blanks.bind_advances fun _ =>
    (advances_keyword _).orElse ((advances_word _ _).bind fun _ => keeps_blanks)

theorem advances_openParen : openParen.Advances := (advances_char _).bind fun _ => keeps_blanks

theorem advances_closeParen : closeParen.Advances := keeps_blanks.bind_advances fun _ => advances_char _

end Scanner

open Scanner

/-- What a parser finds at the front of `s`, with a shorter rest. -/
abbrev Found (s : List Char) := Option (Expr × { rest : List Char // rest.length < s.length })

/-- An operand already read, with all that follows it and belongs to it; the rest is no longer than `s`. -/
abbrev Extended (s : List Char) := Expr × { rest : List Char // rest.length ≤ s.length }

mutual

def scanFactor (s : List Char) : Found s :=
  match hn : notOperator s with
  | some ((), rest) =>
    have hr := advances_notOperator s () rest hn
    match scanFactor rest with
    | some (e, ⟨after, h⟩) => some (.not e, ⟨after, Nat.lt_trans h hr⟩)
    | none => none
  | none =>
    match ho : openParen s with
    | some ((), inner) =>
      have hi := advances_openParen s () inner ho
      match scanExpr inner with
      | some (e, ⟨rest, h⟩) =>
        match hc : closeParen rest with
        | some ((), after) =>
          some (e, ⟨after, Nat.lt_trans (advances_closeParen rest () after hc) (Nat.lt_trans h hi)⟩)
        | none => none
      | none => none
    | none =>
      match hp : primitive s with
      | some (p, rest) => some (.primitive p, ⟨rest, advances_primitive s p rest hp⟩)
      | none => none
termination_by 3 * s.length

def extendAnd (left : Expr) (s : List Char) : Extended s :=
  match ha : andOperator s with
  | some ((), rest) =>
    have hr := advances_andOperator s () rest ha
    match scanFactor rest with
    | some (right, ⟨after, h⟩) =>
      let (e, ⟨last, hl⟩) := extendAnd (.and left right) after
      (e, ⟨last, by omega⟩)
    | none => (left, ⟨s, Nat.le_refl _⟩)
  | none => (left, ⟨s, Nat.le_refl _⟩)
termination_by 3 * s.length

def scanTerm (s : List Char) : Found s :=
  match scanFactor s with
  | some (first, ⟨rest, h⟩) =>
    let (e, ⟨last, hl⟩) := extendAnd first rest
    some (e, ⟨last, Nat.lt_of_le_of_lt hl h⟩)
  | none => none
termination_by 3 * s.length + 1

def extendOr (left : Expr) (s : List Char) : Extended s :=
  match ho : orOperator s with
  | some ((), rest) =>
    have hr := advances_orOperator s () rest ho
    match scanTerm rest with
    | some (right, ⟨after, h⟩) =>
      let (e, ⟨last, hl⟩) := extendOr (.or left right) after
      (e, ⟨last, by omega⟩)
    | none => (left, ⟨s, Nat.le_refl _⟩)
  | none => (left, ⟨s, Nat.le_refl _⟩)
termination_by 3 * s.length

def scanExpr (s : List Char) : Found s :=
  match scanTerm s with
  | some (first, ⟨rest, h⟩) =>
    let (e, ⟨last, hl⟩) := extendOr first rest
    some (e, ⟨last, Nat.lt_of_le_of_lt hl h⟩)
  | none => none
termination_by 3 * s.length + 2

end

end Filter

inductive FilterError where
  | empty
  | noExpression (expression : List Char)
  | unread (expression rest : List Char)
  deriving DecidableEq, Repr

namespace FilterError

def parseMessage (expression rest : List Char) (code : String) : String :=
  "cannot parse filter `" ++ String.ofList expression ++ "`: Parsing Error: Error \x7b input: " ++
    Text.quoted rest ++ ", code: " ++ code ++ " \x7d"

def message : FilterError → String
  | empty => "empty filter expression"
  | noExpression e => parseMessage e e "Tag"
  | unread e rest => parseMessage e rest "Eof"

end FilterError

structure Filter where
  expression : List Char
  expr : Filter.Expr

namespace Filter

def ofText (text : String) : Except FilterError Filter :=
  let expression := Text.trim text.toList
  if expression.isEmpty then .error .empty
  else
    match scanExpr expression with
    | none => .error (.noExpression expression)
    | some (e, ⟨[], _⟩) => .ok ⟨expression, e⟩
    | some (_, ⟨rest, _⟩) => .error (.unread expression rest)

end Filter

end CaptureSieve
