import CaptureSieve.ByteOrder
import CaptureSieve.Dns.Error

/-!
A position in a DNS message and the readers that move it. A reader gives the position it reached also when it
fails; a single field that is not all there is not begun.
-/

namespace CaptureSieve.Dns

structure Cursor where
  position : Nat
  rest : List UInt8

abbrev Reader (α : Type) := Cursor → Except ParseError α × Cursor

namespace Cursor

def skip (n : Nat) (c : Cursor) : Cursor := ⟨c.position + n, c.rest.drop n⟩

theorem length_drop_lt {c : Cursor} {head : UInt8} {tail : List UInt8} (h : c.rest = head :: tail) (n : Nat) :
    (tail.drop n).length < c.rest.length := by
  rw [h, List.length_cons, List.length_drop]
  omega

end Cursor

namespace Reader

def pure {α : Type} (a : α) : Reader α := fun c => (.ok a, c)

def fail {α : Type} (e : ParseError) : Reader α := fun c => (.error e, c)

def bind {α β : Type} (r : Reader α) (f : α → Reader β) : Reader β := fun c =>
  match r c with
  | (.ok a, next) => f a next
  | (.error e, next) => (.error e, next)

instance : Monad Reader where
  pure := pure
  bind := bind

def field (width : Nat) : Reader Nat := fun c =>
  let bytes := c.rest.take width
  if bytes.length < width then (.error .endOfInput, c)
  else (.ok (bytes.foldl (fun n b => 256 * n + b.toNat) 0), c.skip width)

def byte : Reader Nat := field 1

def word : Reader Nat := field 2

def long : Reader Nat := field 4

def opaqueBytes (count : Nat) : Reader Unit := fun c => (.ok (), c.skip count)

def string : Reader (List UInt8) := fun c =>
  match c.rest with
  | [] => (.error .endOfInput, c)
  | size :: tail =>
    if tail.length < size.toNat then (.error .endOfInput, ⟨c.position + 1, tail⟩)
    else (.ok (tail.take size.toNat), ⟨c.position + 1 + size.toNat, tail.drop size.toNat⟩)

def times {α : Type} (r : Reader α) : Nat → Reader (List α)
  | 0 => pure []
  | n + 1 => bind r fun a => bind (times r n) fun rest => pure (a :: rest)

/-- The labels of a name from the cursor on, after those in `front`, which are in reverse. The part being read
began at `start`; a pointer may only go back to before it, and the part read there must end before the
`bound` that sent it. -/
def nameFrom (message : List UInt8) (start : Nat) (bound : Option Nat) (front : List Label) : Reader Name :=
  fun c =>
    if bound.any (· ≤ c.position) then (.error (.overlap start (bound.getD 0)), c)
    else
      match hr : c.rest with
      | [] => (.error .endOfInput, c)
      | head :: tail =>
        have _shorter := Cursor.length_drop_lt hr head.toNat
        if head.toNat = 0 then
          let name : Name := ⟨front.reverse⟩
          (if name.size < 255 then .ok name else .error (.nameTooLong name.size), ⟨c.position + 1, tail⟩)
        else if head.toNat < 64 then
          if tail.length < head.toNat then (.error .endOfInput, ⟨c.position + 1, tail⟩)
          else
            let label := tail.take head.toNat
            let next : Cursor := ⟨c.position + 1 + head.toNat, tail.drop head.toNat⟩
            if 255 < (Name.mk (label :: front)).size then (.error (.nameTooLong head.toNat), next)
            else nameFrom message start bound (label :: front) next
        else if head.toNat < 192 then (.error (.labelCode head.toNat), c)
        else
          match tail with
          | [] => (.error .endOfInput, c)
          | low :: after =>
            let target := (head.toNat - 192) * 256 + low.toNat
            let next : Cursor := ⟨c.position + 2, after⟩
            if _ : target < start then
              ((nameFrom message target (some start) front ⟨target, message.drop target⟩).1, next)
            else (.error (.pointerNotPrior c.position target), next)
termination_by c => (start, c.rest.length)
decreasing_by
  · exact Prod.Lex.right _ _shorter
  · exact Prod.Lex.left _ _ ‹_›

def name (message : List UInt8) : Reader Name := fun c => nameFrom message c.position none [] c

end Reader

end CaptureSieve.Dns
