/-!
Reading Punycode, which spells a text in lower case ASCII: first its ASCII characters, then how far the others stand
apart when taken by code point and place.
-/

namespace CaptureSieve.Idna

def base : Nat := 36

def digit? (c : Char) : Option Nat :=
  if c.isLower then some (c.toNat - 97)
  else if c.isDigit then some (c.toNat - 22)
  else none

def threshold (place bias : Nat) : Nat := if place ≤ bias then 1 else min 26 (place - bias)

def number? (bias : Nat) : Nat → Nat → Nat → List Char → Option (Nat × List Char)
  | _, _, _, [] => none
  | place, weight, sum, c :: rest =>
    match digit? c with
    | none => none
    | some d =>
      let sum := sum + d * weight
      if d < threshold place bias then some (sum, rest)
      else number? bias (place + base) (weight * (base - threshold place bias)) sum rest

theorem number?_shorter {bias place weight sum n : Nat} {s rest : List Char}
    (h : number? bias place weight sum s = some (n, rest)) : rest.length < s.length := by
  induction s generalizing place weight sum with
  | nil => simp [number?] at h
  | cons c s ih =>
    simp only [number?] at h
    split at h
    · simp at h
    · split at h
      · obtain ⟨-, rfl⟩ := Prod.mk.inj (Option.some.inj h)
        simp
      · exact Nat.lt_succ_of_lt (ih h)

def reduced (step skipped : Nat) : Nat × Nat :=
  if 455 < step then reduced (step / 35) (skipped + base) else (skipped, step)
termination_by step
decreasing_by omega

def adaptedBias (step size : Nat) (isFirst : Bool) : Nat :=
  let halved := if isFirst then step / 700 else step / 2
  let (skipped, left) := reduced (halved + halved / size) 0
  skipped + base * left / (left + 38)

/-- Inserts the characters that are spelled by numbers into a text. The state counts up through all code points from
`code` on, and for each through all places of the text from `place` on. -/
def insertAll (bias code place : Nat) (text : List Char) : List Char → Option (List Char)
  | [] => some text
  | c :: s =>
    match hn : number? bias base 1 place (c :: s) with
    | none => none
    | some (sum, rest) =>
      have _shorter := number?_shorter hn
      let size := text.length + 1
      let next := code + sum / size
      if next.isValidChar then
        insertAll (adaptedBias (sum - place) size (place = 0)) next (sum % size + 1)
          (text.insertIdx (sum % size) (Char.ofNat next)) rest
      else none
termination_by s => s.length
decreasing_by exact _shorter

def ofPunycode? (s : List Char) : Option (List Char) :=
  let tail := (s.reverse.takeWhile (· ≠ '-')).reverse
  let front := s.take (s.length - tail.length - 1)
  if front.isEmpty then insertAll 72 128 0 [] s else insertAll 72 128 0 front tail

end CaptureSieve.Idna
