/-!
Texts without what a terminal takes as a command: escape sequences, and control characters other than white space.
-/

namespace CaptureSieve.Text

inductive Sequence where
  | outside
  | begun
  | intermediate
  | control
  | stringBegun
  | stringParameters
  | stringIntermediate
  | string
  | command
  deriving DecidableEq, Repr

namespace Sequence

/-- Cancel and substitute end any sequence, and escape begins another. A string ends also at the byte `9c`, be it
within a character; a command ends at the bell. -/
def next (s : Sequence) (c : Char) : Sequence :=
  if c = '\x18' ∨ c = '\x1a' then outside
  else if c = '\x1b' then begun
  else
    match s with
    | outside => outside
    | begun =>
      if c = '[' then control
      else if c = ']' then command
      else if c = 'P' then stringBegun
      else if c = 'X' ∨ c = '^' ∨ c = '_' then string
      else if ' ' ≤ c ∧ c ≤ '/' then intermediate
      else if '0' ≤ c ∧ c ≤ '~' then outside
      else begun
    | intermediate => if '0' ≤ c ∧ c ≤ '~' then outside else intermediate
    | control => if '@' ≤ c ∧ c ≤ '~' then outside else control
    | stringBegun =>
      if ' ' ≤ c ∧ c ≤ '/' then stringIntermediate
      else if '0' ≤ c ∧ c ≤ '?' then stringParameters
      else if '@' ≤ c ∧ c ≤ '~' then string
      else stringBegun
    | stringParameters =>
      if ' ' ≤ c ∧ c ≤ '/' then stringIntermediate
      else if '<' ≤ c ∧ c ≤ '~' then string
      else stringParameters
    | stringIntermediate => if '0' ≤ c ∧ c ≤ '~' then string else stringIntermediate
    | string => if (String.utf8EncodeChar c).contains 0x9c then outside else string
    | command => if c = '\x07' then outside else command

def letsThrough (s : Sequence) (c : Char) : Bool := s ∈ [begun, intermediate, control] ∧ c ∈ ['\t', '\n', '\x0c', '\r']

end Sequence

def isPlain (c : Char) : Bool := (' ' ≤ c ∧ c ≠ '\x7f') ∨ c ∈ ['\t', '\n', '\x0c', '\r']

/-- Once a character shows, those after it do too until one that is not plain, even if a sequence was broken off;
that one goes on then, unless a character past ASCII came between. -/
def plainFrom (s : Sequence) (shows : Bool) : List Char → List Char
  | [] => []
  | c :: rest =>
    if isPlain c ∧ (shows ∨ s = .outside ∨ s.letsThrough c) then
      c :: plainFrom (if c.toNat < 128 then s else .outside) true rest
    else plainFrom (s.next c) false rest

def plain (text : String) : String := String.ofList (plainFrom .outside false text.toList)

end CaptureSieve.Text
