import CaptureSieve.Idna.Composition
import CaptureSieve.Idna.Direction
import CaptureSieve.Idna.Joining
import CaptureSieve.Idna.Permitted
import CaptureSieve.Idna.Punycode

/-!
International names as they are shown. A label that cannot be spelled in ASCII is sent in Punycode behind a prefix.
-/

namespace CaptureSieve.Idna

def codePrefix : List Char := ['x', 'n', '-', '-']

/-- The label that is meant. One sent in Punycode holds more than ASCII, so that its code does not end in a hyphen. -/
def meant? (label : List Char) : Option (List Char) :=
  if codePrefix.isPrefixOf label then
    if label.getLast? = some '-' ∨ label.any (128 ≤ ·.toNat) then none
    else ofPunycode? (label.drop codePrefix.length)
  else some label

def isValid (label : List Char) : Bool :=
  label.all isPermitted && isComposed label && !label.head?.any isMark && joinersFit [] label

def shown? (name : List Char) : Option (List Char) :=
  match ((name.map Char.toLower).splitOn '.').mapM meant? with
  | none => none
  | some labels => if labels.all isValid && directionsFit labels then some (['.'].intercalate labels) else none

end CaptureSieve.Idna
