import CaptureSieve.Idna.Label

/-!
Domain names as lists of labels, and how they are shown.
-/

namespace CaptureSieve.Dns

abbrev Label := List UInt8

structure Name where
  labels : List Label
  deriving DecidableEq

namespace Name

def root : Name := ⟨[]⟩

def size (n : Name) : Nat := n.labels.flatten.length + max 1 n.labels.length

def octal (n : Nat) : String :=
  let digits := String.ofList (Nat.toDigits 8 n)
  String.ofList (List.replicate (3 - digits.length) '0') ++ digits

/-- Letters, digits and underscores stand for themselves, as do a hyphen after the first place and an
asterisk at it; other visible characters follow a backslash, and the rest is three octal digits. -/
def byteText (first : Bool) (b : UInt8) : String :=
  let c := Char.ofNat b.toNat
  if c.isAlphanum ∨ c = '_' ∨ (c = '-' ∧ !first) ∨ (c = '*' ∧ first) then c.toString
  else if 0x20 < b.toNat ∧ b.toNat < 0x7f then "\\" ++ c.toString
  else "\\" ++ octal b.toNat

def escapedText : Label → String
  | [] => ""
  | b :: rest => String.join (byteText true b :: rest.map (byteText false))

def codePrefix : Label := [0x78, 0x6e, 0x2d, 0x2d]

def labelText (label : Label) : String :=
  let name := if codePrefix.isPrefixOf label then (String.fromUTF8? ⟨label.toArray⟩).map (·.toList) else none
  match name.bind Idna.shown? with
  | some shown => String.ofList shown
  | none => escapedText label

def text (n : Name) : String := ".".intercalate (n.labels.map labelText) ++ "."

end Name

end CaptureSieve.Dns
