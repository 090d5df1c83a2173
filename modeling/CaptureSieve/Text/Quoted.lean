import CaptureSieve.Text.Visible

/-!
Texts in double quotes, with a backslash in front of what could not be read back or seen.
-/

namespace CaptureSieve.Text

def hex (n : Nat) : String := String.ofList (Nat.toDigits 16 n)

def quotedChar (c : Char) : String :=
  match c with
  | '\x00' => "\\0"
  | '\t' => "\\t"
  | '\n' => "\\n"
  | '\r' => "\\r"
  | '"' => "\\\""
  | '\\' => "\\\\"
  | c => if isVisible c then c.toString else "\\u\x7b" ++ hex c.toNat ++ "\x7d"

def quoted (s : List Char) : String := "\"" ++ String.join (s.map quotedChar) ++ "\""

end CaptureSieve.Text
