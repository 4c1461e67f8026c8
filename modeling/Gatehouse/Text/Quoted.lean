import Gatehouse.Unicode.Visible

/-!
# Quoted text in messages

How a message shows a text it was given: between quotation marks, with every character that would
not be seen by itself written as an escape.
-/

namespace Gatehouse.Text

/-- The code points of a number in lower-case hexadecimal digits. -/
def hexText (n : Nat) : String := String.ofList (Nat.toDigits 16 n)

def quotedChar (c : Char) : String :=
  match c with
  | '\x00' => "\\0"
  | '\t' => "\\t"
  | '\n' => "\\n"
  | '\r' => "\\r"
  | '"' => "\\\""
  | '\\' => "\\\\"
  | c => if Unicode.isVisible c then c.toString else "\\u\x7b" ++ hexText c.toNat ++ "\x7d"

def quoted (s : String) : String :=
  "\"" ++ "".intercalate (s.toList.map quotedChar) ++ "\""

end Gatehouse.Text
