import Gatehouse.Json.Reader

/-!
# Percent-decoding

`%` with two hexadecimal digits after it stands for a byte; everything else stands for the bytes
of its UTF-8 encoding, a `%` without two digits included. The bytes are then read as UTF-8.
-/

namespace Gatehouse.Text.Percent

/-- The bytes that a text stands for. -/
def bytes : List Char → List UInt8
  | [] => []
  | '%' :: a :: b :: r =>
    match Json.hexDigit? a, Json.hexDigit? b with
    | some x, some y => UInt8.ofNat (x * 16 + y) :: bytes r
    | _, _ => String.utf8EncodeChar '%' ++ bytes (a :: b :: r)
  | c :: r => String.utf8EncodeChar c ++ bytes r
termination_by s => s.length

/-- The text that a list of bytes encodes, if it is well-formed UTF-8. -/
def ofUtf8? (bs : List UInt8) : Option String := String.fromUTF8? ⟨bs.toArray⟩

/-- The text that an encoded text stands for, if its bytes are well-formed UTF-8. -/
def decode? (s : List Char) : Option String := ofUtf8? (bytes s)

end Gatehouse.Text.Percent
