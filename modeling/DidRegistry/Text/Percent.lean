import DidRegistry.Text.Digits
import DidRegistry.Text.Utf8

/-!
Percent escapes. A character that may not stand for itself is written as its UTF-8 octets, each as
`%` and two uppercase hexadecimal digits; `decode` takes escapes back to octets and leaves every
other character as it is.
-/

namespace DidRegistry.Percent

def escape (byte : UInt8) : List Char :=
  ['%', Digits.upperHex (byte.toNat / 16), Digits.upperHex (byte.toNat % 16)]

/-- A character as it is, if `kept`, and otherwise the escapes of its octets. -/
def encodeChar (kept : Char → Bool) (c : Char) : List Char :=
  if kept c then [c] else (String.utf8EncodeChar c).flatMap escape

def encode (kept : Char → Bool) (text : List Char) : List Char := text.flatMap (encodeChar kept)

/-- The octets of a text in which escapes stand for octets. A `%` without two digits behind it
stands for itself. -/
def decode : List Char → Bytes
  | '%' :: high :: low :: rest =>
    match Digits.hex? high, Digits.hex? low with
    | some high, some low => UInt8.ofNat (16 * high + low) :: decode rest
    | _, _ => String.utf8EncodeChar '%' ++ decode (high :: low :: rest)
  | c :: rest => String.utf8EncodeChar c ++ decode rest
  | [] => []

end DidRegistry.Percent
