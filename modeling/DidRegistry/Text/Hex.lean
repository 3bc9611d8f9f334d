import DidRegistry.Text.Digits
import DidRegistry.Text.Utf8

/-!
Octets written as pairs of hexadecimal digits, lowercase, the high half first.
-/

namespace DidRegistry.Hex

def pair (byte : UInt8) : List Char :=
  [Digits.lowerHex (byte.toNat / 16), Digits.lowerHex (byte.toNat % 16)]

def encode (bytes : Bytes) : String := String.ofList (bytes.flatMap pair)

/-- The octets that pairs of digits write, in either case. -/
def decodeDigits? : List Char → Option Bytes
  | [] => some []
  | high :: low :: rest => do
    let high ← Digits.hex? high
    let low ← Digits.hex? low
    let bytes ← decodeDigits? rest
    pure (UInt8.ofNat (16 * high + low) :: bytes)
  | [_] => none

/-- The octets that a text writes as pairs of digits. -/
def decode? (text : String) : Option Bytes := decodeDigits? text.toList

end DidRegistry.Hex
