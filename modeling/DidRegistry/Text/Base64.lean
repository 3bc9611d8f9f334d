import DidRegistry.Text.Utf8

/-!
Base64 in its canonical form: the standard alphabet, groups of four characters, the last group
filled up with `=`, and the bits that the filling leaves unused all zero. Any other text is refused,
so that no two texts decode to the same octets.
-/

namespace DidRegistry.Base64

def symbol (value : Nat) : Char :=
  if value < 26 then Char.ofNat ('A'.toNat + value)
  else if value < 52 then Char.ofNat ('a'.toNat + (value - 26))
  else if value < 62 then Char.ofNat ('0'.toNat + (value - 52))
  else if value = 62 then '+'
  else '/'

def value? (c : Char) : Option Nat :=
  if 'A' ≤ c ∧ c ≤ 'Z' then some (c.toNat - 'A'.toNat)
  else if 'a' ≤ c ∧ c ≤ 'z' then some (c.toNat - 'a'.toNat + 26)
  else if '0' ≤ c ∧ c ≤ '9' then some (c.toNat - '0'.toNat + 52)
  else if c = '+' then some 62
  else if c = '/' then some 63
  else none

/-- The characters that write the octets, three octets to a group. -/
def encodeChars : Bytes → List Char
  | [] => []
  | [a] => [symbol (a.toNat / 4), symbol (a.toNat % 4 * 16), '=', '=']
  | [a, b] =>
    [symbol (a.toNat / 4), symbol (a.toNat % 4 * 16 + b.toNat / 16),
      symbol (b.toNat % 16 * 4), '=']
  | a :: b :: c :: rest =>
    symbol (a.toNat / 4) :: symbol (a.toNat % 4 * 16 + b.toNat / 16) ::
      symbol (b.toNat % 16 * 4 + c.toNat / 64) :: symbol (c.toNat % 64) :: encodeChars rest

def encode (bytes : Bytes) : String := String.ofList (encodeChars bytes)

/-- The octets of a full group. -/
def group? (a b c d : Char) : Option Bytes := do
  let a ← value? a
  let b ← value? b
  let c ← value? c
  let d ← value? d
  pure [UInt8.ofNat (a * 4 + b / 16), UInt8.ofNat (b % 16 * 16 + c / 4),
    UInt8.ofNat (c % 4 * 64 + d)]

/-- The octets of the last group, which may be filled up and then leaves no bit set unused. -/
def lastGroup? (a b c d : Char) : Option Bytes :=
  if d = '=' then
    if c = '=' then do
      let a ← value? a
      let b ← value? b
      if b % 16 = 0 then pure [UInt8.ofNat (a * 4 + b / 16)] else none
    else do
      let a ← value? a
      let b ← value? b
      let c ← value? c
      if c % 4 = 0 then
        pure [UInt8.ofNat (a * 4 + b / 16), UInt8.ofNat (b % 16 * 16 + c / 4)]
      else none
  else group? a b c d

def decodeChars? : List Char → Option Bytes
  | [] => some []
  | [a, b, c, d] => lastGroup? a b c d
  | a :: b :: c :: d :: rest => do
    let first ← group? a b c d
    let others ← decodeChars? rest
    pure (first ++ others)
  | _ => none

/-- The octets that a text writes in canonical form. -/
def decode? (text : String) : Option Bytes := decodeChars? text.toList

end DidRegistry.Base64
