/-!
Digits and the numbers they write: decimal and hexadecimal numerals, reading and writing.
-/

namespace DidRegistry.Digits

/-- The value of a decimal digit. -/
def decimal? (c : Char) : Option Nat :=
  if '0' ≤ c ∧ c ≤ '9' then some (c.toNat - '0'.toNat) else none

/-- The value of a hexadecimal digit, in either case. -/
def hex? (c : Char) : Option Nat :=
  if '0' ≤ c ∧ c ≤ '9' then some (c.toNat - '0'.toNat)
  else if 'a' ≤ c ∧ c ≤ 'f' then some (c.toNat - 'a'.toNat + 10)
  else if 'A' ≤ c ∧ c ≤ 'F' then some (c.toNat - 'A'.toNat + 10)
  else none

/-- The number that digits of a base write, most significant first; `none` if a character is no
digit. Nothing writes zero. -/
def number? (base : Nat) (digit? : Char → Option Nat) (text : List Char) : Option Nat :=
  text.foldlM (fun value c => (digit? c).map (base * value + ·)) 0

/-- The digit for a value below sixteen, in lowercase. -/
def lowerHex (value : Nat) : Char :=
  Char.ofNat (if value < 10 then '0'.toNat + value else 'a'.toNat + (value - 10))

/-- The digit for a value below sixteen, in uppercase. -/
def upperHex (value : Nat) : Char :=
  Char.ofNat (if value < 10 then '0'.toNat + value else 'A'.toNat + (value - 10))

def decimal (value : Nat) : List Char := Nat.toDigits 10 value

/-- A decimal numeral of at least the given width, filled up with zeros on the left. -/
def padded (width value : Nat) : List Char :=
  List.replicate (width - (decimal value).length) '0' ++ decimal value

end DidRegistry.Digits
