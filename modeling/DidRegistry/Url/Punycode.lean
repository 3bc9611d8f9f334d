import DidRegistry.Text.Digits

/-!
Names of any script in the letters of host names. The letters that a host name allows come first,
then, behind a hyphen, one number for each other character that tells what it is and where it goes.
`encode` writes a name so, and `decode?` reads it again.
-/

namespace DidRegistry.Punycode

/-- The digit for a value below thirty-six: letters, then figures. -/
def digit (value : Nat) : Char :=
  Char.ofNat (if value < 26 then 'a'.toNat + value else '0'.toNat + (value - 26))

/-- The value below which a digit ends its number, at a position counted in steps of thirty-six. -/
def threshold (position bias : Nat) : Nat :=
  if position ≤ bias + 1 then 1 else if bias + 26 ≤ position then 26 else position - bias

/-- The digits of a number, least significant first. Every digit before the last takes at least one
off the number, which bounds their count. -/
def number (bias : Nat) : Nat → Nat → Nat → List Char
  | 0, _, value => [digit value]
  | fuel + 1, position, value =>
    let limit := threshold position bias
    if value < limit then [digit value]
    else
      digit (limit + (value - limit) % (36 - limit)) ::
        number bias fuel (position + 36) ((value - limit) / (36 - limit))

/-- The bias that a number settles at: it is divided by thirty-five until it is small, and every
division moves the bias one step of thirty-six further. A number takes fewer divisions than it has
units. -/
def settle : Nat → Nat → Nat → Nat
  | 0, _, _ => 0
  | fuel + 1, position, value =>
    if 455 < value then settle fuel (position + 36) (value / 35)
    else position + 36 * value / (value + 38)

/-- The bias that suits a number, given how many characters are in place. -/
def adapt (value count : Nat) (first : Bool) : Nat :=
  let scaled := if first then value / 700 else value / 2
  settle (scaled + 1) 0 (scaled + scaled / count)

/-- The state of writing: the bias, the number to be written next, the characters in place, and the
digits so far. -/
structure Writer where
  bias : Nat
  delta : Nat
  placed : Nat
  output : List Char

/-- Passes a character while characters of one code are put in place. -/
def pass (basic code : Nat) (writer : Writer) (c : Char) : Writer :=
  if c.toNat < code then { writer with delta := writer.delta + 1 }
  else if c.toNat = code then
    ⟨adapt writer.delta (writer.placed + 1) (writer.placed == basic), 0, writer.placed + 1,
      writer.output ++ number writer.bias writer.delta 36 writer.delta⟩
  else writer

/-- Puts the characters of each code in place, codes ascending. -/
def place (name : List Char) (basic : Nat) : Nat → List Nat → Writer → Writer
  | _, [], writer => writer
  | reached, code :: codes, writer =>
    let start := { writer with
      delta := writer.delta + (code - reached) * (writer.placed + 1) }
    let passed := name.foldl (pass basic code) start
    place name basic (code + 1) codes { passed with delta := passed.delta + 1 }

def encode (name : List Char) : List Char :=
  let basic := name.filter (·.toNat < 128)
  let codes := ((name.map Char.toNat).filter (128 ≤ ·)).eraseDups.mergeSort
  let start := if basic.isEmpty then [] else basic ++ ['-']
  (place name basic.length 128 codes ⟨72, 0, basic.length, start⟩).output

/-! ### Reading -/

def value? (c : Char) : Option Nat :=
  if 'a' ≤ c ∧ c ≤ 'z' then some (c.toNat - 'a'.toNat)
  else if '0' ≤ c ∧ c ≤ '9' then some (c.toNat - '0'.toNat + 26)
  else none

/-- The state of reading: the bias, the code that was reached, the place at which the number began
that is being read, the place that its digits lead to so far, the position and the weight of its
next digit, and the characters in place. -/
structure Reader where
  bias : Nat
  code : Nat
  start : Nat
  place : Nat
  position : Nat
  weight : Nat
  name : List Char

/-- Puts the character in place that a finished number tells of. Each time that the place goes past
the end, the next code takes its turn. -/
def settlePlace (reader : Reader) : Option Reader :=
  let count := reader.name.length + 1
  let code := reader.code + reader.place / count
  let place := reader.place % count
  if code.isValidChar then
    some
      { bias := adapt (reader.place - reader.start) count (reader.start == 0)
        code
        start := place + 1
        place := place + 1
        position := 36
        weight := 1
        name := reader.name.take place ++ Char.ofNat code :: reader.name.drop place }
  else none

/-- Reads a digit. Places and weights fit thirty-two bits. -/
def readDigit (reader : Reader) (c : Char) : Option Reader := do
  let value ← value? c
  let place := reader.place + value * reader.weight
  let limit := threshold reader.position reader.bias
  if UInt32.size ≤ place then none
  else if value < limit then settlePlace { reader with place }
  else
    let weight := reader.weight * (36 - limit)
    if UInt32.size ≤ weight then none
    else some { reader with place, weight, position := reader.position + 36 }

/-- The letters before the last hyphen and the digits behind it. A hyphen in front of all else is no
such hyphen. -/
def cutAtHyphen (text : List Char) : List Char × List Char :=
  match text.reverse.span (· != '-') with
  | (digits, _ :: c :: letters) => ((c :: letters).reverse, digits.reverse)
  | _ => ([], text)

/-- Reads a name in the letters of host names, in lowercase. -/
def decode? (text : List Char) : Option (List Char) := do
  let (letters, digits) := cutAtHyphen text
  let reader ← digits.foldlM readDigit ⟨72, 128, 0, 0, 36, 1, letters⟩
  if reader.position = 36 then pure reader.name else none

end DidRegistry.Punycode
