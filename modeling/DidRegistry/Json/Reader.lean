import DidRegistry.Json.Basic
import DidRegistry.Text.Digits
import DidRegistry.Text.Utf8

/-!
Reading JSON text. Two machines run one after the other, each a fold over its input: `Lexer` turns
characters into tokens, `Assembler` turns tokens into a document. Text that breaks the grammar is
refused (`none`); a part that keeps to the grammar but denotes no value becomes `Json.unreadable`,
so that a reader which ignores it need not fail.
-/

namespace DidRegistry.Json

/-! ### Numerals -/

structure Numeral where
  negative : Bool
  /-- The digits before the point. -/
  units : List Char
  /-- The digits behind the point; empty without a point. -/
  fraction : List Char
  /-- The power of ten, if one is written. -/
  exponent : Option Int
  /-- Whether a point is written. -/
  pointed : Bool

namespace Numeral

/-- The power of ten behind an `e`: an optional sign and at least one digit. -/
def exponent? : List Char → Option Int
  | '-' :: digit :: digits =>
    (Digits.number? 10 Digits.decimal? (digit :: digits)).map fun value => -(value : Int)
  | '+' :: digit :: digits =>
    (Digits.number? 10 Digits.decimal? (digit :: digits)).map Int.ofNat
  | digit :: digits => (Digits.number? 10 Digits.decimal? (digit :: digits)).map Int.ofNat
  | [] => none

/-- What follows the digits and the fraction: nothing, or an exponent. -/
def exponentPart? : List Char → Option (Option Int)
  | [] => some none
  | mark :: rest => if mark = 'e' ∨ mark = 'E' then (exponent? rest).map some else none

/-- Reads the parts of a number without its sign. A zero before the point stands alone, and a point
has a digit on both sides. -/
def unsigned? (negative : Bool) (text : List Char) : Option Numeral :=
  let units := text.takeWhile Char.isDigit
  let rest := text.dropWhile Char.isDigit
  if units = [] ∨ (units.head? = some '0' ∧ units ≠ ['0']) then none
  else match rest with
    | '.' :: behind =>
      let fraction := behind.takeWhile Char.isDigit
      if fraction = [] then none
      else (exponentPart? (behind.dropWhile Char.isDigit)).map
        (⟨negative, units, fraction, ·, true⟩)
    | rest => (exponentPart? rest).map (⟨negative, units, [], ·, false⟩)

def ofText? : List Char → Option Numeral
  | '-' :: rest => unsigned? true rest
  | text => unsigned? false text

/-- Appends digits to a number while it stays in the range of unsigned 64-bit integers. Also tells
how many digits were taken. -/
def extend (value : Nat) : List Char → Nat × Nat
  | [] => (value, 0)
  | c :: rest =>
    let extended := 10 * value + (Digits.decimal? c).getD 0
    if extended < UInt64.size then
      let (result, taken) := extend extended rest
      (result, taken + 1)
    else (value, 0)

/-- The magnitude as a double, unless it is beyond the range. Of the units and of the fraction the
first digits that fit 64 bits are looked at, and the others only hold the place of the point; what
they write is brought to its power of ten in double precision. So the last binary digit is not
always that of the nearest double. -/
def double? (numeral : Numeral) : Option Double :=
  let (units, unitsTaken) := extend 0 numeral.units
  let (significand, fractionTaken) := extend units numeral.fraction
  let exponent : Int :=
    numeral.exponent.getD 0 + (numeral.units.length - unitsTaken : Nat) - fractionTaken
  Double.ofNat? significand >>= (·.scaled? exponent)

/-- The number that a numeral writes. Without point and exponent it is whole, if it is in the range
of 64-bit integers, signed or unsigned, and is not a negative zero. -/
def number? (numeral : Numeral) : Option Number :=
  let rounded := numeral.double?.map (Number.double numeral.negative)
  if numeral.pointed = false ∧ numeral.exponent = none then
    let magnitude := (Digits.number? 10 Digits.decimal? numeral.units).getD 0
    if numeral.negative then
      if 0 < magnitude ∧ 2 * magnitude ≤ UInt64.size then some (.whole (-magnitude)) else rounded
    else if magnitude < UInt64.size then some (.whole magnitude)
    else rounded
  else rounded

end Numeral

/-! ### Strings -/

/-- A piece of a quoted string: a character, a 16-bit unit given by its code, or an octet that is
part of no character. -/
inductive Piece where
  | plain (c : Char)
  | unit (code : Nat)
  | stray

/-- The characters that pieces spell. Two units form a surrogate pair; half a pair spells
nothing, and neither does a stray octet. -/
def Piece.spell? : List Piece → Option (List Char)
  | [] => some []
  | .stray :: _ => none
  | .plain c :: rest => (spell? rest).map (c :: ·)
  | .unit code :: rest =>
    if code < 0xD800 ∨ 0xE000 ≤ code then (spell? rest).map (Char.ofNat code :: ·)
    else match rest with
      | .unit low :: rest =>
        if code < 0xDC00 ∧ 0xDC00 ≤ low ∧ low < 0xE000 then
          (spell? rest).map
            (Char.ofNat (0x10000 + (code - 0xD800) * 0x400 + (low - 0xDC00)) :: ·)
        else none
      | _ => none

/-- The character that a backslash and this letter write. -/
def escaped? : Char → Option Char
  | '"' => some '"'
  | '\\' => some '\\'
  | '/' => some '/'
  | 'b' => some (Char.ofNat 8)
  | 'f' => some (Char.ofNat 12)
  | 'n' => some '\n'
  | 'r' => some '\r'
  | 't' => some '\t'
  | _ => none

/-! ### Tokens -/

/-- A token of JSON text. The payload of a number or string is missing if it denotes no value. -/
inductive Token where
  | openArray
  | closeArray
  | openObject
  | closeObject
  | comma
  | colon
  | null
  | bool (value : Bool)
  | number (value : Option Number)
  | string (value : Option String)

/-- What the lexer is inside of. What has been read of it is kept latest first. -/
inductive Lexeme where
  | gap
  | word (letters : List Char)
  | quoted (pieces : List Piece)
  | escape (pieces : List Piece)
  | code (pieces : List Piece) (value : Nat) (missing : Nat)

/-- The lexer between two characters: where it is, and the tokens so far, latest first. -/
structure Lexer where
  lexeme : Lexeme
  tokens : List Token

namespace Lexer

def start : Lexer := ⟨.gap, []⟩

/-- Whether a character can be part of a number or of a name such as `true`. -/
def isWordChar (c : Char) : Bool := c.isAlphanum || c == '-' || c == '+' || c == '.'

/-- The token that a run of word characters writes. -/
def wordToken? (letters : List Char) : Option Token :=
  match String.ofList letters with
  | "null" => some .null
  | "true" => some (.bool true)
  | "false" => some (.bool false)
  | _ => (Numeral.ofText? letters).map (.number ·.number?)

/-- The token that a character writes by itself. -/
def mark? : Char → Option Token
  | '[' => some .openArray
  | ']' => some .closeArray
  | '\x7b' => some .openObject
  | '\x7d' => some .closeObject
  | ',' => some .comma
  | ':' => some .colon
  | _ => none

/-- Reads a character in a gap between tokens. -/
def enter? (tokens : List Token) (c : Char) : Option Lexer :=
  if c = ' ' ∨ c = '\t' ∨ c = '\n' ∨ c = '\r' then some ⟨.gap, tokens⟩
  else if c = '"' then some ⟨.quoted [], tokens⟩
  else if isWordChar c then some ⟨.word [c], tokens⟩
  else (mark? c).map fun token => ⟨.gap, token :: tokens⟩

def step? (lexer : Lexer) (c : Char) : Option Lexer :=
  match lexer.lexeme with
  | .gap => enter? lexer.tokens c
  | .word letters =>
    if isWordChar c then some ⟨.word (c :: letters), lexer.tokens⟩
    else do
      let token ← wordToken? letters.reverse
      enter? (token :: lexer.tokens) c
  | .quoted pieces =>
    if c = '"' then
      some ⟨.gap, .string ((Piece.spell? pieces.reverse).map String.ofList) :: lexer.tokens⟩
    else if c = '\\' then some ⟨.escape pieces, lexer.tokens⟩
    else if c.toNat < 0x20 then none
    else some ⟨.quoted (.plain c :: pieces), lexer.tokens⟩
  | .escape pieces =>
    if c = 'u' then some ⟨.code pieces 0 4, lexer.tokens⟩
    else (escaped? c).map fun c => ⟨.quoted (.plain c :: pieces), lexer.tokens⟩
  | .code pieces value missing => do
    let digit ← Digits.hex? c
    if missing ≤ 1 then some ⟨.quoted (.unit (16 * value + digit) :: pieces), lexer.tokens⟩
    else some ⟨.code pieces (16 * value + digit) (missing - 1), lexer.tokens⟩

/-- Reads a character or a gap in the octets. A gap may only stand in a string. -/
def take? (lexer : Lexer) : Option Char → Option Lexer
  | some c => lexer.step? c
  | none =>
    match lexer.lexeme with
    | .quoted pieces => some ⟨.quoted (.stray :: pieces), lexer.tokens⟩
    | _ => none

def finish? (lexer : Lexer) : Option (List Token) :=
  match lexer.lexeme with
  | .gap => some lexer.tokens.reverse
  | .word letters => (wordToken? letters.reverse).map fun token => (token :: lexer.tokens).reverse
  | .quoted _ | .escape _ | .code _ _ _ => none

end Lexer

def tokens? (text : List Char) : Option (List Token) :=
  text.foldlM Lexer.step? Lexer.start >>= Lexer.finish?

/-! ### Documents -/

/-- An array or object that is still open, its parts latest first. A key that denotes no text is
missing; an open object also keeps the key whose value comes next. -/
inductive Frame where
  | array (items : List Json)
  | object (members : List (Option String × Json)) (key : Option String)

inductive Expected where
  | value
  | firstItem
  | firstKey
  | key
  | colon
  | separator
  | nothing (document : Json)

/-- The assembler between two tokens: what is open, innermost first, and what must come next. -/
structure Assembler where
  frames : List Frame
  expected : Expected

namespace Assembler

def start : Assembler := ⟨[], .value⟩

/-- The deepest nesting of arrays and objects that denotes a value. -/
def maxDepth : Nat := 127

/-- Puts a finished value into the innermost open frame. -/
def deliver (value : Json) : List Frame → Assembler
  | [] => ⟨[], .nothing value⟩
  | .array items :: outer => ⟨.array (value :: items) :: outer, .separator⟩
  | .object members key :: outer => ⟨.object ((key, value) :: members) none :: outer, .separator⟩

/-- The members with their keys, if every key denotes a text. -/
def members? : List (Option String × Json) → Option (List (String × Json))
  | [] => some []
  | (key, value) :: rest => do
    let key ← key
    let rest ← members? rest
    pure ((key, value) :: rest)

def closeArray? : List Frame → Option Assembler
  | .array items :: outer =>
    some (deliver (if maxDepth ≤ outer.length then .unreadable else .arr items.reverse) outer)
  | _ => none

def closeObject? : List Frame → Option Assembler
  | .object members _ :: outer =>
    some (deliver
      (if maxDepth ≤ outer.length then .unreadable
        else ((members? members.reverse).map Json.obj).getD .unreadable)
      outer)
  | _ => none

/-- Reads the first token of a value. -/
def value? (frames : List Frame) : Token → Option Assembler
  | .null => some (deliver .null frames)
  | .bool value => some (deliver (.bool value) frames)
  | .number value => some (deliver ((value.map Json.num).getD .unreadable) frames)
  | .string value => some (deliver ((value.map Json.str).getD .unreadable) frames)
  | .openArray => some ⟨.array [] :: frames, .firstItem⟩
  | .openObject => some ⟨.object [] none :: frames, .firstKey⟩
  | .closeArray | .closeObject | .comma | .colon => none

def key? (frames : List Frame) (token : Token) : Option Assembler :=
  match frames, token with
  | .object members _ :: outer, .string key => some ⟨.object members key :: outer, .colon⟩
  | _, _ => none

def step? (assembler : Assembler) (token : Token) : Option Assembler :=
  match assembler.expected, token with
  | .firstItem, .closeArray => closeArray? assembler.frames
  | .value, token | .firstItem, token => value? assembler.frames token
  | .firstKey, .closeObject => closeObject? assembler.frames
  | .key, token | .firstKey, token => key? assembler.frames token
  | .colon, .colon => some ⟨assembler.frames, .value⟩
  | .separator, .closeArray => closeArray? assembler.frames
  | .separator, .closeObject => closeObject? assembler.frames
  | .separator, .comma =>
    match assembler.frames with
    | .array _ :: _ => some ⟨assembler.frames, .value⟩
    | .object _ _ :: _ => some ⟨assembler.frames, .key⟩
    | [] => none
  | _, _ => none

def finish? (assembler : Assembler) : Option Json :=
  match assembler.expected with
  | .nothing document => some document
  | _ => none

end Assembler

def ofTokens? (tokens : List Token) : Option Json :=
  tokens.foldlM Assembler.step? Assembler.start >>= Assembler.finish?

/-- The document that a text writes: one value, with nothing but blanks around it. -/
def ofText? (text : String) : Option Json := tokens? text.toList >>= ofTokens?

/-- The document that octets write in UTF-8. A string with other octets in it denotes no value. -/
def ofBytes? (bytes : Bytes) : Option Json :=
  (Bytes.characters bytes).foldlM Lexer.take? Lexer.start >>= Lexer.finish? >>= ofTokens?

end DidRegistry.Json
