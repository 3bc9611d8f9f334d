import DidRegistry.Json.Basic
import DidRegistry.Text.Digits

/-!
Writing JSON text without blanks. A double has the fewest digits that read as it, and keeps a point
or an exponent in its text, so that it reads as a double.
-/

namespace DidRegistry

namespace Double

/-- The text of significant digits, given how many of them, or of zeros beside them, are in front of
the point. Up to sixteen digits in front and five zeros behind are written out. -/
def layout (digits : List Char) (point : Int) : List Char :=
  if 0 < point ∧ point ≤ 16 then
    let units := digits.take point.toNat
    let fraction := digits.drop point.toNat
    units ++ List.replicate (point.toNat - units.length) '0' ++ '.' ::
      (if fraction = [] then ['0'] else fraction)
  else if -5 < point ∧ point ≤ 0 then '0' :: '.' :: (List.replicate point.natAbs '0' ++ digits)
  else
    let fraction := digits.drop 1
    digits.take 1 ++ (if fraction = [] then [] else '.' :: fraction) ++ 'e' ::
      ((if point < 1 then ['-'] else []) ++ Digits.decimal (point - 1).natAbs)

/-- The text of a double without sign. -/
def render (number : Double) : List Char :=
  if number = zero then ['0', '.', '0']
  else
    let decimal := number.shortest
    let digits := Digits.decimal decimal.digits
    layout (digits.reverse.dropWhile (· = '0')).reverse (digits.length + decimal.exponent)

end Double

def Number.render : Number → String
  | .whole value => String.ofList (signed (value < 0) (Digits.decimal value.natAbs))
  | .double negative magnitude => String.ofList (signed negative magnitude.render)
where
  /-- A text behind its sign. -/
  signed (negative : Bool) (text : List Char) : List Char := if negative then '-' :: text else text

namespace Json

def renderChar (c : Char) : List Char :=
  if c = '"' then ['\\', '"']
  else if c = '\\' then ['\\', '\\']
  else if c = '\n' then ['\\', 'n']
  else if c = '\r' then ['\\', 'r']
  else if c = '\t' then ['\\', 't']
  else if c.toNat < 0x20 then
    ['\\', 'u', '0', '0', Digits.lowerHex (c.toNat / 16), Digits.lowerHex (c.toNat % 16)]
  else [c]

def renderText (text : String) : String :=
  String.ofList ('"' :: text.toList.flatMap renderChar ++ ['"'])

mutual

/-- The text of a document. What denotes no value is written `null`. -/
def render : Json → String
  | .null | .unreadable => "null"
  | .bool value => if value then "true" else "false"
  | .num value => value.render
  | .str value => renderText value
  | .arr items => "[" ++ String.intercalate "," (renderItems items) ++ "]"
  | .obj members => "\x7b" ++ String.intercalate "," (renderMembers members) ++ "\x7d"

def renderItems : List Json → List String
  | [] => []
  | item :: rest => item.render :: renderItems rest

def renderMembers : List (String × Json) → List String
  | [] => []
  | (key, value) :: rest => (renderText key ++ ":" ++ value.render) :: renderMembers rest

end

end Json
end DidRegistry
