import DidRegistry.Text.Percent

/-!
Queries as web forms write them: pairs of names and values, joined by `=` and `&`. Letters, digits
and `*-._` stand for themselves, a space is written `+`, and everything else as percent escapes.
-/

namespace DidRegistry.Form

/-- The characters that stand for themselves. -/
def isPlain (c : Char) : Bool :=
  c.isAlphanum || c == '*' || c == '-' || c == '.' || c == '_'

def encodeChar (c : Char) : List Char :=
  if c = ' ' then ['+'] else Percent.encodeChar isPlain c

def encodeText (text : String) : List Char := text.toList.flatMap encodeChar

def encodePair (pair : String × String) : List Char :=
  encodeText pair.1 ++ '=' :: encodeText pair.2

def encodePairs : List (String × String) → List Char
  | [] => []
  | [pair] => encodePair pair
  | pair :: rest => encodePair pair ++ '&' :: encodePairs rest

def encode (pairs : List (String × String)) : String := String.ofList (encodePairs pairs)

end DidRegistry.Form
