import DidRegistry.Unicode.CombiningClass
import DidRegistry.Unicode.Composition

/-!
The composed normal form of a text. Composites are taken apart, marks are put in the order of their
classes, and then all is composed again as far as it goes. Texts that differ only in how they write
the same letters have the same normal form.
-/

namespace DidRegistry.Unicode.NormalForm

/-- The characters that one is made of. `depth` bounds how often composites are made of
composites. -/
def decompose : Nat → Char → List Char
  | 0, c => [c]
  | depth + 1, c =>
    match Composition.parts? c with
    | some (first, second) => decompose depth first ++ [second]
    | none => [c]

/-- No composite is made of composites of composites. -/
def depth : Nat := 2

/-- Puts a character in front of an ordered text. A mark goes behind the marks of lower classes. -/
def insert (c : Char) : List Char → List Char
  | [] => [c]
  | d :: rest =>
    if CombiningClass.ofChar d ≠ 0 ∧ CombiningClass.ofChar d < CombiningClass.ofChar c then
      d :: insert c rest
    else c :: d :: rest

/-- The text with the marks behind each letter in the order of their classes. -/
def order (text : List Char) : List Char := text.foldr insert []

/-- Composes a letter with what follows it, given the marks that it could not be composed with,
latest first. A mark cannot pass one of its own class or of a higher one. -/
def composeFrom (letter : Char) (kept : List Char) : List Char → List Char
  | [] => letter :: kept.reverse
  | c :: rest =>
    let isFree := kept.all fun mark => CombiningClass.ofChar mark < CombiningClass.ofChar c
    match if isFree then Composition.compose? letter c else none with
    | some whole => composeFrom whole kept rest
    | none =>
      if CombiningClass.ofChar c = 0 then letter :: kept.reverse ++ composeFrom c [] rest
      else composeFrom letter (c :: kept) rest

/-- Composes an ordered text. Marks in front of the first letter stay as they are. -/
def compose : List Char → List Char
  | [] => []
  | c :: rest =>
    if CombiningClass.ofChar c = 0 then composeFrom c [] rest else c :: compose rest

/-- The normal form of a text. -/
def ofText (text : List Char) : List Char := compose (order (text.flatMap (decompose depth)))

end DidRegistry.Unicode.NormalForm
