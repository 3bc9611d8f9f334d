import DidRegistry.Text.Split
import DidRegistry.Unicode.Direction
import DidRegistry.Unicode.Joining
import DidRegistry.Unicode.NormalForm
import DidRegistry.Url.NameMapping
import DidRegistry.Url.Punycode

/-!
Names of hosts of the web, in letters of any script. A name is read label by label: each label is
brought into its normal form, checked, and written in the letters that host names have. A label may
also come in these letters already; then it has to be what its meaning would be written as.
-/

namespace DidRegistry.DomainName

open Unicode

/-- A part of a name between dots: the characters that it means, and how they are written. -/
structure Label where
  meaning : List Char
  written : List Char
  deriving DecidableEq, Repr

def isRefused (c : Char) : Bool :=
  c.toNat ≤ 0x20 || ['%', '#', '/', ':', '<', '>', '?', '@', '[', '\\', ']', '^', '|',
    '\x7f'].contains c

/-- The mark of labels that are written in other letters than they mean. -/
def encodedMark : List Char := ['x', 'n', '-', '-']

def isEncoded (label : List Char) : Bool := label.take 4 == encodedMark

def normalForm? (text : List Char) : Option (List Char) :=
  (NameMapping.ofText? text).map NormalForm.ofText

/-! ### Letters beside each other -/

/-- The sign that keeps two letters from joining. -/
def nonJoiner : Char := '\u200c'

/-- The sign that lets two letters join. -/
def joiner : Char := '\u200d'

/-- Whether a sign for joining has a reason to be where it is, given the characters before it,
latest first, and those behind it: it follows a mark that joins consonants, or it keeps letters from
joining that otherwise would. -/
def isJustified (before : List Char) (sign : Char) (behind : List Char) : Bool :=
  before.head?.any (CombiningClass.ofChar · == CombiningClass.virama) ||
    (sign == nonJoiner &&
      (before.dropWhile Joining.isTransparent).head?.any Joining.joinsForward &&
      (behind.dropWhile Joining.isTransparent).head?.any Joining.joinsBackward)

/-- Whether all signs for joining are justified, given the characters before, latest first. -/
def areJoinersJustified : List Char → List Char → Bool
  | _, [] => true
  | before, c :: rest =>
    (if c == nonJoiner || c == joiner then isJustified before c rest else true) &&
      areJoinersJustified (c :: before) rest

/-- The length of the longest label that is beyond ASCII. -/
def maxLength : Nat := 1000

/-- Whether characters may form a label. Those of ASCII always may; others begin with no mark, have
no idle sign for joining, and are not too many. -/
def isWellFormed (label : List Char) : Bool :=
  label.all isAscii ||
    (! label.head?.any Mark.isMark && areJoinersJustified [] label && label.length ≤ maxLength)

/-! ### Directions -/

/-- Whether a label has characters that go to the left. -/
def hasLeftward (label : List Char) : Bool :=
  label.any fun c => Direction.ofChar c == .leftward || Direction.ofChar c == .arabicNumber

/-- Whether what follows a first letter goes with it: a label ends in a letter of its direction or a
number, marks at its end aside, has no letter of the other direction, and to the left, not both
kinds of numbers. -/
def followsDirection (first : Direction) (rest : List Direction) : Bool :=
  match first, rest.reverse.dropWhile (· == .mark) with
  | .rightward, last :: middle =>
    (last == .rightward || last == .europeanNumber) &&
      ! (middle.contains .leftward || middle.contains .arabicNumber)
  | .leftward, last :: middle =>
    (last == .leftward || last == .europeanNumber || last == .arabicNumber) &&
      ! middle.contains .rightward &&
      ! ((last :: middle).contains .europeanNumber && (last :: middle).contains .arabicNumber)
  | first, _ => first == .rightward || first == .leftward

/-- Whether a label reads the same in lines of both directions. -/
def isReadable (label : List Char) : Bool :=
  match label.map Direction.ofChar with
  | [] => true
  | first :: rest => followsDirection first rest

/-! ### Labels -/

/-- The length of the longest label with the mark that is read, without the mark. -/
def maxEncodedLength : Nat := 2000

/-- Reads a label with the mark. It means what its letters encode, which has to be in normal form
and more than ASCII; it may begin with the mark itself, and is not decoded again. -/
def Label.ofEncoded? (label : List Char) : Option Label := do
  let letters := label.drop encodedMark.length
  guard (label.all isAscii && letters.getLast? != some '-' && letters.length ≤ maxEncodedLength)
  let meaning ← Punycode.decode? letters
  guard (normalForm? meaning == some meaning)
  guard (! (meaning.all isAscii || meaning.any isRefused))
  guard (isWellFormed meaning)
  pure ⟨meaning, label⟩

def Label.ofText? (label : List Char) : Option Label :=
  if isEncoded label then ofEncoded? label
  else if label.any isRefused || ! isWellFormed label then none
  else if label.all isAscii then some ⟨label, label⟩
  else some ⟨label, encodedMark ++ Punycode.encode label⟩

/-- The labels of a piece of a name between dots. Characters may stand for dots, so that a piece
becomes more than one label. Pieces of ASCII are only put in lowercase. -/
def labels? (piece : List Char) : Option (List Label) := do
  let text ← if piece.all isAscii then some (piece.map Char.toLower) else normalForm? piece
  (Split.pieces (· == '.') text).mapM Label.ofText?

/-- A name as it is written, given what stands for it. If one of its labels has characters that go
to the left, all labels have to read the same in lines of both directions. -/
def ofText? (text : List Char) : Option (List Char) := do
  let labels := (← (Split.pieces (· == '.') text).mapM labels?).flatten
  guard (! labels.any (hasLeftward ·.meaning) || labels.all (isReadable ·.meaning))
  pure (Split.joined '.' (labels.map Label.written))

end DidRegistry.DomainName
