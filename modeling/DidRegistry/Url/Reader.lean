import DidRegistry.Url.Host

/-!
Reading URLs. Blanks around the text and line breaks and tabs inside it do not count. Schemes of the
web take `\` for `/`, always have a host, and always have a path; `file` has a host only if it names
one; every other scheme has what its text shows.

Drives have rights of their own. Under every scheme `..` stops at a segment that names one, and in a
`file` URL a drive at the top of the path is written with a colon and belongs to no host.
-/

namespace DidRegistry.Url

/-! ### Characters that stand for themselves -/

def keptInFragment (c : Char) : Bool :=
  Host.isPrintable c && !([' ', '"', '<', '>', Char.ofNat 0x60].contains c)

def keptInQuery (ofWeb : Bool) (c : Char) : Bool :=
  Host.isPrintable c && !([' ', '"', '#', '<', '>'].contains c) && !(ofWeb && c == '\'')

def keptInPath (c : Char) : Bool :=
  keptInFragment c && !(['#', '?', '\x7b', '\x7d'].contains c)

/-- Characters kept in the name or password of who asks. -/
def keptInUser (c : Char) : Bool :=
  keptInPath c && !(['/', ':', ';', '=', '@', '[', '\\', ']', '^', '|'].contains c)

/-- A text with escapes for all characters that are not kept. -/
def escaped (kept : Char → Bool) (text : List Char) : String :=
  String.ofList (Percent.encode kept text)

/-! ### Schemes -/

inductive Kind where
  | web
  | file
  | other
  deriving DecidableEq, Repr

/-- The kind of a scheme. -/
def kind : List Char → Kind
  | scheme =>
    if ["http", "https", "ws", "wss", "ftp"].contains (String.ofList scheme) then .web
    else if String.ofList scheme == "file" then .file
    else .other

/-- The port that need not be written. -/
def defaultPort? (scheme : String) : Option Nat :=
  match scheme with
  | "http" | "ws" => some 80
  | "https" | "wss" => some 443
  | "ftp" => some 21
  | _ => none

/-- Whether a character can be part of a scheme. -/
def isSchemeChar (c : Char) : Bool := c.isAlphanum || c == '+' || c == '-' || c == '.'

/-- Whether a character ends a line or a column. Such characters do not count. -/
def isBreak (c : Char) : Bool := c == '\t' || c == '\n' || c == '\r'

/-- The text without the characters that do not count. -/
def unbroken (text : List Char) : List Char := text.filter (! isBreak ·)

/-- The text without blanks and control characters around it. -/
def trimmed (text : List Char) : List Char :=
  let blank (c : Char) : Bool := c.toNat ≤ 0x20
  ((text.dropWhile blank).reverse.dropWhile blank).reverse

/-- The scheme in lowercase and what follows its colon. A scheme begins with a letter. -/
def scheme? (text : List Char) : Option (List Char × List Char) :=
  match text.span (· != ':') with
  | (name, _ :: rest) =>
    let name := unbroken name
    if name.head?.any Char.isAlpha && name.all isSchemeChar then some (name.map Char.toLower, rest)
    else none
  | (_, []) => none

/-! ### Parts -/

/-- A text cut at the first of a mark: what is before it, and what is behind it if it is there. -/
def cutAt (mark : Char) (text : List Char) : List Char × Option (List Char) :=
  match text.span (· != mark) with
  | (before, _ :: behind) => (before, some behind)
  | (before, []) => (before, none)

/-- Whether a character separates the segments of a path. -/
def isSlash (ofWeb : Bool) (c : Char) : Bool := c == '/' || (ofWeb && c == '\\')

/-! ### Paths -/

/-- Whether a segment stands for the segment itself. -/
def isSingleDot (segment : String) : Bool := segment == "." || segment.toLower == "%2e"

/-- Whether a segment stands for the one above. -/
def isDoubleDot (segment : String) : Bool :=
  ["..", ".%2e", "%2e.", "%2e%2e"].contains segment.toLower

/-- Whether a segment names a drive: a letter and a colon or bar. -/
def isDrive (segment : String) : Bool :=
  match segment.toList with
  | [letter, mark] => letter.isAlpha && (mark == ':' || mark == '|')
  | _ => false

/-- The segments without their last, latest first. A drive stays. -/
def parent : List String → List String
  | [] => []
  | top :: rest => if isDrive top then top :: rest else rest

/-- A segment as it is kept below others: in a file's path, a drive at the top is written with a
colon. -/
def keptSegment (ofFile : Bool) (above : List String) (segment : String) : String :=
  if ofFile && above.isEmpty && isDrive segment then String.ofList (segment.toList.take 1 ++ [':'])
  else segment

/-- Resolves dots, given the segments above, latest first. A dot in the last place leaves an empty
segment, so that the path still ends in a slash. -/
def resolveDots (ofFile : Bool) : List String → List String → List String
  | above, [] => above.reverse
  | above, [last] =>
    if isDoubleDot last then ("" :: parent above).reverse
    else if isSingleDot last then ("" :: above).reverse
    else (keptSegment ofFile above last :: above).reverse
  | above, segment :: rest =>
    if isDoubleDot segment then resolveDots ofFile (parent above) rest
    else if isSingleDot segment then resolveDots ofFile above rest
    else resolveDots ofFile (keptSegment ofFile above segment :: above) rest

/-- The segments of a path, without the slash that it begins with, before dots are resolved. -/
def pieces (ofWeb : Bool) (text : List Char) : List String :=
  (Split.pieces (isSlash ofWeb) text).map (escaped keptInPath)

/-- The segments of a path, without the slash that it begins with. -/
def segments (ofWeb : Bool) (text : List Char) : List String :=
  resolveDots false [] (pieces ofWeb text)

/-- The segments of a path that begins with a slash, or of the empty path. -/
def rootedSegments (ofWeb : Bool) : List Char → List String
  | [] => if ofWeb then [""] else []
  | _ :: rest => segments ofWeb rest

/-! ### Authorities -/

/-- What is before the last `@` and what is behind it. -/
def cutAtLastSign (text : List Char) : Option (List Char × List Char) :=
  match text.reverse.span (· != '@') with
  | (behind, _ :: before) => some (before.reverse, behind.reverse)
  | (_, []) => none

/-- The name and password before the `@`. An empty password is none. -/
def user (text : List Char) : String × Option String :=
  match cutAt ':' text with
  | (name, some (c :: word)) => (escaped keptInUser name, some (escaped keptInUser (c :: word)))
  | (name, _) => (escaped keptInUser name, none)

/-- The host's text and what follows it from the first colon on. Colons in brackets do not count. -/
def cutAtPort (inBrackets : Bool) : List Char → List Char × List Char
  | [] => ([], [])
  | c :: rest =>
    if c = ':' ∧ inBrackets = false then ([], c :: rest)
    else
      let bracketed := if c = '[' then true else if c = ']' then false else inBrackets
      let (host, port) := cutAtPort bracketed rest
      (c :: host, port)

/-- The port behind a colon; none if nothing is written or it need not be written. -/
def port (scheme : String) (digits : List Char) : Except UrlError (Option Nat) :=
  match Digits.number? 10 Digits.decimal? digits with
  | none => .error .invalidPort
  | some value =>
    if 65535 < value then .error .invalidPort
    else if digits = [] ∨ defaultPort? scheme = some value then .ok none
    else .ok (some value)

/-- Reads an authority, and gives back what stands behind its port from a `\` on. Only schemes that
are not of the web may leave the host out, and then name neither who asks nor a port. `last` tells
that nothing follows the authority. -/
def parseAuthority (scheme : String) (ofWeb last : Bool) (text : List Char) :
    Except UrlError (Authority × List Char) := do
  let (who, place) := (cutAtLastSign text).getD ([], text)
  if who = [] ∧ place = [] ∧ text ≠ [] ∧ last = false then throw .emptyHost
  let (name, word) := user who
  let (hostText, portText) := cutAtPort false place
  if ofWeb ∧ hostText = [] then throw .emptyHost
  let host ← Host.parse ofWeb hostText
  if hostText = [] ∧ portText ≠ [] then throw .emptyHost
  let (digits, leftover) := (portText.drop 1).span (· != '\\')
  let port ← port scheme digits
  if hostText = [] ∧ (name ≠ "" ∨ word ≠ none) then throw .emptyHost
  pure (⟨name, word, host, port⟩, leftover)

/-! ### Places -/

/-- A URL's text behind its scheme, cut into what names a place, the query and the fragment. -/
structure Remainder where
  place : List Char
  query : Option (List Char)
  fragment : Option (List Char)

/-- Cuts a text: the fragment begins at the first `#`, the query at the first `?` before it. -/
def Remainder.ofText (text : List Char) : Remainder :=
  let (body, fragment) := cutAt '#' text
  let (place, query) := cutAt '?' body
  ⟨place, query.map unbroken, fragment.map unbroken⟩

/-- Reads authority and path of a URL with an authority. -/
def parsePlace (scheme : String) (ofWeb : Bool) (remainder : Remainder) (text : List Char) :
    Except UrlError (Option Authority × Path) := do
  let (authorityText, path) := text.span (! isSlash ofWeb ·)
  let last := path.isEmpty && remainder.query.isNone && remainder.fragment.isNone
  let (authority, leftover) ← parseAuthority scheme ofWeb last authorityText
  let list := if leftover = [] then rootedSegments ofWeb path else segments ofWeb (leftover ++ path)
  pure (some authority, .segments list)

/-! ### Files -/

/-- What follows the slash that a text begins with. Breaks do not count. -/
def afterSlash? (text : List Char) : Option (List Char) :=
  match text.dropWhile isBreak with
  | c :: rest => if isSlash true c then some rest else none
  | [] => none

/-- A segment cut behind the drive that it begins with. That a segment has more characters behind a
drive shows only if a break comes between them. -/
def cutAtDrive? (segment : List Char) : Option (List Char × List Char) :=
  match unbroken segment, (segment.dropWhile (· != ':')).drop 1 with
  | letter :: ':' :: c :: rest, next :: _ =>
    if letter.isAlpha && isBreak next then some ([letter, ':'], c :: rest) else none
  | _, _ => none

/-- The segments of a file's path, without the slash that it begins with. -/
def filePieces (text : List Char) : List (List Char) := Split.pieces (isSlash true) text

/-- A segment of a file's path as it is written. -/
def writtenSegment (segment : List Char) : String := escaped keptInPath (unbroken segment)

/-- A file's place. The path is kept without empty segments in front. -/
def filePlace (host : Host) (list : List String) : Option Authority × Path :=
  let path := list.dropWhile (· == "")
  (some ⟨"", none, host, none⟩, .segments (if path = [] then [""] else path))

/-- The host of files that are where the URL is read. -/
def nowhere : Host := .name ""

/-- The place of a file on a host. A drive at the top of the path belongs to no host, unless it is
cut off the rest of its segment. -/
def placeAtTop (host : Host) (text : List Char) : Option Authority × Path :=
  let plain := resolveDots true [] ((filePieces text).map writtenSegment)
  match (filePieces text).head? >>= cutAtDrive? with
  | some (drive, name) =>
    filePlace host (resolveDots true [escaped keptInPath name, String.ofList drive]
      ((filePieces text).tail.map writtenSegment))
  | none => filePlace (if plain.head?.any isDrive then nowhere else host) plain

/-- The place of a file with a path behind two slashes and a third. The path begins with an empty
segment, so that no drive is at its top. -/
def placeBelow (text : List Char) : Option Authority × Path :=
  filePlace nowhere (resolveDots true [""] ((filePieces text).map writtenSegment))

/-- Reads what follows the two slashes in front of a host. The host `localhost` is no host, and
neither is a drive. -/
def parseFileHost (text : List Char) : Except UrlError (Option Authority × Path) := do
  let (hostText, path) := text.span (! isSlash true ·)
  let hostText := unbroken hostText
  if hostText = [] then pure (placeBelow (path.drop 1))
  else if isDrive (String.ofList hostText) then pure (placeAtTop nowhere text)
  else
    let host ← Host.parse true hostText
    pure (if host = .name "localhost" then placeBelow (path.drop 1)
      else placeAtTop host (path.drop 1))

def parseFile (text : List Char) : Except UrlError (Option Authority × Path) :=
  match afterSlash? text with
  | none => .ok (placeAtTop nowhere text)
  | some rest =>
    match afterSlash? rest with
    | none => .ok (placeAtTop nowhere rest)
    | some rest => parseFileHost rest

/-! ### URLs -/

/-- Reads what names a place, by the kind of the scheme. -/
def parseByKind (scheme : List Char) (remainder : Remainder) :
    Except UrlError (Option Authority × Path) :=
  match kind scheme, unbroken remainder.place with
  | .web, place =>
    parsePlace (String.ofList scheme) true remainder (place.dropWhile (isSlash true))
  | .file, _ => parseFile remainder.place
  | .other, '/' :: '/' :: rest => parsePlace (String.ofList scheme) false remainder rest
  | .other, '/' :: rest => .ok (none, .segments (segments false rest))
  | .other, rest => .ok (none, .rootless (escaped Host.isPrintable rest))

def parse (text : String) : Except UrlError Url :=
  match scheme? (trimmed text.toList) with
  | none => .error .relativeWithoutBase
  | some (scheme, rest) => do
    let remainder := Remainder.ofText rest
    let (authority, path) ← parseByKind scheme remainder
    pure
      { scheme := String.ofList scheme
        authority
        path
        query := remainder.query.map (escaped (keptInQuery (kind scheme != .other)))
        fragment := remainder.fragment.map (escaped keptInFragment) }

end DidRegistry.Url
