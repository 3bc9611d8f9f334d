import DidRegistry.Text.Percent
import DidRegistry.Text.Split
import DidRegistry.Url.Basic
import DidRegistry.Url.DomainName

/-!
Reading hosts. Schemes of the web have hosts with names in lowercase and addresses in every notation
that numbers have; other schemes have hosts that stand for themselves. Addresses of sixteen octets
stand in brackets under every scheme.
-/

namespace DidRegistry

inductive UrlError where
  | relativeWithoutBase
  | relativeOnRootless
  | emptyHost
  | invalidPort
  | invalidIpv4
  | invalidIpv6
  | invalidDomainCharacter
  | invalidInternationalName
  deriving DecidableEq, Repr

def UrlError.message : UrlError → String
  | .relativeWithoutBase => "relative URL without a base"
  | .relativeOnRootless => "relative URL with a cannot-be-a-base base"
  | .emptyHost => "empty host"
  | .invalidPort => "invalid port number"
  | .invalidIpv4 => "invalid IPv4 address"
  | .invalidIpv6 => "invalid IPv6 address"
  | .invalidDomainCharacter => "invalid domain character"
  | .invalidInternationalName => "invalid international domain name"

namespace Host

/-- A character that ASCII can print. -/
def isPrintable (c : Char) : Bool := ' ' ≤ c && c ≤ '~'

/-! ### Addresses of four octets -/

/-- The number of a part: hexadecimal behind `0x`, octal behind `0`, otherwise decimal. Nothing
behind `0x` is zero. -/
def ipv4Number? : List Char → Option Nat
  | [] => none
  | '0' :: 'x' :: digits | '0' :: 'X' :: digits => Digits.number? 16 Digits.hex? digits
  | '0' :: digit :: digits =>
    Digits.number? 8 (fun c => (Digits.decimal? c).filter (· < 8)) (digit :: digits)
  | digits => Digits.number? 10 Digits.decimal? digits

/-- The parts of a dotted name, without the empty part behind a dot at its end. -/
def dottedParts (text : List Char) : List (List Char) :=
  let parts := Split.pieces (· == '.') text
  if parts.getLast? = some [] ∧ 1 < parts.length then parts.dropLast else parts

/-- Whether a name has to be read as an address: its last part is a number. -/
def endsInNumber (text : List Char) : Bool :=
  match (dottedParts text).getLast? with
  | none | some [] => false
  | some last => last.all Char.isDigit || (ipv4Number? last).isSome

/-- The address that numbers stand for. The last one fills all octets that the others leave. -/
def ipv4OfNumbers? (numbers : List Nat) : Option Nat :=
  match numbers.getLast? with
  | none => none
  | some last =>
    let leading := numbers.dropLast
    let bound := 1 <<< (8 * (4 - leading.length))
    if 4 < numbers.length ∨ leading.any (255 < ·) ∨ bound ≤ last then none
    else some (leading.zipIdx.foldl (fun sum (n, i) => sum + n <<< (8 * (3 - i))) last)

def parseIpv4 (text : List Char) : Except UrlError Host :=
  match (dottedParts text).mapM ipv4Number? >>= ipv4OfNumbers? with
  | some address => .ok (.ipv4 address)
  | none => .error .invalidIpv4

/-! ### Addresses of sixteen octets -/

/-- A decimal number below 256 without zeros in front. -/
def octet? (text : List Char) : Option Nat :=
  if text = [] ∨ (text.head? = some '0' ∧ text ≠ ['0']) then none
  else (Digits.number? 10 Digits.decimal? text).filter (· < 256)

/-- The pieces of one group: up to four hexadecimal digits, or, in the last place, four dotted
octets, which are two pieces. -/
def groupPieces? (isLast : Bool) (text : List Char) : Option (List Nat) :=
  if text ≠ [] ∧ text.length ≤ 4 ∧ text.all (fun c => (Digits.hex? c).isSome) then
    (Digits.number? 16 Digits.hex? text).map ([·])
  else if isLast then
    match (Split.pieces (· == '.') text).mapM octet? with
    | some [a, b, c, d] => some [256 * a + b, 256 * c + d]
    | _ => none
  else none

def piecesOfGroups? : List (List Char) → Option (List Nat)
  | [] => some []
  | group :: rest => do
    let first ← groupPieces? rest.isEmpty group
    let others ← piecesOfGroups? rest
    pure (first ++ others)

/-- The pieces of a text, which may be empty. -/
def pieces? (text : List Char) : Option (List Nat) :=
  if text = [] then some [] else piecesOfGroups? (Split.pieces (· == ':') text)

/-- A text cut at its first double colon. -/
def cutAtDoubleColon : List Char → Option (List Char × List Char)
  | ':' :: ':' :: rest => some ([], rest)
  | c :: rest => (cutAtDoubleColon rest).map fun (before, behind) => (c :: before, behind)
  | [] => none

/-- Reads an address of sixteen octets: eight pieces, or fewer around a double colon that stands for
the zeros that are missing. Dotted octets can only come last. -/
def parseIpv6 (text : List Char) : Except UrlError Host :=
  let pieces? : Option (List Nat) :=
    match cutAtDoubleColon text with
    | none => (pieces? text).filter (·.length == 8)
    | some (before, behind) => do
      let left ← pieces? before
      let right ← pieces? behind
      if left.length + right.length ≤ 7 ∧ ¬ before.contains '.' then
        some (left ++ List.replicate (8 - left.length - right.length) 0 ++ right)
      else none
  match pieces? with
  | some pieces => .ok (.ipv6 pieces)
  | none => .error .invalidIpv6

/-- Reads what stands in brackets, the opening one taken off. -/
def parseBracketed (text : List Char) : Except UrlError Host :=
  if text.getLast? = some ']' then parseIpv6 text.dropLast else .error .invalidIpv6

/-! ### Names -/

/-- The characters that no host has under schemes that are not of the web. -/
def isForbidden (c : Char) : Bool :=
  ['\x00', '\t', '\n', '\r', ' ', '#', '/', ':', '<', '>', '?', '@', '[', '\\', ']', '^',
    '|'].contains c

def parseDomain (text : List Char) : Except UrlError Host :=
  match Bytes.text? (Percent.decode text) >>= fun decoded => DomainName.ofText? decoded.toList with
  | none => .error .invalidInternationalName
  | some written =>
    if written = [] then .error .emptyHost
    else if endsInNumber written then parseIpv4 written
    else .ok (.name (String.ofList written))

/-- Reads a host of a scheme that is not of the web. -/
def parseVerbatim (text : List Char) : Except UrlError Host :=
  if text.any isForbidden then .error .invalidDomainCharacter
  else .ok (.name (String.ofList (Percent.encode isPrintable text)))

def parse (ofWeb : Bool) : List Char → Except UrlError Host
  | '[' :: rest => parseBracketed rest
  | text => if ofWeb then parseDomain text else parseVerbatim text

end Host
end DidRegistry
