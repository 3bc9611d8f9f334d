import DidRegistry.Text.Digits

/-!
URLs in parts, and their text. The parts are kept in the form in which they are written: escapes are
in place, hosts are in lowercase, dots in paths are resolved. `Url.render` joins them.
-/

namespace DidRegistry

/-- What an authority names: a host by its name, or by its address of four or sixteen octets. A host
without a name is written as nothing. -/
inductive Host where
  | name (text : String)
  | ipv4 (address : Nat)
  | ipv6 (pieces : List Nat)
  deriving DecidableEq, Repr

/-- Where a URL's server is found, and who asks. -/
structure Authority where
  username : String
  password : Option String
  host : Host
  port : Option Nat
  deriving DecidableEq, Repr

/-- A path is a list of segments, each behind a slash, or a text that begins with no slash and has
no structure. -/
inductive Path where
  | segments (segments : List String)
  | rootless (text : String)
  deriving DecidableEq, Repr

structure Url where
  scheme : String
  authority : Option Authority
  path : Path
  query : Option String
  fragment : Option String
  deriving DecidableEq, Repr

namespace Host

/-- The octets of an address of four, with dots between them. -/
def renderIpv4 (address : Nat) : String :=
  String.intercalate "." ([24, 16, 8, 0].map fun shift => toString (address >>> shift % 256))

/-- The lengths of the runs of zeros that begin at each piece. -/
def zeroRuns : List Nat → List Nat
  | [] => []
  | piece :: rest =>
    let runs := zeroRuns rest
    (if piece = 0 then runs.head?.getD 0 + 1 else 0) :: runs

def renderPieces (pieces : List Nat) : String :=
  String.intercalate ":" (pieces.map fun piece => String.ofList (Nat.toDigits 16 piece))

/-- An address of sixteen octets. The first of the longest runs of zeros is left out, if it is a run
of two or more. -/
def renderIpv6 (pieces : List Nat) : String :=
  let runs := zeroRuns pieces
  let longest := runs.foldl max 0
  if longest < 2 then renderPieces pieces
  else
    let start := runs.findIdx (· == longest)
    renderPieces (pieces.take start) ++ "::" ++ renderPieces (pieces.drop (start + longest))

def render : Host → String
  | .name text => text
  | .ipv4 address => renderIpv4 address
  | .ipv6 pieces => "[" ++ renderIpv6 pieces ++ "]"

end Host

namespace Authority

/-- Who asks, with the sign that separates it from the host. -/
def renderUser (authority : Authority) : String :=
  match authority.username, authority.password with
  | "", none => ""
  | name, none => name ++ "@"
  | name, some word => name ++ ":" ++ word ++ "@"

def render (authority : Authority) : String :=
  authority.renderUser ++ authority.host.render ++
    match authority.port with
    | some port => ":" ++ toString port
    | none => ""

end Authority

def Path.render : Path → String
  | .segments list => String.join (list.map ("/" ++ ·))
  | .rootless text => text

namespace Url

/-- What stands between scheme and path. Without an authority, a path that begins with two slashes
is kept from reading as one. -/
def renderAuthority (url : Url) : String :=
  match url.authority, url.path with
  | some authority, _ => "//" ++ authority.render
  | none, .segments ("" :: _ :: _) => "/."
  | none, _ => ""

/-- A part behind its mark, if there is one. -/
def renderMarked (mark : String) : Option String → String
  | some text => mark ++ text
  | none => ""

def render (url : Url) : String :=
  url.scheme ++ ":" ++ url.renderAuthority ++ url.path.render ++
    renderMarked "?" url.query ++ renderMarked "#" url.fragment

/-- Whether the URL is one that can be asked for over HTTP. -/
def isWeb (url : Url) : Bool := url.scheme == "http" || url.scheme == "https"

/-- The URL as a server sees it: without its fragment and without who asks. -/
def requested (url : Url) : Url :=
  { url with
    authority := url.authority.map fun authority =>
      { authority with username := "", password := none }
    fragment := none }

def withQuery (url : Url) (query : String) : Url := { url with query := some query }

/-- The URL of a name beside this one: it takes the place of the last segment, and query and
fragment go. A path without structure has no such place. -/
def sibling? (url : Url) (name : String) : Option Url :=
  match url.path with
  | .segments list =>
    some { url with path := .segments (list.dropLast ++ [name]), query := none, fragment := none }
  | .rootless _ => none

end Url
end DidRegistry
