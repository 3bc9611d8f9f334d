import DidRegistry.Error
import DidRegistry.Text.Split

/-!
Identifiers of DIDs and of the resources published under them. A resource is addressed as
`<issuer DID>/resources/<resource ID>`; its ID alone means nothing outside the issuer's name space.
-/

namespace DidRegistry.Identifier

/-- What stands between an issuer and a resource ID. -/
def resourcesPath : String := "/resources/"

/-- How DIDs of the supported method begin. -/
def methodStart : String := "did:cheqd:"

/-- The identifier of a resource published under an issuer. -/
def compose (issuer resource : String) : String := issuer ++ resourcesPath ++ resource

/-- The issuer and the resource ID of an identifier: the parts before its first and behind its last
slash, neither of them empty. What stands between those slashes does not matter. -/
def split (id : String) : Except Error (String × String) :=
  match Split.pieces (· == '/') id.toList with
  | issuer :: second :: others =>
    let resource := (second :: others).getLast (by simp)
    if issuer.isEmpty || resource.isEmpty then .error (.invalidIdentifier id)
    else .ok (String.ofList issuer, String.ofList resource)
  | _ => .error (.invalidIdentifier id)

/-- The network of a DID or DID URL: what stands between the method and the next colon. -/
def network (did : String) : Except Error String :=
  match methodStart.toList.isPrefixOf? did.toList with
  | none => .error (.invalidIdentifier s!"{did} is not a did:cheqd DID")
  | some rest =>
    let name := rest.takeWhile (· != ':')
    if name.isEmpty || name.length == rest.length then
      .error (.invalidIdentifier s!"{did} has no network")
    else .ok (String.ofList name)

/-! ### Supported identifiers -/

def isHexDigit (c : Char) : Bool := c.isDigit || ('a' ≤ c && c ≤ 'f') || ('A' ≤ c && c ≤ 'F')

/-- Groups of 8, 4, 4, 4 and 12 hexadecimal digits with hyphens between them. -/
def isUuid (text : List Char) : Bool :=
  (Split.pieces (· == '-') text).map List.length == [8, 4, 4, 4, 12] &&
    text.all fun c => isHexDigit c || c == '-'

/-- What names a DID on its network: 21 or 22 letters and digits, or a UUID. -/
def isMethodSpecificId (text : List Char) : Bool :=
  ((text.length == 21 || text.length == 22) && text.all Char.isAlphanum) || isUuid text

/-- The path of a DID URL: none, or that of a resource named by a UUID. -/
def isResourcePath (text : List Char) : Bool :=
  text.isEmpty || (resourcesPath.toList.isPrefixOf text &&
    isUuid (text.drop resourcesPath.length))

/-- The query of a DID URL: none, or a question mark and more, on one line. -/
def isQuery : List Char → Bool
  | [] => true
  | mark :: rest => mark == '?' && !rest.isEmpty && rest.all (· != '\n')

/-- Whether a network is one that DIDs are kept on. -/
def isNetwork (name : List Char) : Bool :=
  name == "testnet".toList || name == "mainnet".toList

/-- Whether a text is a DID, resource identifier or DID URL of the supported method. -/
def isSupported (id : String) : Bool :=
  match methodStart.toList.isPrefixOf? id.toList with
  | none => false
  | some rest =>
    let query := rest.dropWhile (· != '?')
    let address := rest.takeWhile (· != '?')
    let path := address.dropWhile (· != '/')
    match (address.takeWhile (· != '/')).span (· != ':') with
    | (name, _ :: specific) =>
      isNetwork name && isMethodSpecificId specific && isResourcePath path && isQuery query
    | (_, []) => false

end DidRegistry.Identifier
