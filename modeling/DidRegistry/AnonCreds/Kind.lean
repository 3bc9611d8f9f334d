import DidRegistry.Error
import DidRegistry.Json.Decoding

/-!
Kinds of AnonCreds objects. Every object is published as a resource whose type tells its kind and
whose content is the object without its issuer, who is known from where the resource is.
-/

namespace DidRegistry.AnonCreds

inductive ResourceType where
  | schema
  | credentialDefinition
  | revocationRegistryDefinition
  | statusList
  deriving DecidableEq, Repr

namespace ResourceType

def name : ResourceType → String
  | .schema => "anonCredsSchema"
  | .credentialDefinition => "anonCredsCredDef"
  | .revocationRegistryDefinition => "anonCredsRevocRegDef"
  | .statusList => "anonCredsStatusList"

def named? : String → Option ResourceType
  | "anonCredsSchema" => some .schema
  | "anonCredsCredDef" => some .credentialDefinition
  | "anonCredsRevocRegDef" => some .revocationRegistryDefinition
  | "anonCredsStatusList" => some .statusList
  | _ => none

def decoder (source : Source) : Decoder ResourceType := Decoder.variant source named?

def toJson (type : ResourceType) : Json := .str type.name

end ResourceType

/-- Objects that are published as the content of resources. -/
class ResourceContent (α : Type) where
  /-- The type of the resource. -/
  resourceType : ResourceType
  /-- The DID that the object is published under. -/
  issuerId : α → String
  /-- The content of the resource. -/
  content : α → Value
  /-- Reads the object of an issuer from the content of its resource. -/
  ofContent : String → Decoder α

/-- Reads an object from the content of its resource. -/
def ResourceContent.read {α : Type} [ResourceContent α] (issuer : String) (content : Value) :
    Except Error α :=
  match ofContent issuer content.json with
  | .ok value => .ok value
  | .error problem =>
    .error (.invalidResponse
      ((resourceType α).name ++ " content: " ++ problem.message))

end DidRegistry.AnonCreds
