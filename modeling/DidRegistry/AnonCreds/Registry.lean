import DidRegistry.AnonCreds.Object
import DidRegistry.AnonCreds.Registration
import DidRegistry.Did.Resolution
import DidRegistry.Resource.Publishing

/-!
The registry of AnonCreds objects. An object is published as a resource under its issuer's DID; the
name of the resource leads from a schema over its credential definitions to their revocation
registries, each name continuing the one it belongs to, and the version is what tells objects of one
name apart.
-/

namespace DidRegistry.AnonCreds

variable {α : Type} [ResourceContent α]

/-! ### Publishing and resolving -/

/-- The resource that an object is published as. -/
def payload (name version : String) (value : α) : ResourcePayload :=
  ⟨name, (ResourceContent.resourceType α).name, version, ResourceContent.content value⟩

def registered (name : String) (value : α) (published : PublishedResource) : RegistrationResult α :=
  ⟨published.jobId,
    ⟨.finished, Identifier.compose (ResourceContent.issuerId value) published.resourceId, value⟩,
    ⟨published.resourceId, name, (ResourceContent.resourceType α).name⟩⟩

/-- Publishes an object under its issuer's DID. -/
def publish (services : Services) (mode : Resource.Mode) (name version : String) (value : α) :
    Program (RegistrationResult α) := do
  let published ← Resource.publish services mode (ResourceContent.issuerId value)
    (payload name version value)
  pure (registered name value published)

/-- Reads an object from a resource. A resource without content is none. -/
def ofResource (didUrl issuer : String) (resource : Option ResolvedResource) :
    Except Error (Resolved α) :=
  match resource with
  | none => .error (.resourceNotFound didUrl)
  | some resolved =>
    if resolved.resource = Value.null then .error (.resourceNotFound didUrl)
    else do
      let value ← ResourceContent.read issuer resolved.resource
      pure ⟨didUrl, value, resolved.metadata⟩

/-- Resolves the object behind a DID URL. -/
def resolve (services : Services) (didUrl issuer : String) : Program (Resolved α) := do
  let resource ← Resolver.dereference services.resolver didUrl
  ofResource didUrl issuer resource

/-- Resolves the object with an identifier. -/
def get (services : Services) (id : String) : Program (Resolved α) := do
  let (issuer, _) ← Identifier.split id
  resolve services id issuer

/-- The name that a resource was published under, as the resolver reports it. -/
def resourceName (metadata : Metadata) (id : String) : Except Error String :=
  match metadata.text? "resourceName" with
  | none | some "" => .error (.invalidResponse s!"no resource name in metadata for {id}")
  | some name => .ok name

/-! ### Schemas and definitions -/

def getSchema (services : Services) (id : String) : Program (Resolved Schema) := get services id

def getCredentialDefinition (services : Services) (id : String) :
    Program (Resolved CredentialDefinition) := get services id

def getRevocationRegistryDefinition (services : Services) (id : String) :
    Program (Resolved RevocationRegistryDefinition) := get services id

/-- Publishes a schema under its own name and version. -/
def registerSchema (services : Services) (schema : Schema) : Program (RegistrationResult Schema) :=
  publish services .create schema.name schema.version schema

/-- The name of what belongs to a named object and is told apart by a tag. -/
def taggedName (name tag : String) : String := name ++ "-" ++ tag

/-- Publishes a credential definition. Its resource continues the name of the schema. -/
def registerCredentialDefinition (services : Services) (definition : CredentialDefinition) :
    Program (RegistrationResult CredentialDefinition) := do
  let schema ← getSchema services definition.schemaId
  publish services .create (taggedName schema.value.name definition.tag) definition.tag definition

/-- Publishes a revocation registry definition. Its resource continues the name under which the
credential definition was published. -/
def registerRevocationRegistryDefinition (services : Services)
    (definition : RevocationRegistryDefinition) :
    Program (RegistrationResult RevocationRegistryDefinition) := do
  let credentialDefinition ← getCredentialDefinition services definition.credDefId
  let name ← resourceName credentialDefinition.metadata credentialDefinition.id
  publish services .create (taggedName name definition.tag) definition.tag definition

end DidRegistry.AnonCreds
