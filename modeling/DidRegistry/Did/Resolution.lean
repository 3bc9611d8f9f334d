import DidRegistry.Interaction.Program
import DidRegistry.Job.Registrar
import DidRegistry.Url.Reader

/-!
Resolution: what a resolver knows about a DID, and the resource behind a DID URL. A resolver answers
404 or 410 for what it does not know; a resource may come as it is or as a stream with metadata.
-/

namespace DidRegistry

/-- What a resolver reports beside a DID document. -/
structure DocumentMetadata where
  created : Option String
  updated : Option String
  deactivated : Option Bool
  versionId : Option String
  deriving DecidableEq, Repr

structure DidResolution where
  didDocument : Option Value
  didDocumentMetadata : DocumentMetadata
  deriving DecidableEq, Repr

/-- A resource with what the resolver reports beside it. -/
structure ResolvedResource where
  resource : Value
  metadata : Metadata
  deriving DecidableEq, Repr

namespace DocumentMetadata

def empty : DocumentMetadata := ⟨none, none, none, none⟩

def record : Record DocumentMetadata :=
  DocumentMetadata.mk <$> .optional "created" .text <*> .optional "updated" .text
    <*> .optional "deactivated" .bool <*> .optional "versionId" .text

def toJson (metadata : DocumentMetadata) : Json :=
  .obj (Json.member "created" .str metadata.created ++
    Json.member "updated" .str metadata.updated ++
    Json.member "deactivated" .bool metadata.deactivated ++
    Json.member "versionId" .str metadata.versionId)

end DocumentMetadata

namespace DidResolution

def record : Record DidResolution :=
  DidResolution.mk <$> .optional "didDocument" .value
    <*> .defaulted "didDocumentMetadata" DocumentMetadata.record.decoder .empty

def toJson (resolution : DidResolution) : Json :=
  .obj (Json.member "didDocument" Value.json resolution.didDocument ++
    [("didDocumentMetadata", resolution.didDocumentMetadata.toJson)])

/-- Whether the DID can be changed: it has a document and has not been deactivated. -/
def isActive (resolution : DidResolution) : Bool :=
  resolution.didDocument.isSome && resolution.didDocumentMetadata.deactivated != some true

end DidResolution

namespace ResolvedResource

def record : Record ResolvedResource :=
  ResolvedResource.mk <$> .required "resource" .value <*> .required "metadata" .metadata

def toJson (resolved : ResolvedResource) : Json :=
  .obj [("resource", resolved.resource.json), ("metadata", resolved.metadata.json)]

/-- The resource in the body of an answer. An object with a `contentStream` is the resource there,
with the metadata of `contentMetadata` if that is an object; any other body is the resource. -/
def ofBody (body : Value) : ResolvedResource :=
  match body.member? "contentStream" with
  | some stream =>
    ⟨stream, ((body.member? "contentMetadata").bind Metadata.ofValue?).getD .empty⟩
  | none => ⟨body, .empty⟩

end ResolvedResource

namespace Resolver

/-- The form of answer for a DID. -/
def resolutionForm : String := "application/ld+json;profile=\"https://w3id.org/did-resolution\""

/-- The form of answer for a DID URL. -/
def dereferencingForm : String :=
  "application/ld+json;profile=\"https://w3id.org/did-url-dereferencing\""

/-- The URL that a resolver knows an identifier by: that of the resolver, continued. -/
def identifierUrl (base : Url) (id : String) : Except Error Url :=
  match Url.parse (base.render ++ id) with
  | .ok url => .ok url
  | .error problem => .error (.invalidIdentifier s!"{id}: {problem.message}")

/-- Reads an answer: unknown, a body, or a failure. -/
def body? (url : Url) (reply : HttpReply) : Except Error (Option Value) :=
  if reply.status = 404 ∨ reply.status = 410 then .ok none
  else if 200 ≤ reply.status ∧ reply.status < 300 then
    match Value.ofBytes? reply.body with
    | some body => .ok (some body)
    | none => .error .request
  else .error (.transport url.render reply.status)

/-- What the resolver has for an identifier. -/
def lookup (base : Url) (form id : String) : Program (Option Value) := do
  let url ← identifierUrl base id
  let reply ← Program.fetch ⟨url, form, none⟩
  body? url reply

/-- Reads the body of an answer for a DID. -/
def resolution (body : Value) : Except Error DidResolution :=
  match DidResolution.record.decoder body.json with
  | .ok resolution => .ok resolution
  | .error problem => .error (.serialization problem.message)

def resolve (base : Url) (did : String) : Program (Option DidResolution) := do
  match ← lookup base resolutionForm did with
  | none => pure none
  | some body => do
    let resolution ← resolution body
    pure (some resolution)

/-- Finds the resource behind a DID URL. -/
def dereference (base : Url) (didUrl : String) : Program (Option ResolvedResource) := do
  let body ← lookup base dereferencingForm didUrl
  pure (body.map ResolvedResource.ofBody)

end Resolver
end DidRegistry
