import DidRegistry.Did.Identifier
import DidRegistry.Job.Rounds
import DidRegistry.Services

/-!
Resources published under a DID. A new resource and a new version of one are submitted alike, on the
network that the DID names; the job has to tell the ID that the resource has been given.
-/

namespace DidRegistry

structure ResourcePayload where
  name : String
  resourceType : String
  version : String
  data : Value
  deriving DecidableEq, Repr

structure PublishedResource where
  jobId : Option String
  resourceId : String
  didUrl : Option String
  deriving DecidableEq, Repr

namespace ResourcePayload

def record : Record ResourcePayload :=
  ResourcePayload.mk <$> .required "name" .text <*> .required "type" .text
    <*> .required "version" .text <*> .required "data" .value

def toJson (payload : ResourcePayload) : Json :=
  .obj [("name", .str payload.name), ("type", .str payload.resourceType),
    ("version", .str payload.version), ("data", payload.data.json)]

/-- The envelope that publishes a resource under a DID. -/
def envelope (payload : ResourcePayload) (did network : String) : Json :=
  .obj [("did", .str did), ("name", .str payload.name), ("type", .str payload.resourceType),
    ("version", .str payload.version), ("data", payload.data.json),
    ("options", Envelope.options network)]

end ResourcePayload

namespace PublishedResource

def record : Record PublishedResource :=
  PublishedResource.mk <$> .optional "jobId" .text <*> .required "resourceId" .text
    <*> .optional "didUrl" .text

def toJson (published : PublishedResource) : Json :=
  .obj (("jobId", Json.ofText published.jobId) :: ("resourceId", .str published.resourceId) ::
    Json.member "didUrl" .str published.didUrl)

end PublishedResource

namespace Resource

/-- Whether a resource is new or a new version of one. -/
inductive Mode where
  | create
  | update
  deriving DecidableEq, Repr

def Mode.endpoint : Mode → Endpoint
  | .create => .createResource
  | .update => .updateResource

def published (completed : CompletedJob) : Except Error PublishedResource :=
  match completed.outcome.publishedId? with
  | some id => .ok ⟨completed.jobId, id, completed.outcome.didUrl⟩
  | none => .error (.invalidResponse "finished resource job did not report a resource ID")

/-- Publishes a resource under a DID. -/
def publish (services : Services) (mode : Mode) (did : String) (payload : ResourcePayload) :
    Program PublishedResource := do
  let network ← Identifier.network did
  let job : Job := ⟨mode.endpoint, ⟨none, some did, some (Envelope.options network)⟩, none⟩
  let completed ← job.perform services.registrar services.settings.maxRounds
    (payload.envelope did network)
  published completed

/-- Resources stay: the method has no way to deactivate one. -/
def deactivate (_did _resourceId : String) : Program Unit := do
  let _ ← Registrar.deactivateResource
  pure ()

end Resource
end DidRegistry
