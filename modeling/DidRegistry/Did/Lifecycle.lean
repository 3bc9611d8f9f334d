import DidRegistry.Did.Resolution
import DidRegistry.Job.Rounds
import DidRegistry.Services
import DidRegistry.Text.Hex

/-!
The life of a DID: it is created with a new key, its document is replaced, it is deactivated. Only a
DID that the resolver reports as active is changed.
-/

namespace DidRegistry

/-- What a caller may choose for a new DID. -/
structure CreateOptions where
  /-- The network, if it is not that of the settings. -/
  network : Option String
  /-- The seed of the key, where the settings allow one. -/
  seed : Option String
  deriving DecidableEq, Repr

structure DidResult where
  did : String
  /-- The public key of a new DID, in hexadecimal. -/
  verkey : Option String
  didDocument : Option Value
  jobId : Option String
  deriving DecidableEq, Repr

namespace CreateOptions

def record : Record CreateOptions :=
  CreateOptions.mk <$> .optional "network" .text <*> .optional "seed" .text

def toJson (options : CreateOptions) : Json :=
  .obj (Json.member "network" .str options.network ++ Json.member "seed" .str options.seed)

end CreateOptions

namespace DidResult

def record : Record DidResult :=
  DidResult.mk <$> .required "did" .text <*> .optional "verkey" .text
    <*> .optional "didDocument" .value <*> .optional "jobId" .text

def toJson (result : DidResult) : Json :=
  .obj (("did", .str result.did) :: Json.member "verkey" .str result.verkey ++
    Json.member "didDocument" Value.json result.didDocument ++
    Json.member "jobId" .str result.jobId)

end DidResult

namespace Did

/-- A draft of a DID document with the DID it names. -/
structure Draft where
  document : Value
  did : String
  deriving DecidableEq, Repr

/-- The draft in a registrar's answer: its member `didDoc` if it has one, otherwise all of it. A
draft is an object that names its DID. -/
def Draft.ofBody? (body : Value) : Option Draft :=
  let document := (body.member? "didDoc").getD body
  (document.json.member? "id" >>= Json.text?).map (⟨document, ·⟩)

/-- Creates a DID. The wallet creates a key, the registrar drafts a document for it, and the key
answers the registrar's requests for signatures. -/
def create (services : Services) (options : CreateOptions) : Program DidResult := do
  if options.seed.isSome ∧ services.settings.allowInsecureSeed = false then .fail .keyPolicy
  else
    let network := options.network.getD services.settings.network
    let verkey ← Program.createKey options.seed
    let body ← Registrar.draft services.registrar network (Hex.encode verkey)
      services.settings.verificationMethod
    match Draft.ofBody? body with
    | none => .fail .documentConstruction
    | some draft =>
      let job : Job := ⟨.create, ⟨some network, none, none⟩, some verkey⟩
      let completed ← job.perform services.registrar services.settings.maxRounds
        (Envelope.create draft.document network)
      pure ⟨completed.outcome.did.getD draft.did, some (Hex.encode verkey),
        completed.outcome.didDocument, completed.jobId⟩

/-- Ends with an error unless the resolver reports the DID as active. -/
def ensureActive (services : Services) (did : String) : Program Unit := do
  let resolution ← Resolver.resolve services.resolver did
  if resolution.any DidResolution.isActive then pure () else .fail (.didNotFound did)

/-- Performs a job on an active DID. -/
def change (services : Services) (endpoint : Endpoint) (did : String) (envelope : Json) :
    Program DidResult := do
  ensureActive services did
  let completed ← (Job.plain endpoint).perform services.registrar services.settings.maxRounds
    envelope
  pure ⟨did, none, completed.outcome.didDocument, completed.jobId⟩

/-- Replaces the document of an active DID. -/
def update (services : Services) (did : String) (document : Value) : Program DidResult :=
  change services .update did (Envelope.update did document)

/-- Deactivates an active DID. -/
def deactivate (services : Services) (did : String) : Program DidResult :=
  change services .deactivate did (Envelope.deactivate did)

end Did
end DidRegistry
