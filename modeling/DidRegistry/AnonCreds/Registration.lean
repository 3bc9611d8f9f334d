import DidRegistry.AnonCreds.Kind

/-!
What a registry reports: an object that has been registered, with the resource that it was published
as, and an object that has been resolved, with what the resolver reports beside it.
-/

namespace DidRegistry.AnonCreds

variable {α : Type}

inductive RegistrationState where
  | finished
  deriving DecidableEq, Repr

structure ObjectState (α : Type) where
  state : RegistrationState
  /-- The identifier of the object's resource. -/
  id : String
  value : α
  deriving DecidableEq, Repr

/-- The resource that an object was published as. -/
structure RegistrationMetadata where
  resourceId : String
  resourceName : String
  resourceType : String
  deriving DecidableEq, Repr

structure RegistrationResult (α : Type) where
  jobId : Option String
  state : ObjectState α
  metadata : RegistrationMetadata
  deriving DecidableEq, Repr

structure Resolved (α : Type) where
  /-- The identifier or DID URL that it was resolved by. -/
  id : String
  value : α
  metadata : Metadata
  deriving DecidableEq, Repr

namespace RegistrationState

def named? : String → Option RegistrationState
  | "finished" => some .finished
  | _ => none

def decoder (source : Source) : Decoder RegistrationState := Decoder.variant source named?

def toJson : RegistrationState → Json
  | .finished => .str "finished"

end RegistrationState

namespace ObjectState

def record (source : Source) (value : Decoder α) : Record (ObjectState α) :=
  ObjectState.mk <$> .required "state" (RegistrationState.decoder source)
    <*> .required "id" .text <*> .required "value" value

def toJson (value : α → Json) (state : ObjectState α) : Json :=
  .obj [("state", state.state.toJson), ("id", .str state.id), ("value", value state.value)]

end ObjectState

namespace RegistrationMetadata

def record : Record RegistrationMetadata :=
  RegistrationMetadata.mk <$> .required "resource_id" .text <*> .required "resource_name" .text
    <*> .required "resource_type" .text

def toJson (metadata : RegistrationMetadata) : Json :=
  .obj [("resource_id", .str metadata.resourceId), ("resource_name", .str metadata.resourceName),
    ("resource_type", .str metadata.resourceType)]

end RegistrationMetadata

namespace RegistrationResult

def record (source : Source) (value : Decoder α) : Record (RegistrationResult α) :=
  RegistrationResult.mk <$> .optional "job_id" .text
    <*> .required "state" (ObjectState.record source value).decoder
    <*> .required "registration_metadata" RegistrationMetadata.record.decoder

def toJson (value : α → Json) (result : RegistrationResult α) : Json :=
  .obj [("job_id", Json.ofText result.jobId), ("state", result.state.toJson value),
    ("registration_metadata", result.metadata.toJson)]

end RegistrationResult

namespace Resolved

def record (value : Decoder α) : Record (Resolved α) :=
  Resolved.mk <$> .required "id" .text <*> .required "value" value
    <*> .required "metadata" .metadata

def toJson (value : α → Json) (resolved : Resolved α) : Json :=
  .obj [("id", .str resolved.id), ("value", value resolved.value),
    ("metadata", resolved.metadata.json)]

end Resolved
end DidRegistry.AnonCreds
