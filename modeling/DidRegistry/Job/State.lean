import DidRegistry.Signing

/-!
Jobs of a registrar, as it reports them. A job waits for signatures, has finished, or has failed; a
finished job reports what it did. The state of a job is written as one object whose member `state`
names the case and whose other members belong to it.
-/

namespace DidRegistry

/-- A resource as the registrar describes it. -/
structure ResourceRef where
  id : Option String
  name : Option String
  resourceType : Option String
  version : Option String
  deriving DecidableEq, Repr

structure Outcome where
  /-- The DID that was created or changed. -/
  did : Option String
  /-- The document that the DID has now. -/
  didDocument : Option Value
  /-- The DID URL of a new resource. -/
  didUrl : Option String
  /-- The ID of a new resource. -/
  resourceId : Option String
  /-- The new resource. -/
  resource : Option ResourceRef
  deriving DecidableEq, Repr

inductive JobState where
  /-- The registrar waits for signatures. -/
  | action (requests : List SigningRequest) (description : Option String)
  /-- The job is done. -/
  | finished (outcome : Outcome)
  /-- The job is given up. -/
  | error (reason : Option String)
  deriving DecidableEq, Repr

structure JobResponse where
  jobId : Option String
  state : JobState
  deriving DecidableEq, Repr

namespace ResourceRef

/-- The fields of a resource. Each may be missing. -/
def record : Record ResourceRef :=
  ResourceRef.mk <$> .defaulted "id" Decoder.text.nullable none
    <*> .defaulted "name" Decoder.text.nullable none
    <*> .defaulted "type" Decoder.text.nullable none
    <*> .defaulted "version" Decoder.text.nullable none

def toJson (resource : ResourceRef) : Json :=
  .obj (Json.member "id" .str resource.id ++ Json.member "name" .str resource.name ++
    Json.member "type" .str resource.resourceType ++ Json.member "version" .str resource.version)

end ResourceRef

namespace Outcome

/-- The fields of an outcome. Each may be missing. -/
def record : Record Outcome :=
  Outcome.mk <$> .defaulted "did" Decoder.text.nullable none
    <*> .defaulted "didDocument" Decoder.value.nullable none
    <*> .defaulted "didUrl" Decoder.text.nullable none
    <*> .defaulted "resourceId" Decoder.text.nullable none
    <*> .defaulted "resource" ResourceRef.record.decoder.nullable none

def members (outcome : Outcome) : List (String × Json) :=
  Json.member "did" .str outcome.did ++ Json.member "didDocument" Value.json outcome.didDocument ++
    Json.member "didUrl" .str outcome.didUrl ++ Json.member "resourceId" .str outcome.resourceId ++
    Json.member "resource" ResourceRef.toJson outcome.resource

def toJson (outcome : Outcome) : Json := .obj outcome.members

/-- What follows the last slash of a text, if there is a slash and something behind it. -/
def lastSegment? (text : String) : Option String :=
  let segment := (text.toList.reverse.takeWhile (· != '/')).reverse
  if segment.isEmpty || segment.length == text.toList.length then none
  else some (String.ofList segment)

/-- The ID of the resource that the job published: that of the resource if it is described, else the
one reported beside it, else the last segment of its DID URL. -/
def publishedId? (outcome : Outcome) : Option String :=
  (outcome.resource.bind (·.id)).or (outcome.resourceId.or (outcome.didUrl.bind lastSegment?))

end Outcome

namespace JobState

inductive Case where
  | action
  | finished
  | error
  deriving DecidableEq, Repr

def Case.named? : String → Option Case
  | "action" => some .action
  | "finished" => some .finished
  | "error" => some .error
  | _ => none

def Case.decoder : Decoder Case
  | .str name => match Case.named? name with
    | some named => .ok named
    | none => .error (.unknownVariant name)
  | document => .error (Decoder.wrongKind document)

/-- The fields that belong to a case. -/
def Case.record : Case → Record JobState
  | .action =>
    JobState.action <$> .defaulted "signingRequest" (.list SigningRequest.record.decoder) []
      <*> .defaulted "description" Decoder.text.nullable none
  | .finished => JobState.finished <$> Outcome.record
  | .error => JobState.error <$> .defaulted "reason" Decoder.text.nullable none

/-- The case that members name. It has to be named once. -/
def caseOf (members : List (String × Json)) : Except DecodeError Case :=
  match members.filter (·.1 == "state") with
  | [] => .error (.missingField "state")
  | [(_, name)] => Case.decoder name
  | (_, name) :: _ :: _ => do
    let _ ← Case.decoder name
    .error (.duplicateField "state")

/-- Reads a state: an object with the case among its members, or an array with the case in front.
Since the case may come last, every part has to denote a value, whether the case needs it or not. -/
def decoder : Decoder JobState
  | .obj members => do
    let named ← caseOf members
    let fields := members.filter (·.1 != "state")
    if Json.membersReadable fields then named.record.decoder (.obj fields)
    else .error .malformed
  | .arr [] => .error (.missingField "state")
  | .arr (name :: fields) => do
    let named ← Case.decoder name
    if Json.itemsReadable fields then named.record.decoder (.arr fields)
    else .error .malformed
  | document => .error (Decoder.wrongKind document)

def toJson : JobState → Json
  | .action requests description =>
    .obj (("state", .str "action") ::
      ("signingRequest", .arr (requests.map SigningRequest.toJson)) ::
      Json.member "description" .str description)
  | .finished outcome => .obj (("state", .str "finished") :: outcome.members)
  | .error reason => .obj (("state", .str "error") :: Json.member "reason" .str reason)

end JobState

namespace JobResponse

/-- The fields of a report. Jobs on resources name the state differently. -/
def record : Record JobResponse :=
  JobResponse.mk <$> .defaulted "jobId" Decoder.text.nullable none
    <*> .requiredAs "didState" "didUrlState" JobState.decoder

def toJson (response : JobResponse) : Json :=
  .obj (Json.member "jobId" .str response.jobId ++ [("didState", response.state.toJson)])

/-- The ID of the resource that a finished job published. -/
def publishedId? (response : JobResponse) : Option String :=
  match response.state with
  | .finished outcome => outcome.publishedId?
  | .action _ _ | .error _ => none

end JobResponse
end DidRegistry
