import DidRegistry.Interaction.Script
import DidRegistry.Json.Writer
import DidRegistry.Proofs.AnonCreds.Posting
import DidRegistry.Proofs.AnonCreds.StatusList
import DidRegistry.Proofs.Did.Identifier
import DidRegistry.Proofs.Job.Conformance

/-!
What a registration reports against what it has sent. The object, its name and its type come back
from the same publication that put them into the first document; the version of a status list is
that of the point in time from which the list is in force, which the operation has chosen before.

Main statement: the documents of an operation that succeeds are those that its result describes, the
first and all that follow it (`RegistryOperation.reports_published`).
-/

namespace DidRegistry.AnonCreds

variable {services : Services}

namespace RegistryOperation

/-- The name on the ledger of what an operation publishes. -/
def tag : RegistryOperation → String
  | .registerSchema _ => "anonCredsSchema"
  | .registerCredentialDefinition _ => "anonCredsCredDef"
  | .registerRevocationRegistryDefinition _ => "anonCredsRevocRegDef"
  | .registerRevocationList _ | .updateRevocationList _ _ => "anonCredsStatusList"

/-- The status list that an operation publishes, if it publishes one. -/
def list? : (operation : RegistryOperation) → operation.Object → Option RevocationStatusList
  | .registerRevocationList _, list | .updateRevocationList _ _, list => some list
  | .registerSchema _, _ | .registerCredentialDefinition _, _
  | .registerRevocationRegistryDefinition _, _ => none

theorem resourceType_name (operation : RegistryOperation) :
    (ResourceContent.resourceType operation.Object).name = operation.tag := by
  cases operation <;> rfl

/-- A status list is published as the version of the point in time from which it is in force. -/
theorem version_of_lookup {operation : RegistryOperation} {exchanges : List Exchange}
    {publication : Publication operation.Object} {list : RevocationStatusList}
    (found : (operation.lookup services).Traces exchanges (.ok publication))
    (listed : operation.list? publication.value = some list) :
    ∃ timestamp, list.timestamp = some timestamp ∧
      publication.version = toString timestamp.toInt := by
  cases operation with
  | registerSchema schema => cases listed
  | registerCredentialDefinition definition => cases listed
  | registerRevocationRegistryDefinition definition => cases listed
  | registerRevocationList given =>
      obtain ⟨_, rest, definition, -, -, found⟩ := Program.bind_traces_ok.mp found
      obtain ⟨name, -, found⟩ := Program.ofExcept_bind_traces_ok.mp found
      obtain ⟨_, _, timestamp, -, -, -, found⟩ := Program.bind_traces_ok.mp found
      cases found
      cases listed
      exact ⟨timestamp, rfl, rfl⟩
  | updateRevocationList registryId update =>
      obtain ⟨_, rest, current, -, -, found⟩ := Program.bind_traces_ok.mp found
      obtain ⟨revoked, -, found⟩ := Program.ofExcept_bind_traces_ok.mp found
      obtain ⟨_, _, now, -, -, found⟩ := Program.bind_traces_ok.mp found
      obtain ⟨timestamp, -, -, found⟩ := Program.ofExcept_bind_traces_ok.mp found
      cases found
      cases listed
      exact ⟨timestamp, rfl, rfl⟩

/-- The content of a status list gives the point in time from which it is in force. -/
theorem content_timestamp {operation : RegistryOperation} {value : operation.Object}
    {list : RevocationStatusList} {timestamp : Int64} (listed : operation.list? value = some list)
    (stamped : list.timestamp = some timestamp) :
    (ResourceContent.content value).json.member? "timestamp" = some (.int timestamp.toInt) := by
  have content : ∀ list : RevocationStatusList, list.timestamp = some timestamp →
      (ResourceContent.content list).json.member? "timestamp" = some (.int timestamp.toInt) := by
    intro list stamped
    rw [RevocationStatusList.content_json, stamped]
    rfl
  cases operation with
  | registerRevocationList _ =>
      cases listed
      exact content list stamped
  | updateRevocationList _ _ =>
      cases listed
      exact content list stamped
  | _ => cases listed

end RegistryOperation

/-- The result of an operation describes the documents that the operation has sent, under a DID of
this network and with this version. -/
structure Reported (operation : RegistryOperation) (exchanges : List Exchange)
    (registration : RegistrationResult operation.Object) (network version : String) : Prop where
  /-- The DID is one of the network. -/
  named : ∃ rest, ResourceContent.issuerId registration.state.value =
    "did:cheqd:" ++ network ++ ":" ++ rest ∧ network ≠ "" ∧ ':' ∉ network.toList
  /-- The first document has the object that is reported, with the name and the type that are
  reported; all others repeat the DID and its options. -/
  documents : ∃ others, exchanges.filterMap Exchange.document? =
      .obj [("did", .str (ResourceContent.issuerId registration.state.value)),
        ("name", .str registration.metadata.resourceName),
        ("type", .str registration.metadata.resourceType), ("version", .str version),
        ("data", (ResourceContent.content registration.state.value).json),
        ("options", .obj [("network", .str network)])] :: others ∧
    ∀ other ∈ others, ∃ jobId responses, other = Operation.resubmission
      [("did", .str (ResourceContent.issuerId registration.state.value)),
        ("options", .obj [("network", .str network)])] jobId responses
  /-- The type is that of the kind of object. -/
  kind : registration.metadata.resourceType = operation.tag
  /-- The identifier consists of the DID and of the resource ID. -/
  identifier : registration.state.id = ResourceContent.issuerId registration.state.value ++
    "/resources/" ++ registration.metadata.resourceId
  /-- A status list says from when on it is in force; the version and the content that were sent say
  the same. -/
  versioned : ∀ list, operation.list? registration.state.value = some list →
    ∃ timestamp, list.timestamp = some timestamp ∧ version = toString timestamp.toInt ∧
      (ResourceContent.content registration.state.value).json.member? "timestamp" =
        some (.int timestamp.toInt)

/-- Whatever it is asked to publish and however many rounds of signing it takes, an operation that
succeeds reports what it has published. The first document that it has sent has the object, the name
and the type of its result and is for the network that the issuer's DID names; all others repeat DID
and network. A list is published with its timestamp as version, and says from when on it is in
force, also where the caller has left this open. -/
theorem RegistryOperation.reports_published (services : Services) (operation : RegistryOperation)
    {σ : Type} (surroundings : Surroundings σ) (state : σ)
    {registration : RegistrationResult operation.Object}
    (succeeded : ((operation.program services).run surroundings state).result =
      .ok registration) :
    ∃ network version,
      Reported operation ((operation.program services).run surroundings state).exchanges
        registration network version := by
  have trace := Program.run_traces surroundings (operation.program services) state
  rw [succeeded] at trace
  generalize ((operation.program services).run surroundings state).exchanges = exchanges
    at trace ⊢
  obtain ⟨before, after, publication, rfl, found, quiet, published⟩ := program_traces_ok trace
  obtain ⟨network, place, rounds, completed, resource, named, rfl, dialogue, -, rfl⟩ :=
    publish_traces_ok published
  have silent : before.filterMap Exchange.document? = [] :=
    List.filterMap_eq_nil_iff.mpr
      (List.findSome?_eq_none_iff.mp (Exchange.findSome?_document?_of_isQuiet quiet))
  obtain ⟨others, sent, repeated⟩ := dialogue.documents_eq
  refine ⟨network, publication.version, Identifier.exists_of_network named,
    ⟨others, ?_, repeated⟩, operation.resourceType_name, rfl, ?_⟩
  · rw [List.filterMap_append, silent, sent, List.nil_append]
    rfl
  · intro list listed
    obtain ⟨timestamp, stamped, same⟩ := version_of_lookup found listed
    exact ⟨timestamp, stamped, same, content_timestamp listed stamped⟩

/-- A list that does not say from when on it is in force. -/
def undated : RevocationStatusList :=
  ⟨"did:cheqd:testnet:a", "did:cheqd:testnet:a/resources/d", [0, 0], "x", none⟩

def registryOfUndated : RevocationRegistryDefinition := ⟨"did:cheqd:testnet:a", "", "", "", .null⟩

/-- A resolver that knows the definition under the name `n`, a registrar that asks for one signature
and then reports a resource ID, and a clock that reads five. -/
def listing : Script where
  reachable := true
  deliveries :=
    [.obj [("contentStream", (ResourceContent.content registryOfUndated).json),
        ("contentMetadata", .obj [("resourceName", .str "n")])],
      JobResponse.toJson ⟨some "j", .action [⟨"k", "a"⟩] none⟩,
      JobResponse.toJson ⟨some "j", .finished ⟨none, none, none, some "r", none⟩⟩].map
        fun document => .replied ⟨200, Bytes.ofText document.render⟩
  createKey := []
  assignKid := []
  sign := []
  now := 5

/-- The list is in force from the time on that the clock has read, and is reported as sent. -/
theorem reports_published_undated :
    (((RegistryOperation.registerRevocationList undated).program .standard).run
      Script.surroundings listing).result =
        .ok (registered "n" { undated with timestamp := some 5 } ⟨some "j", "r", none⟩) ∧
    ∃ network version, Reported (.registerRevocationList undated)
      (((RegistryOperation.registerRevocationList undated).program .standard).run
        Script.surroundings listing).exchanges
      (registered "n" { undated with timestamp := some 5 } ⟨some "j", "r", none⟩)
      network version := by
  have succeeded : ((registerRevocationList .standard undated).run Script.surroundings
      listing).result =
        .ok (registered "n" { undated with timestamp := some 5 } ⟨some "j", "r", none⟩) := by
    decide +kernel
  exact ⟨succeeded, RegistryOperation.reports_published .standard (.registerRevocationList undated)
    Script.surroundings listing succeeded⟩

end DidRegistry.AnonCreds
