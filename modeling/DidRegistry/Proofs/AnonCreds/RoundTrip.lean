import DidRegistry.Proofs.AnonCreds.Contents
import DidRegistry.Proofs.AnonCreds.ReadBack
import DidRegistry.Proofs.AnonCreds.Revocation

/-!
Schemas and definitions that are registered and then read. The resolver may serve what was posted as
it is, or as a stream with metadata (`Presents`); since no content looks like a stream, both are read
as the content (`Presents.ofBody_eq`), and the content as the object.

Main statement: if the identifier of a new schema or definition is resolved to what was posted, the
object comes back with the metadata served (`registered_then_read`).
-/

namespace DidRegistry.AnonCreds

/-- The body serves this data, with metadata: as it is, without any; or as a stream, with those
described beside it if they are an object, and otherwise without any. -/
inductive Presents (data : Json) (body : Value) : Metadata → Prop where
  | raw (same : body.json = data) : Presents data body .empty
  | described {members : List (String × Json)} {metadata : Metadata}
      (object : body.json = .obj members) (stream : members.lookup "contentStream" = some data)
      (beside : members.lookup "contentMetadata" = some metadata.json) :
      Presents data body metadata
  | undescribed {members : List (String × Json)} (object : body.json = .obj members)
      (stream : members.lookup "contentStream" = some data)
      (beside : ∀ others, members.lookup "contentMetadata" ≠ some (.obj others)) :
      Presents data body .empty

/-- Metadata are read off a value exactly if the value is their object. -/
theorem metadata_ofValue?_eq_some_iff {value : Value} {metadata : Metadata} :
    Metadata.ofValue? value = some metadata ↔ value.json = metadata.json := by
  constructor
  · intro read
    obtain ⟨json, canonical⟩ := value
    cases json with
    | obj members =>
        cases read
        rfl
    | _ => cases read
  · intro same
    have equal : value = metadata.value := Value.json_injective same
    rw [equal, Metadata.ofValue?_value]

section Reading

variable {α : Type} [ResourceContent α] {services : Services}

/-- What is served is read as the content, with its metadata. -/
theorem Presents.ofBody_eq [LawfulContent α] {value : α} {body : Value} {metadata : Metadata}
    (presents : Presents (ResourceContent.content value).json body metadata) :
    ResolvedResource.ofBody body = ⟨ResourceContent.content value, metadata⟩ := by
  have member := body.json_member? "contentStream"
  have beside := body.json_member? "contentMetadata"
  cases presents with
  | raw same =>
      obtain rfl := Value.json_injective same
      obtain ⟨members, object, unwrapped⟩ := LawfulContent.bare value
      rw [object, Json.member?, unwrapped, Option.map_eq_none_iff] at member
      rw [ResolvedResource.ofBody, member]
  | described object stream described =>
      rw [object, Json.member?, stream] at member
      rw [object, Json.member?, described] at beside
      obtain ⟨content, found, same⟩ := Option.map_eq_some_iff.mp member
      obtain ⟨other, told, equal⟩ := Option.map_eq_some_iff.mp beside
      obtain rfl := Value.json_injective same
      rw [ResolvedResource.ofBody, found, told, Option.bind_some,
        metadata_ofValue?_eq_some_iff.mpr equal]
      rfl
  | undescribed object stream undescribed =>
      rw [object, Json.member?, stream] at member
      rw [object, Json.member?] at beside
      obtain ⟨content, found, same⟩ := Option.map_eq_some_iff.mp member
      obtain rfl := Value.json_injective same
      have none : (body.member? "contentMetadata").bind Metadata.ofValue? = none := by
        rw [Option.eq_none_iff_forall_ne_some]
        intro metadata read
        obtain ⟨other, told, described⟩ := Option.bind_eq_some_iff.mp read
        rw [told, Option.map_some, metadata_ofValue?_eq_some_iff.mp described] at beside
        exact undescribed metadata.members beside.symm
      rw [ResolvedResource.ofBody, found, none]
      rfl

/-- A resolution is one request, if one can be sent. -/
theorem resolve_eq_ask {didUrl issuer : String} {request : HttpRequest}
    (asked : Resolver.request? services.resolver Resolver.dereferencingForm didUrl =
      some request) :
    (resolve services didUrl issuer : Program (Resolved α)) =
      .ask (.fetch request) fun delivery => .ofExcept
        ((Delivery.read delivery (Resolver.body? request.url)).bind fun body =>
          ofResource didUrl issuer (body.map ResolvedResource.ofBody)) := by
  obtain ⟨url, identified, web, rfl⟩ := Resolver.exists_of_request? asked
  unfold resolve Resolver.dereference
  rw [Resolver.lookup_eq, identified, Program.ofExcept_ok_bind, Program.fetch_read_eq web]
  simp only [Program.bind_eq, Program.bind, Program.ask.injEq, heq_eq_eq, true_and]
  funext delivery
  change _ = Program.ofExcept ((Delivery.read delivery (Resolver.body? url)).bind _)
  cases Delivery.read delivery (Resolver.body? url) <;> rfl

/-- An object whose content is served is read back. -/
theorem resolve_run [LawfulContent α] {τ : Type} {resolving : Surroundings τ} {start after : τ}
    {didUrl : String} {request : HttpRequest} {reply : HttpReply} {body : Value}
    {metadata : Metadata} {value : α}
    (asked : Resolver.request? services.resolver Resolver.dereferencingForm didUrl = some request)
    (answered : resolving.answer (.fetch request) start = (.replied reply, after))
    (success : 200 ≤ reply.status ∧ reply.status < 300)
    (read : Value.ofBytes? reply.body = some body)
    (presents : Presents (ResourceContent.content value).json body metadata) :
    (resolve services didUrl (ResourceContent.issuerId value)).run resolving start =
      ⟨[⟨.fetch request, .replied reply⟩], .ok ⟨didUrl, value, metadata⟩, after⟩ := by
  have brought : Resolver.body? request.url reply = .ok (some body) :=
    Resolver.body?_eq_some_iff.mpr ⟨success, read⟩
  have object : ofResource didUrl (ResourceContent.issuerId value)
      (some (ResolvedResource.ofBody body)) = .ok ⟨didUrl, value, metadata⟩ := by
    rw [ofResource_some_eq_ok_iff, presents.ofBody_eq]
    exact ⟨content_ne_null value, rfl, rfl, read_content value⟩
  rw [resolve_eq_ask asked, Program.run_of_answer answered, Delivery.read, brought]
  change Run.after _ ((Program.ofExcept (ofResource didUrl (ResourceContent.issuerId value)
    (some (ResolvedResource.ofBody body)))).run resolving after) = _
  rw [object]
  rfl

end Reading

/-! ### Schemas and definitions -/

/-- The objects that are registered once and read by their identifier. -/
inductive Definition where
  | schema (object : Schema)
  | credentialDefinition (object : CredentialDefinition)
  | revocationRegistryDefinition (object : RevocationRegistryDefinition)

namespace Definition

def operation : Definition → RegistryOperation
  | .schema object => .registerSchema object
  | .credentialDefinition object => .registerCredentialDefinition object
  | .revocationRegistryDefinition object => .registerRevocationRegistryDefinition object

def value : (definition : Definition) → definition.operation.Object
  | .schema object => object
  | .credentialDefinition object => object
  | .revocationRegistryDefinition object => object

def read (services : Services) :
    (definition : Definition) → String → Program (Resolved definition.operation.Object)
  | .schema _, id => getSchema services id
  | .credentialDefinition _, id => getCredentialDefinition services id
  | .revocationRegistryDefinition _, id => getRevocationRegistryDefinition services id

instance : (definition : Definition) → LawfulContent definition.operation.Object
  | .schema _ => inferInstanceAs (LawfulContent Schema)
  | .credentialDefinition _ => inferInstanceAs (LawfulContent CredentialDefinition)
  | .revocationRegistryDefinition _ => inferInstanceAs (LawfulContent RevocationRegistryDefinition)

variable {services : Services}

theorem read_eq_get (definition : Definition) (id : String) :
    definition.read services id = get services id := by
  cases definition <;> rfl

/-- Whatever a registration looks up before, it publishes the object. -/
theorem value_of_lookup {definition : Definition} {exchanges : List Exchange}
    {publication : Publication definition.operation.Object}
    (found : (definition.operation.lookup services).Traces exchanges (.ok publication)) :
    publication.value = definition.value := by
  cases definition with
  | schema object =>
      obtain ⟨-, ⟨⟩⟩ := found
      rfl
  | credentialDefinition object =>
      obtain ⟨_, _, schema, -, -, found⟩ := Program.bind_traces_ok.mp found
      obtain ⟨-, ⟨⟩⟩ := found
      rfl
  | revocationRegistryDefinition object =>
      obtain ⟨_, _, resolved, -, -, found⟩ := Program.bind_traces_ok.mp found
      obtain ⟨name, -, found⟩ := Program.ofExcept_bind_traces_ok.mp found
      obtain ⟨-, ⟨⟩⟩ := found
      rfl

end Definition

/-- A schema or definition whose issuer has no slash is registered, with a resource ID that is not
empty and has no slash. When its identifier is then read, and the resolver presents what was posted,
the object comes back, under this identifier and with the metadata presented. -/
theorem registered_then_read (services : Services) (definition : Definition) {σ τ : Type}
    (surroundings : Surroundings σ) (resolving : Surroundings τ) (state : σ)
    {registration : RegistrationResult definition.operation.Object}
    (succeeded : ((definition.operation.program services).run surroundings state).result =
      .ok registration)
    (issuerWhole : '/' ∉ (ResourceContent.issuerId definition.value).toList)
    (named : registration.metadata.resourceId ≠ "")
    (resourceWhole : '/' ∉ registration.metadata.resourceId.toList) :
    ∃ data, ((((definition.operation.program services).run surroundings
        state).exchanges.findSome? Exchange.document?).bind (·.member? "data")) = some data ∧
      ∀ (start after : τ) (request : HttpRequest) (reply : HttpReply) (body : Value)
        (metadata : Metadata),
        Resolver.request? services.resolver Resolver.dereferencingForm registration.state.id =
          some request →
        resolving.answer (.fetch request) start = (.replied reply, after) →
        200 ≤ reply.status ∧ reply.status < 300 → Value.ofBytes? reply.body = some body →
        Presents data body metadata →
        (definition.read services registration.state.id).run resolving start =
          ⟨[⟨.fetch request, .replied reply⟩],
            .ok ⟨registration.state.id, definition.value, metadata⟩, after⟩ := by
  have trace := Program.run_traces surroundings (definition.operation.program services) state
  rw [succeeded] at trace
  generalize ((definition.operation.program services).run surroundings state).exchanges = exchanges
    at trace ⊢
  obtain ⟨before, after, publication, rfl, found, quiet, published⟩ :=
    RegistryOperation.program_traces_ok trace
  have readable := publish_readable published
  obtain ⟨network, place, rounds, completed, resource, -, rfl, dialogue, -, rfl⟩ :=
    publish_traces_ok published
  have same := Definition.value_of_lookup found
  rw [← same] at issuerWhole ⊢
  have read := (readable.exact named issuerWhole resourceWhole).2.2
  refine ⟨(ResourceContent.content publication.value).json, ?_, ?_⟩
  · rw [List.findSome?_append, Exchange.findSome?_document?_of_isQuiet quiet,
      dialogue.findSome?_document?]
    rfl
  · intro start after request reply body metadata asked answered success brought presents
    rw [Definition.read_eq_get, read]
    exact resolve_run asked answered success brought presents

/-- The metadata of a resource with the name `n`. -/
def nameOnly : Metadata :=
  ⟨[("resourceName", .str "n")], by simp [Json.MembersCanonical, Json.IsCanonical]⟩

def streamed : Value :=
  .object [("contentStream", ResourceContent.content (schemaOf "did:cheqd:testnet:a")),
    ("contentMetadata", nameOnly.value)]

def streamedReply : HttpReply := ⟨200, Bytes.ofText streamed.json.render⟩

def streaming : Script where
  reachable := true
  deliveries := [.replied streamedReply]
  createKey := []
  assignKid := []
  sign := []
  now := 0

/-- A schema that has been registered is read from the stream in which its content is served. -/
theorem registered_then_read_schema :
    ((registerSchema .standard (schemaOf "did:cheqd:testnet:a")).run Script.surroundings
      (finishing "r")).result =
        .ok (registered "n" (schemaOf "did:cheqd:testnet:a") ⟨none, "r", none⟩) ∧
    ∃ request, (getSchema .standard "did:cheqd:testnet:a/resources/r").run Script.surroundings
      streaming =
        ⟨[⟨.fetch request, .replied streamedReply⟩],
          .ok ⟨"did:cheqd:testnet:a/resources/r", schemaOf "did:cheqd:testnet:a", nameOnly⟩,
          { streaming with deliveries := [] }⟩ := by
  have succeeded : ((registerSchema .standard (schemaOf "did:cheqd:testnet:a")).run
      Script.surroundings (finishing "r")).result =
        .ok (registered "n" (schemaOf "did:cheqd:testnet:a") ⟨none, "r", none⟩) := by
    decide +kernel
  have posted : (((registerSchema .standard (schemaOf "did:cheqd:testnet:a")).run
      Script.surroundings (finishing "r")).exchanges.findSome? Exchange.document?).bind
        (·.member? "data") =
          some (ResourceContent.content (schemaOf "did:cheqd:testnet:a")).json := by
    decide +kernel
  have asks : (Resolver.request? Services.standard.resolver Resolver.dereferencingForm
      "did:cheqd:testnet:a/resources/r").isSome = true := by
    decide +kernel
  have reads : Value.ofBytes? streamedReply.body = some streamed := by
    decide +kernel
  obtain ⟨data, sent, comes⟩ := registered_then_read .standard
    (.schema (schemaOf "did:cheqd:testnet:a")) Script.surroundings Script.surroundings
    (finishing "r") succeeded (by decide) (by decide) (by decide)
  cases sent.symm.trans posted
  have identified : (registered "n" (schemaOf "did:cheqd:testnet:a") ⟨none, "r", none⟩).state.id =
      "did:cheqd:testnet:a/resources/r" := by
    decide +kernel
  rw [identified] at comes
  obtain ⟨request, asked⟩ := Option.isSome_iff_exists.mp asks
  exact ⟨succeeded, request, comes streaming { streaming with deliveries := [] } request
    streamedReply streamed nameOnly asked rfl (by decide) reads (.described rfl rfl rfl)⟩

end DidRegistry.AnonCreds
