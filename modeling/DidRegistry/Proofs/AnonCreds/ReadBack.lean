import DidRegistry.Interaction.Script
import DidRegistry.Json.Writer
import DidRegistry.Proofs.AnonCreds.Posting
import DidRegistry.Proofs.Did.Identifier
import DidRegistry.Proofs.Url.Endpoint

/-!
Reading back what has been registered. The identifier of a new object is put together from the
issuer, who may be given as a DID URL, and from the resource ID that the registrar reports; it is
taken apart again at its first and its last slash.

Main statement: a registration that succeeds is posted under one DID, that of the issuer, and its
identifier leads back to the issuer and the resource ID as far as they have no slashes
(`RegistryOperation.readable`). If they have, it does not (`slashed_issuer_not_read_back`).
-/

namespace DidRegistry

/-- A segment that follows the last slash of a text is not empty and has no slash. -/
theorem Outcome.lastSegment?_eq_some {text segment : String}
    (found : lastSegment? text = some segment) :
    segment ≠ "" ∧ '/' ∉ segment.toList := by
  unfold lastSegment? at found
  simp only at found
  split at found
  · cases found
  · rename_i present
    cases found
    have nonempty : (text.toList.reverse.takeWhile (· != '/')).reverse ≠ [] := by
      intro empty
      exact present (by simp [empty])
    refine ⟨?_, ?_⟩
    · simpa using nonempty
    · simpa using Identifier.not_mem_takeWhile text.toList.reverse

namespace AnonCreds

variable {α : Type} [ResourceContent α] {services : Services}

/-- What can be said of a registration, and of the exchanges that it took. Its identifier is always
that of the issuer and the resource ID, but it is taken apart at slashes, so only parts without
slashes are sure to come back. -/
structure Readable (services : Services) (exchanges : List Exchange)
    (registration : RegistrationResult α) : Prop where
  /-- Something is posted, and all of it under the issuer's DID. -/
  posted : (∃ exchange ∈ exchanges, exchange.isSubmission = true) ∧
    ∀ exchange ∈ exchanges, exchange.isSubmission = true →
      exchange.did? = some (ResourceContent.issuerId registration.state.value)
  /-- The identifier is put together from the issuer and the resource ID. -/
  composed : registration.state.id = Identifier.compose
    (ResourceContent.issuerId registration.state.value) registration.metadata.resourceId
  /-- It is taken apart at its first and its last slash. -/
  parts : Identifier.resourcePart registration.metadata.resourceId ≠ "" →
    Identifier.issuerPart (ResourceContent.issuerId registration.state.value) ≠ "" ∧
    Identifier.split registration.state.id =
      .ok (Identifier.issuerPart (ResourceContent.issuerId registration.state.value),
        Identifier.resourcePart registration.metadata.resourceId)
  /-- If neither the issuer nor the resource ID has a slash, they come back as they are, and the
  object is looked for where it is. -/
  exact : registration.metadata.resourceId ≠ "" →
    '/' ∉ (ResourceContent.issuerId registration.state.value).toList →
    '/' ∉ registration.metadata.resourceId.toList →
    ResourceContent.issuerId registration.state.value ≠ "" ∧
    Identifier.split registration.state.id =
      .ok (ResourceContent.issuerId registration.state.value, registration.metadata.resourceId) ∧
    (get services registration.state.id : Program (Resolved α)) =
      resolve services registration.state.id (ResourceContent.issuerId registration.state.value)
  /-- The resource ID is that of the outcome that the registrar reports. One that is taken from a
  DID URL is not empty and has no slash. -/
  reported : ∃ (endpoint : Endpoint) (request : HttpRequest) (delivery : Delivery)
      (jobId : Option String) (outcome : Outcome),
    (⟨.fetch request, delivery⟩ : Exchange) ∈ exchanges ∧
    endpoint.Reports delivery ⟨jobId, .finished outcome⟩ ∧
    outcome.publishedId? = some registration.metadata.resourceId ∧
    (outcome.resource.bind (·.id) = none → outcome.resourceId = none →
      registration.metadata.resourceId ≠ "" ∧ '/' ∉ registration.metadata.resourceId.toList)

/-- An identifier without slashes in its parts leads to the object. -/
theorem get_compose {issuer resource : String} (named : issuer ≠ "") (ends : resource ≠ "")
    (issuerWhole : '/' ∉ issuer.toList) (resourceWhole : '/' ∉ resource.toList) :
    (get services (Identifier.compose issuer resource) : Program (Resolved α)) =
      resolve services (Identifier.compose issuer resource) issuer := by
  unfold get
  simp only [Identifier.split_compose_of_not_mem named ends issuerWhole resourceWhole,
    Program.bind_eq, Program.monadLift_eq, Program.ofExcept_ok_bind]

/-- The ID of a published resource is the outcome's. -/
theorem published_eq_ok {completed : CompletedJob} {resource : PublishedResource}
    (published : Resource.published completed = .ok resource) :
    completed.outcome.publishedId? = some resource.resourceId := by
  unfold Resource.published at published
  split at published
  · rename_i id found
    cases published
    exact found
  · cases published

/-- A resource ID that the outcome gives neither for the resource nor beside it is the last segment
of its DID URL. -/
theorem publishedId?_of_didUrl {outcome : Outcome} {id : String}
    (found : outcome.publishedId? = some id) (undescribed : outcome.resource.bind (·.id) = none)
    (unreported : outcome.resourceId = none) : id ≠ "" ∧ '/' ∉ id.toList := by
  rw [Outcome.publishedId?, undescribed, unreported, Option.none_or, Option.none_or] at found
  obtain ⟨didUrl, -, segment⟩ := Option.bind_eq_some_iff.mp found
  exact Outcome.lastSegment?_eq_some segment

/-- What is published can be read back. -/
theorem publish_readable {mode : Resource.Mode} {name version : String} {value : α}
    {exchanges : List Exchange} {registration : RegistrationResult α}
    (trace : (publish services mode name version value).Traces exchanges (.ok registration)) :
    Readable services exchanges registration := by
  have dids : ∀ exchange ∈ exchanges, exchange.isSubmission = true →
      exchange.did? = some (ResourceContent.issuerId value) :=
    fun _ member submits => publish_dids trace member submits
  obtain ⟨network, place, rounds, completed, resource, named, rfl, dialogue, published, rfl⟩ :=
    publish_traces_ok trace
  have issuerNamed := Identifier.issuerPart_ne_empty named
  have nonempty : ResourceContent.issuerId value ≠ "" := by
    intro empty
    exact issuerNamed (by rw [empty]; rfl)
  obtain ⟨earlier, request, delivery, same, reports⟩ := dialogue.reported
  have last : ⟨request, delivery, []⟩ ∈ rounds := by
    rw [same]
    exact List.mem_append_right _ (List.mem_singleton_self _)
  have submitted : (⟨.fetch request, delivery⟩ : Exchange) ∈ rounds.flatMap Round.exchanges :=
    List.mem_flatMap.mpr ⟨_, last, List.mem_cons_self ..⟩
  have identified := published_eq_ok published
  refine ⟨⟨⟨_, submitted, (dialogue.isWhole _ last).submits⟩, dids⟩, rfl, ?_, ?_, ?_⟩
  · intro ends
    exact ⟨issuerNamed, Identifier.split_compose issuerNamed ends⟩
  · intro ends issuerWhole resourceWhole
    exact ⟨nonempty,
      Identifier.split_compose_of_not_mem nonempty ends issuerWhole resourceWhole,
      get_compose nonempty ends issuerWhole resourceWhole⟩
  · exact ⟨_, _, _, _, completed.outcome, submitted, reports, identified,
      publishedId?_of_didUrl identified⟩

/-- Quiet exchanges in front change nothing. -/
theorem Readable.append {before exchanges : List Exchange} {registration : RegistrationResult α}
    (readable : Readable services exchanges registration)
    (quiet : ∀ exchange ∈ before, exchange.call.isQuiet = true) :
    Readable services (before ++ exchanges) registration := by
  obtain ⟨⟨⟨first, member, submits⟩, dids⟩, composed, parts, exact', reported⟩ := readable
  refine ⟨⟨⟨first, List.mem_append_right _ member, submits⟩, ?_⟩, composed, parts, exact', ?_⟩
  · intro exchange among submits
    rcases List.mem_append.mp among with early | late
    · rw [Exchange.isSubmission_of_isQuiet (quiet exchange early)] at submits
      cases submits
    · exact dids exchange late submits
  · obtain ⟨endpoint, request, delivery, jobId, outcome, among, rest⟩ := reported
    exact ⟨endpoint, request, delivery, jobId, outcome, List.mem_append_right _ among, rest⟩

/-- Whatever is passed in and whatever the registrar reports, a registration that succeeds can be
read back as far as its parts have no slashes. Everything is posted under the DID of the issuer, and
the identifier that is returned names this DID and the resource ID of the registrar. It is taken
apart at its first and at its last slash: without slashes of their own, DID and resource ID come
back as they are, and a lookup then asks for the object that was registered. -/
theorem RegistryOperation.readable (services : Services) (operation : RegistryOperation)
    {σ : Type} (surroundings : Surroundings σ) (state : σ)
    {registration : RegistrationResult operation.Object}
    (succeeded : ((operation.program services).run surroundings state).result =
      .ok registration) :
    Readable services ((operation.program services).run surroundings state).exchanges
      registration := by
  have trace := Program.run_traces surroundings (operation.program services) state
  rw [succeeded] at trace
  generalize ((operation.program services).run surroundings state).exchanges = exchanges
    at trace ⊢
  obtain ⟨before, after, publication, rfl, -, quiet, published⟩ :=
    RegistryOperation.program_traces_ok trace
  exact (publish_readable published).append quiet

/-- A script in which the registrar finishes one job and reports a resource ID. -/
def finishing (resourceId : String) : Script where
  reachable := true
  deliveries := [.replied ⟨200, Bytes.ofText
    (Json.obj [("didUrlState", .obj [("state", .str "finished"),
      ("resourceId", .str resourceId)])]).render⟩]
  createKey := []
  assignKid := []
  sign := []
  now := 0

def schemaOf (issuer : String) : Schema := ⟨issuer, ["a"], "n", "1"⟩

/-- The schema of a DID is registered and can be read back. -/
theorem readable_schema :
    ((registerSchema .standard (schemaOf "did:cheqd:testnet:a")).run Script.surroundings
      (finishing "r")).result =
        .ok (registered "n" (schemaOf "did:cheqd:testnet:a") ⟨none, "r", none⟩) ∧
    Readable .standard
      ((registerSchema .standard (schemaOf "did:cheqd:testnet:a")).run Script.surroundings
        (finishing "r")).exchanges
      (registered "n" (schemaOf "did:cheqd:testnet:a") ⟨none, "r", none⟩) := by
  have succeeded : ((registerSchema .standard (schemaOf "did:cheqd:testnet:a")).run
      Script.surroundings (finishing "r")).result =
        .ok (registered "n" (schemaOf "did:cheqd:testnet:a") ⟨none, "r", none⟩) := by
    decide +kernel
  exact ⟨succeeded, RegistryOperation.readable .standard
    (.registerSchema (schemaOf "did:cheqd:testnet:a")) Script.surroundings (finishing "r")
    succeeded⟩

/-- A DID URL is taken as an issuer, and then the identifier does not lead back to it. -/
theorem slashed_issuer_not_read_back :
    ¬ ∀ (services : Services) (operation : RegistryOperation) {σ : Type}
      (surroundings : Surroundings σ) (state : σ)
      (registration : RegistrationResult operation.Object),
      ((operation.program services).run surroundings state).result = .ok registration →
      Identifier.split registration.state.id =
        .ok (ResourceContent.issuerId registration.state.value,
          registration.metadata.resourceId) := by
  intro always
  have succeeded : ((registerSchema .standard (schemaOf "did:cheqd:testnet:a/b")).run
      Script.surroundings (finishing "r")).result =
        .ok (registered "n" (schemaOf "did:cheqd:testnet:a/b") ⟨none, "r", none⟩) := by
    decide +kernel
  have parts := always .standard (.registerSchema (schemaOf "did:cheqd:testnet:a/b"))
    Script.surroundings (finishing "r") _ succeeded
  have others : Identifier.split "did:cheqd:testnet:a/b/resources/r" =
      .ok ("did:cheqd:testnet:a", "r") := by
    decide +kernel
  have same := others.symm.trans parts
  simp only [Except.ok.injEq, Prod.mk.injEq] at same
  exact absurd same.1 (by decide +kernel)

end AnonCreds
end DidRegistry
