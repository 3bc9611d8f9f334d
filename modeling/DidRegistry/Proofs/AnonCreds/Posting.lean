import DidRegistry.AnonCreds.StatusList
import DidRegistry.Proofs.Did.Resolution
import DidRegistry.Proofs.Job.Documents
import DidRegistry.Proofs.Resource.Ledger
import DidRegistry.Proofs.Url.Endpoint

/-!
What the operations of a registry post. Each of them looks things up, sending no document, and then
publishes one object (`RegistryOperation.program_eq`). Where a run posts is read off the first
document that it sends (`posted?`); everything it sends names the same DID (`publish_dids`).
-/

namespace DidRegistry

/-! ### Where a run posts -/

/-- The place that the resource of a document is to be kept in. -/
def Slot.ofDocument? (document : Json) : Option Slot := do
  let did ← document.member? "did" >>= Json.text?
  let name ← document.member? "name" >>= Json.text?
  let resourceType ← document.member? "type" >>= Json.text?
  pure ⟨did, name, resourceType⟩

/-- Where a run posts, as the first document that it sends says. -/
def posted? (exchanges : List Exchange) : Option Slot :=
  (exchanges.findSome? Exchange.document?).bind Slot.ofDocument?

/-- The DID that a document is sent under. -/
def Exchange.did? (exchange : Exchange) : Option String :=
  (exchange.document?.bind (·.member? "did")).bind Json.text?

def Program.IsQuiet {α : Type} (program : Program α) : Prop :=
  program.Within (fun call => call.isQuiet = true) fun _ => True

theorem Exchange.findSome?_document?_of_isQuiet {exchanges : List Exchange}
    (quiet : ∀ exchange ∈ exchanges, exchange.call.isQuiet = true) :
    exchanges.findSome? Exchange.document? = none := by
  rw [List.findSome?_eq_none_iff]
  intro exchange member
  exact Option.not_isSome_iff_eq_none.mp
    (Bool.eq_false_iff.mp (isSubmission_of_isQuiet (quiet exchange member)))

theorem posted?_of_isQuiet {exchanges : List Exchange}
    (quiet : ∀ exchange ∈ exchanges, exchange.call.isQuiet = true) : posted? exchanges = none := by
  rw [posted?, Exchange.findSome?_document?_of_isQuiet quiet]
  rfl

theorem posted?_append_of_isQuiet {before : List Exchange} (after : List Exchange)
    (quiet : ∀ exchange ∈ before, exchange.call.isQuiet = true) :
    posted? (before ++ after) = posted? after := by
  rw [posted?, List.findSome?_append, Exchange.findSome?_document?_of_isQuiet quiet]
  rfl

/-- A quiet lookup and what follows it post where the latter does. -/
theorem Program.IsQuiet.bind_posted? {α β : Type} {lookup : Program α} {next : α → Program β}
    (quiet : lookup.IsQuiet) {exchanges : List Exchange} {result : Except Error β}
    (trace : (lookup.bind next).Traces exchanges result) {slot : Slot}
    (posts : posted? exchanges = some slot) :
    ∃ before after value, exchanges = before ++ after ∧ lookup.Traces before (.ok value) ∧
      (next value).Traces after result ∧ posted? after = some slot := by
  rcases Program.bind_traces.mp trace with
    ⟨error, failed, -⟩ | ⟨before, after, value, rfl, found, followed⟩
  · rw [posted?_of_isQuiet (Program.Within.of_traces quiet failed).1] at posts
    cases posts
  · rw [posted?_append_of_isQuiet after (Program.Within.of_traces quiet found).1] at posts
    exact ⟨before, after, value, rfl, found, followed, posts⟩

namespace AnonCreds

variable {α : Type} [ResourceContent α] {services : Services}

/-! ### Publications -/

/-- What a publication of an object can come to. -/
theorem publish_traces {mode : Resource.Mode} {name version : String} {value : α}
    {exchanges : List Exchange} {result : Except Error (RegistrationResult α)}
    (trace : (publish services mode name version value).Traces exchanges result) :
    (exchanges = [] ∧ ∃ error, result = .error error) ∨
    ∃ network place rounds ending,
      Identifier.network (ResourceContent.issuerId value) = .ok network ∧
      exchanges = rounds.flatMap Round.exchanges ∧
      (Resource.publication mode (ResourceContent.issuerId value) network).Dialogue place
        services.settings.maxRounds services.settings.maxRounds
        ((payload name version value).envelope (ResourceContent.issuerId value) network)
        rounds ending ∧
      result = (ending.bind Resource.published).map (registered name value) := by
  have viewed : ((Resource.publish services mode (ResourceContent.issuerId value)
      (payload name version value)).bind fun published =>
        .ofExcept (.ok (registered name value published))).Traces exchanges result := trace
  obtain ⟨published, made, rfl⟩ := Program.bind_ofExcept_traces.mp viewed
  rcases Resource.publish_traces made with
    ⟨silent, error, rfl⟩ | ⟨network, place, rounds, ending, named, -, rfl, dialogue, rfl⟩
  · exact Or.inl ⟨silent, error, rfl⟩
  · refine Or.inr ⟨network, place, rounds, ending, named, rfl, dialogue, ?_⟩
    cases ending.bind Resource.published <;> rfl

/-- A publication that succeeds is a dialogue that ends with a published resource. -/
theorem publish_traces_ok {mode : Resource.Mode} {name version : String} {value : α}
    {exchanges : List Exchange} {registration : RegistrationResult α}
    (trace : (publish services mode name version value).Traces exchanges (.ok registration)) :
    ∃ network place rounds completed resource,
      Identifier.network (ResourceContent.issuerId value) = .ok network ∧
      exchanges = rounds.flatMap Round.exchanges ∧
      (Resource.publication mode (ResourceContent.issuerId value) network).Dialogue place
        services.settings.maxRounds services.settings.maxRounds
        ((payload name version value).envelope (ResourceContent.issuerId value) network)
        rounds (.ok completed) ∧
      Resource.published completed = .ok resource ∧
      registration = registered name value resource := by
  rcases publish_traces trace with
    ⟨-, _, ⟨⟩⟩ | ⟨network, place, rounds, ending, named, rfl, dialogue, ended⟩
  cases ending with
  | error error => cases ended
  | ok completed =>
      cases published : Resource.published completed with
      | error error =>
          simp only [Except.bind, published] at ended
          cases ended
      | ok resource =>
          simp only [Except.bind, published] at ended
          cases ended
          exact ⟨network, place, rounds, completed, resource, named, rfl, dialogue, published, rfl⟩

/-- A publication posts its object under the issuer's DID. -/
theorem posted?_of_publish {mode : Resource.Mode} {name version : String} {value : α}
    {exchanges : List Exchange} {result : Except Error (RegistrationResult α)}
    (trace : (publish services mode name version value).Traces exchanges result) {slot : Slot}
    (posts : posted? exchanges = some slot) :
    slot = ⟨ResourceContent.issuerId value, name, (ResourceContent.resourceType α).name⟩ := by
  rcases publish_traces trace with
    ⟨rfl, -⟩ | ⟨network, place, rounds, ending, -, rfl, dialogue, -⟩
  · cases posts
  · rw [posted?, dialogue.findSome?_document?] at posts
    cases posts
    rfl

/-- An object whose issuer names a network is posted, where there is an endpoint for it. -/
theorem posted?_publish {settings : Settings} {mode : Resource.Mode}
    {name version network : String} {value : α} {exchanges : List Exchange}
    {result : Except Error (RegistrationResult α)}
    (usable : Services.ofSettings settings = .ok services)
    (web : services.registrar.isWeb = true)
    (named : Identifier.network (ResourceContent.issuerId value) = .ok network)
    (trace : (publish services mode name version value).Traces exchanges result) :
    posted? exchanges =
      some ⟨ResourceContent.issuerId value, name, (ResourceContent.resourceType α).name⟩ := by
  obtain ⟨url, found, urlWeb⟩ := Registrar.exists_endpointUrl usable web mode.endpoint.path
  have submits : exchanges ≠ [] := by
    rw [publish, Resource.publish_eq named, Job.perform] at trace
    simp only [Program.bind_eq, Program.bind_assoc] at trace
    have endpoint : (Resource.publication mode (ResourceContent.issuerId value) network).endpoint =
        mode.endpoint := rfl
    rw [endpoint, Registrar.submit_eq _ found urlWeb] at trace
    obtain ⟨delivery, rest, rfl, -⟩ := trace
    exact List.cons_ne_nil _ _
  rcases publish_traces trace with
    ⟨none, -⟩ | ⟨_, place, rounds, ending, -, rfl, dialogue, -⟩
  · exact absurd none submits
  · rw [posted?, dialogue.findSome?_document?]
    rfl

/-- Everything that a publication sends is sent under the issuer's DID. -/
theorem publish_dids {mode : Resource.Mode} {name version : String} {value : α}
    {exchanges : List Exchange} {result : Except Error (RegistrationResult α)}
    (trace : (publish services mode name version value).Traces exchanges result)
    {exchange : Exchange} (member : exchange ∈ exchanges)
    (submits : exchange.isSubmission = true) :
    exchange.did? = some (ResourceContent.issuerId value) := by
  rcases publish_traces trace with
    ⟨rfl, -⟩ | ⟨network, place, rounds, ending, -, rfl, dialogue, -⟩
  · cases member
  · obtain ⟨round, among, rfl⟩ := Round.exists_of_mem_flatMap dialogue.isWhole member submits
    have named : ∀ round ∈ rounds, ∃ document, round.request.body = some document ∧
        (document.member? "did").bind Json.text? = some (ResourceContent.issuerId value) :=
      dialogue.documents rfl fun _ _ => rfl
    obtain ⟨document, body, did⟩ := named round among
    simp only [Exchange.did?, Exchange.document?, body, Option.bind_some]
    exact did

/-! ### Lookups -/

section Lookups

variable {calls : Call → Prop}

theorem resolve_within
    (asks : ∀ id url, Resolver.identifierUrl services.resolver id = .ok url →
      calls (.fetch (Resolver.inquiry url Resolver.dereferencingForm)))
    (didUrl issuer : String) :
    (resolve services didUrl issuer : Program (Resolved α)).Within calls fun _ => True := by
  unfold resolve Resolver.dereference
  simp only [Program.bind_eq]
  refine .bind (.bind (Resolver.lookup_within (asks didUrl) (fun _ => trivial) trivial
    fun _ _ => trivial) fun body => ?_) fun resource => ?_
  · exact .done _
  · exact .ofExcept fun _ _ => trivial

theorem get_within
    (asks : ∀ id url, Resolver.identifierUrl services.resolver id = .ok url →
      calls (.fetch (Resolver.inquiry url Resolver.dereferencingForm)))
    (id : String) :
    (get services id : Program (Resolved α)).Within calls fun _ => True := by
  unfold get
  exact .ofExcept_bind (fun _ _ => trivial) fun parts _ => resolve_within asks id parts.1

theorem get_isQuiet (id : String) : (get services id : Program (Resolved α)).IsQuiet :=
  get_within (fun _ _ _ => rfl) id

/-- A point in time: the one given, or now. -/
def timeOrNow : Option Int64 → Program Int64
  | some timestamp => .done timestamp
  | none => .now

theorem timeOrNow_within (reads : calls .clock) (timestamp : Option Int64) :
    (timeOrNow timestamp).Within calls fun _ => True := by
  cases timestamp with
  | some timestamp => exact .done timestamp
  | none => exact .ask reads fun now => .done now

theorem timeOrNow_isQuiet (timestamp : Option Int64) : (timeOrNow timestamp).IsQuiet := by
  refine timeOrNow_within ?_ timestamp
  rfl

/-- The lookup of a list as a sequence. -/
theorem listInForce_eq (registryId : String) (timestamp : Option Int64) :
    listInForce services registryId timestamp =
      (getRevocationRegistryDefinition services registryId).bind fun definition =>
        (Program.ofExcept (resourceName definition.metadata definition.id)).bind fun name =>
          (Program.ofExcept (Identifier.split registryId)).bind fun parts =>
            (timeOrNow timestamp).bind fun epoch =>
              (Program.ofExcept (statusListUrl parts.1 name epoch)).bind fun didUrl =>
                (resolve services didUrl parts.1).bind fun resolved =>
                  .done (name, placed registryId epoch resolved) := by
  cases timestamp <;> rfl

theorem listInForce_within
    (asks : ∀ id url, Resolver.identifierUrl services.resolver id = .ok url →
      calls (.fetch (Resolver.inquiry url Resolver.dereferencingForm)))
    (reads : calls .clock) (registryId : String) (timestamp : Option Int64) :
    (listInForce services registryId timestamp).Within calls fun _ => True := by
  rw [listInForce_eq]
  refine .bind (get_within asks registryId) fun definition => ?_
  refine .ofExcept_bind (fun _ _ => trivial) fun name _ => ?_
  refine .ofExcept_bind (fun _ _ => trivial) fun parts _ => ?_
  refine .bind (timeOrNow_within reads timestamp) fun epoch => ?_
  refine .ofExcept_bind (fun _ _ => trivial) fun didUrl _ => ?_
  exact .bind (resolve_within asks didUrl parts.1) fun resolved => .done _

theorem getRevocationList_within
    (asks : ∀ id url, Resolver.identifierUrl services.resolver id = .ok url →
      calls (.fetch (Resolver.inquiry url Resolver.dereferencingForm)))
    (reads : calls .clock) (registryId : String) (timestamp : Option Int64) :
    (getRevocationList services registryId timestamp).Within calls fun _ => True :=
  .bind (listInForce_within asks reads registryId timestamp) fun _ => .done _

theorem listInForce_isQuiet (registryId : String) (timestamp : Option Int64) :
    (listInForce services registryId timestamp).IsQuiet := by
  refine listInForce_within (fun _ _ _ => rfl) ?_ registryId timestamp
  rfl

end Lookups

/-- The registration of a list as a sequence. -/
theorem registerRevocationList_eq (list : RevocationStatusList) :
    registerRevocationList services list =
      (getRevocationRegistryDefinition services list.revRegDefId).bind fun definition =>
        (Program.ofExcept (resourceName definition.metadata definition.id)).bind fun name =>
          (timeOrNow list.timestamp).bind fun timestamp =>
            publish services .create name (listVersion timestamp)
              { list with timestamp := some timestamp } := by
  unfold registerRevocationList
  cases list.timestamp <;> rfl

/-! ### Operations -/

/-- An object to be published. -/
structure Publication (α : Type) where
  mode : Resource.Mode
  name : String
  version : String
  value : α

def Publication.program (services : Services) (publication : Publication α) :
    Program (RegistrationResult α) :=
  publish services publication.mode publication.name publication.version publication.value

/-- The operations that publish objects, with their arguments. -/
inductive RegistryOperation where
  | registerSchema (schema : Schema)
  | registerCredentialDefinition (definition : CredentialDefinition)
  | registerRevocationRegistryDefinition (definition : RevocationRegistryDefinition)
  | registerRevocationList (list : RevocationStatusList)
  | updateRevocationList (registryId : String) (update : RevListUpdate)

namespace RegistryOperation

def Object : RegistryOperation → Type
  | .registerSchema _ => Schema
  | .registerCredentialDefinition _ => CredentialDefinition
  | .registerRevocationRegistryDefinition _ => RevocationRegistryDefinition
  | .registerRevocationList _ | .updateRevocationList _ _ => RevocationStatusList

instance : (operation : RegistryOperation) → ResourceContent operation.Object
  | .registerSchema _ => inferInstanceAs (ResourceContent Schema)
  | .registerCredentialDefinition _ => inferInstanceAs (ResourceContent CredentialDefinition)
  | .registerRevocationRegistryDefinition _ =>
      inferInstanceAs (ResourceContent RevocationRegistryDefinition)
  | .registerRevocationList _ | .updateRevocationList _ _ =>
      inferInstanceAs (ResourceContent RevocationStatusList)

def program (services : Services) :
    (operation : RegistryOperation) → Program (RegistrationResult operation.Object)
  | .registerSchema schema => AnonCreds.registerSchema services schema
  | .registerCredentialDefinition definition =>
      AnonCreds.registerCredentialDefinition services definition
  | .registerRevocationRegistryDefinition definition =>
      AnonCreds.registerRevocationRegistryDefinition services definition
  | .registerRevocationList list => AnonCreds.registerRevocationList services list
  | .updateRevocationList registryId update =>
      AnonCreds.updateRevocationList services registryId update

/-- What an operation looks up, and what it then has to publish. -/
def lookup (services : Services) :
    (operation : RegistryOperation) → Program (Publication operation.Object)
  | .registerSchema schema => .done ⟨.create, schema.name, schema.version, schema⟩
  | .registerCredentialDefinition definition =>
      (getSchema services definition.schemaId).bind fun schema =>
        .done ⟨.create, taggedName schema.value.name definition.tag, definition.tag, definition⟩
  | .registerRevocationRegistryDefinition definition =>
      (getCredentialDefinition services definition.credDefId).bind fun resolved =>
        (Program.ofExcept (resourceName resolved.metadata resolved.id)).bind fun name =>
          .done ⟨.create, taggedName name definition.tag, definition.tag, definition⟩
  | .registerRevocationList list =>
      (getRevocationRegistryDefinition services list.revRegDefId).bind fun definition =>
        (Program.ofExcept (resourceName definition.metadata definition.id)).bind fun name =>
          (timeOrNow list.timestamp).bind fun timestamp =>
            .done ⟨.create, name, listVersion timestamp, { list with timestamp := some timestamp }⟩
  | .updateRevocationList registryId update =>
      (listInForce services registryId none).bind fun found =>
        (Program.ofExcept (found.2.value.revoke update.revoked)).bind fun revoked =>
          Program.now.bind fun now =>
            (Program.ofExcept (revoked.nextTimestamp now)).bind fun timestamp =>
              .done ⟨.update, found.1, listVersion timestamp, { revoked with
                currentAccumulator := update.currentAccumulator
                timestamp := some timestamp }⟩

theorem lookup_within {calls : Call → Prop}
    (asks : ∀ id url, Resolver.identifierUrl services.resolver id = .ok url →
      calls (.fetch (Resolver.inquiry url Resolver.dereferencingForm)))
    (reads : calls .clock) (operation : RegistryOperation) :
    (operation.lookup services).Within calls fun _ => True := by
  cases operation with
  | registerSchema schema => exact .done _
  | registerCredentialDefinition definition => exact .bind (get_within asks _) fun _ => .done _
  | registerRevocationRegistryDefinition definition =>
      exact .bind (get_within asks _) fun _ => .ofExcept_bind (fun _ _ => trivial) fun _ _ =>
        .done _
  | registerRevocationList list =>
      exact .bind (get_within asks _) fun _ => .ofExcept_bind (fun _ _ => trivial) fun _ _ =>
        .bind (timeOrNow_within reads _) fun _ => .done _
  | updateRevocationList registryId update =>
      exact .bind (listInForce_within asks reads _ _) fun _ =>
        .ofExcept_bind (fun _ _ => trivial) fun _ _ =>
          .bind (timeOrNow_within reads none) fun _ => .ofExcept_bind (fun _ _ => trivial) fun _ _ =>
            .done _

/-- An operation is its lookup, then a publication. -/
theorem program_eq_lookup (services : Services) (operation : RegistryOperation) :
    operation.program services = (operation.lookup services).bind (Publication.program services) := by
  cases operation with
  | registerSchema schema => rfl
  | registerCredentialDefinition definition =>
      simp only [lookup, Program.bind_assoc]
      rfl
  | registerRevocationRegistryDefinition definition =>
      simp only [lookup, Program.bind_assoc]
      rfl
  | registerRevocationList list =>
      simp only [lookup, Program.bind_assoc, program, registerRevocationList_eq]
      rfl
  | updateRevocationList registryId update =>
      simp only [lookup, Program.bind_assoc]
      rfl

theorem lookup_isQuiet (services : Services) (operation : RegistryOperation) :
    (operation.lookup services).IsQuiet := by
  refine lookup_within (fun _ _ _ => rfl) ?_ operation
  rfl

/-- An operation is a quiet lookup, then a publication. -/
theorem program_eq (services : Services) (operation : RegistryOperation) :
    ∃ lookup : Program (Publication operation.Object), lookup.IsQuiet ∧
      operation.program services = lookup.bind (Publication.program services) :=
  ⟨operation.lookup services, lookup_isQuiet services operation,
    program_eq_lookup services operation⟩

/-- An operation that succeeds has looked up what it publishes, quietly, and has published it. -/
theorem program_traces_ok {operation : RegistryOperation} {exchanges : List Exchange}
    {registration : RegistrationResult operation.Object}
    (trace : (operation.program services).Traces exchanges (.ok registration)) :
    ∃ before after publication, exchanges = before ++ after ∧
      (operation.lookup services).Traces before (.ok publication) ∧
      (∀ exchange ∈ before, exchange.call.isQuiet = true) ∧
      (publication.program services).Traces after (.ok registration) := by
  rw [program_eq_lookup] at trace
  obtain ⟨before, after, publication, rfl, found, published⟩ := Program.bind_traces_ok.mp trace
  exact ⟨before, after, publication, rfl, found,
    (Program.Within.of_traces (lookup_isQuiet services operation) found).1, published⟩

end RegistryOperation
end AnonCreds
end DidRegistry
