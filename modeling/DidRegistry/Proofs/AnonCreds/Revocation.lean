import DidRegistry.Proofs.AnonCreds.StatusList
import DidRegistry.Proofs.Did.Resolution
import DidRegistry.Proofs.Resource.Ledger

/-!
Revocation over a ledger. The registrar keeps the ledger (`Ledger.KeptBy`), and the resolver serves
a fixed definition of the registry and the list stored last (`Ledger.Serves`); clock, wallet and
everything else are free.

A call's two halves are specified once: the lookup finds the list that is stored
(`listInForce_ensures`), and the publication of a change stores the version that supersedes the list
it is given, or nothing (`publishChange_ensures`).
-/

namespace DidRegistry

open AnonCreds

/-- What a lookup leaves behind: nothing has been stored, and what is found is as specified. -/
def Ledger.Reads {σ α : Type} (ledger : Ledger σ) (before : σ) (spec : α → Prop)
    (result : Except Error α) (after : σ) : Prop :=
  ledger.stored after = ledger.stored before ∧ ∀ value, result = .ok value → spec value

/-- A revocation registry: its identifier, the DID of its issuer, and the name that its lists share
with it. -/
structure RevocationRegistry where
  id : String
  issuer : String
  name : String

def RevocationRegistry.slot (registry : RevocationRegistry) : Slot :=
  ⟨registry.issuer, registry.name, ResourceType.statusList.name⟩

namespace Ledger

variable {σ : Type}

/-- The resolver serves a registry: a definition that does not change and names the registry, and as
the list in force, whatever the time, the content that is stored. -/
structure Serves (ledger : Ledger σ) (surroundings : Surroundings σ) (services : Services)
    (registry : RevocationRegistry) : Prop where
  issued : ∃ resource, Identifier.split registry.id = .ok (registry.issuer, resource)
  definition : ∃ (body : Value) (definition : RevocationRegistryDefinition),
    ResourceContent.read registry.issuer (ResolvedResource.ofBody body).resource =
      .ok definition ∧
    (ResolvedResource.ofBody body).metadata.text? "resourceName" = some registry.name ∧
    registry.name ≠ "" ∧
    ∀ state url, Resolver.identifierUrl services.resolver registry.id = .ok url →
      Delivery.read
        (surroundings.answer (.fetch (Resolver.inquiry url Resolver.dereferencingForm)) state).1
        (Resolver.body? url) = .ok (some body)
  list : ∀ state epoch didUrl url payload,
    statusListUrl registry.issuer registry.name epoch = .ok didUrl →
    Resolver.identifierUrl services.resolver didUrl = .ok url →
    ledger.stored state registry.slot = some payload →
    ∃ body : Value,
      Delivery.read
        (surroundings.answer (.fetch (Resolver.inquiry url Resolver.dereferencingForm)) state).1
        (Resolver.body? url) = .ok (some body) ∧
      body.member? "contentStream" = some payload.data

/-- The list is stored as the registry's, under the version of its timestamp. -/
def Holds (ledger : Ledger σ) (registry : RevocationRegistry) (state : σ)
    (list : RevocationStatusList) : Prop :=
  list.issuerId = registry.issuer ∧ list.revRegDefId = registry.id ∧
    ∃ timestamp, list.timestamp = some timestamp ∧
      ledger.stored state registry.slot =
        some (payload registry.name (listVersion timestamp) list)

variable {ledger : Ledger σ} {surroundings : Surroundings σ} {services : Services}
  {registry : RevocationRegistry} {state : σ}

theorem Holds.of_stored_eq {list : RevocationStatusList} {after : σ}
    (holds : ledger.Holds registry state list)
    (same : ledger.stored after = ledger.stored state) : ledger.Holds registry after list := by
  obtain ⟨issuer, id, timestamp, stamp, stored⟩ := holds
  refine ⟨issuer, id, timestamp, stamp, ?_⟩
  rw [same]
  exact stored

/-! ### Lookups -/

variable {α β : Type}

theorem Reads.of_error {spec : α → Prop} {error : Error} {after : σ}
    (same : ledger.stored after = ledger.stored state) :
    ledger.Reads state spec (.error error) after :=
  ⟨same, by rintro value ⟨⟩⟩

theorem Reads.of_ok {spec : α → Prop} {value : α} {after : σ}
    (same : ledger.stored after = ledger.stored state) (found : spec value) :
    ledger.Reads state spec (.ok value) after := by
  refine ⟨same, ?_⟩
  rintro _ ⟨⟩
  exact found

/-- One lookup after the other. -/
theorem Reads.bind {program : Program α} {next : α → Program β} {spec : α → Prop}
    {last : β → Prop} (first : Program.Ensures surroundings program state (ledger.Reads state spec))
    (second : ∀ value after, spec value → ledger.stored after = ledger.stored state →
      Program.Ensures surroundings (next value) after (ledger.Reads after last)) :
    Program.Ensures surroundings (program.bind next) state (ledger.Reads state last) := by
  refine first.bind ?_ ?_
  · intro error after read
    exact .of_error read.1
  · intro value after read
    refine (second value after (read.2 value rfl) read.1).imp ?_
    intro result final later
    exact ⟨later.1.trans read.1, later.2⟩

/-- The clock reads anything. -/
theorem now_reads (kept : ledger.KeptBy surroundings services) :
    Program.Ensures surroundings Program.now state (ledger.Reads state fun _ => True) := by
  have still := kept.quiet .clock state (by rintro request ⟨⟩)
  exact .ask (.done (.of_ok still.1 trivial))

/-- An object is read from the body that the resolver serves for its DID URL. -/
theorem resolve_reads [ResourceContent α] (kept : ledger.KeptBy surroundings services)
    {didUrl issuer : String} {served : Value → Prop}
    (serves : ∀ url, Resolver.identifierUrl services.resolver didUrl = .ok url →
      ∃ body, Delivery.read
        (surroundings.answer (.fetch (Resolver.inquiry url Resolver.dereferencingForm)) state).1
        (Resolver.body? url) = .ok (some body) ∧ served body) :
    Program.Ensures surroundings (resolve services didUrl issuer : Program (Resolved α)) state
      (ledger.Reads state fun resolved => ∃ body, served body ∧
        ofResource didUrl issuer (some (ResolvedResource.ofBody body)) = .ok resolved) := by
  have looked : Program.Ensures surroundings
      (Resolver.lookup services.resolver Resolver.dereferencingForm didUrl) state
      (ledger.Reads state fun found => ∃ body, served body ∧ found = some body) := by
    refine Resolver.lookup_ensures (fun error => .of_error rfl) ?_
    intro url found
    obtain ⟨body, read, isServed⟩ := serves url found
    have still := kept.quiet (.fetch (Resolver.inquiry url Resolver.dereferencingForm)) state
      (by rintro request ⟨⟩; rfl)
    rw [read]
    exact .of_ok still.1 ⟨body, isServed, rfl⟩
  unfold resolve Resolver.dereference
  simp only [Program.bind_eq, Program.bind_assoc]
  refine Reads.bind looked ?_
  rintro _ after ⟨body, isServed, rfl⟩ -
  refine .ofExcept ⟨rfl, ?_⟩
  intro resolved read
  exact ⟨body, isServed, read⟩

end Ledger

namespace AnonCreds

/-- An object is read from a resource that has content, as the content and the metadata say. -/
theorem ofResource_some_eq_ok_iff {α : Type} [ResourceContent α] {didUrl issuer : String}
    {resource : ResolvedResource} {resolved : Resolved α} :
    ofResource didUrl issuer (some resource) = .ok resolved ↔
      resource.resource ≠ Value.null ∧ resolved.id = didUrl ∧
        resolved.metadata = resource.metadata ∧
        ResourceContent.read issuer resource.resource = .ok resolved.value := by
  obtain ⟨id, object, metadata⟩ := resolved
  by_cases empty : resource.resource = Value.null
  · simp [ofResource, empty]
  · simp only [ofResource, if_neg empty]
    cases (ResourceContent.read issuer resource.resource : Except Error α) with
    | error error => simp [bind, Except.bind]
    | ok value =>
        change Except.ok (⟨didUrl, value, resource.metadata⟩ : Resolved α) = _ ↔ _
        rw [Except.ok.injEq]
        constructor
        · rintro ⟨rfl, rfl, rfl⟩
          exact ⟨empty, rfl, rfl, rfl⟩
        · rintro ⟨-, rfl, rfl, ⟨⟩⟩
          rfl

/-- A resource name is that of the metadata, and not empty. -/
theorem resourceName_eq_ok_iff {metadata : Metadata} {id name : String} :
    resourceName metadata id = .ok name ↔
      metadata.text? "resourceName" = some name ∧ name ≠ "" := by
  unfold resourceName
  split
  · rename_i absent
    simp [absent]
  · rename_i empty
    rw [empty]
    simp only [reduceCtorEq, Option.some.injEq, false_iff, not_and, not_not]
    exact Eq.symm
  · rename_i found named present
    rw [present]
    simp only [Except.ok.injEq, Option.some.injEq, iff_self_and]
    rintro rfl rfl
    exact named rfl

variable {σ : Type} {ledger : Ledger σ} {surroundings : Surroundings σ} {services : Services}
  {registry : RevocationRegistry} {state : σ}

/-- The definition of a served registry has its name in the metadata. -/
theorem definition_reads (kept : ledger.KeptBy surroundings services)
    (serves : ledger.Serves surroundings services registry) :
    Program.Ensures surroundings (getRevocationRegistryDefinition services registry.id) state
      (ledger.Reads state fun definition =>
        ∀ name, resourceName definition.metadata definition.id = .ok name →
          name = registry.name) := by
  obtain ⟨body, -, -, named, nonempty, answers⟩ := serves.definition
  unfold getRevocationRegistryDefinition AnonCreds.get
  refine .ofExcept_bind (fun error => .of_error rfl) ?_
  rintro ⟨issuer, resource⟩ -
  have resolved : Program.Ensures surroundings
      (resolve services registry.id issuer : Program (Resolved RevocationRegistryDefinition)) state
      (ledger.Reads state fun resolved => ∃ found, found = body ∧
        ofResource registry.id issuer (some (ResolvedResource.ofBody found)) = .ok resolved) :=
    Ledger.resolve_reads kept fun url found => ⟨body, answers state url found, rfl⟩
  refine resolved.imp ?_
  rintro result after ⟨same, found⟩
  refine ⟨same, ?_⟩
  rintro definition ended name reported
  obtain ⟨_, rfl, read⟩ := found definition ended
  have reads := (resourceName_eq_ok_iff.mp reported).1
  rw [(ofResource_some_eq_ok_iff.mp read).2.2.1, named] at reads
  exact (Option.some.inj reads).symm

/-- A list is read back from the stream that it is served as, without its registry. -/
theorem read_served {list : RevocationStatusList} {body : Value} {name version didUrl : String}
    {resolved : Resolved RevocationStatusList}
    (served : body.member? "contentStream" = some (payload name version list).data)
    (read : ofResource didUrl list.issuerId (some (ResolvedResource.ofBody body)) = .ok resolved) :
    resolved.value = { list with revRegDefId := "" } := by
  have content := (ofResource_some_eq_ok_iff.mp read).2.2.2
  simp only [ResolvedResource.ofBody, served, payload, ResourceContent.read,
    RevocationStatusList.ofContent_content] at content
  exact (Except.ok.inj content).symm

/-- The lookup finds the list that is stored. -/
theorem listInForce_ensures (kept : ledger.KeptBy surroundings services)
    (serves : ledger.Serves surroundings services registry) {list : RevocationStatusList}
    (holds : ledger.Holds registry state list) :
    Program.Ensures surroundings (listInForce services registry.id none) state
      (ledger.Reads state fun found => found.1 = registry.name ∧ found.2.value = list) := by
  obtain ⟨resource, issued⟩ := serves.issued
  unfold listInForce
  refine Ledger.Reads.bind (definition_reads kept serves) ?_
  intro definition asked named same
  refine .ofExcept_bind (fun error => .of_error rfl) ?_
  intro name reported
  obtain rfl := named name reported
  refine .ofExcept_bind (fun error => .of_error rfl) ?_
  intro parts split
  rw [issued] at split
  cases split
  refine Ledger.Reads.bind (Ledger.now_reads kept) ?_
  rintro epoch clocked - still
  refine .ofExcept_bind (fun error => .of_error rfl) ?_
  intro didUrl query
  obtain ⟨isIssuer, ofRegistry, timestamp, stamp, stored⟩ :=
    holds.of_stored_eq (still.trans same)
  refine Ledger.Reads.bind (Ledger.resolve_reads kept fun url found =>
    serves.list clocked epoch didUrl url _ query found stored) ?_
  rintro resolved final ⟨body, served, read⟩ -
  rw [← isIssuer] at read
  have value := read_served served read
  refine .done (.of_ok rfl ⟨rfl, ?_⟩)
  simp only [placed, value, stamp, Option.getD_some, ← ofRegistry]
  rw [← stamp]

/-- What a call that publishes a version of a list leaves behind. -/
def Registers (ledger : Ledger σ) (registry : RevocationRegistry) (before : σ)
    (spec : RevocationStatusList → Prop)
    (result : Except Error (RegistrationResult RevocationStatusList)) (after : σ) : Prop :=
  (∀ registration, result = .ok registration →
    spec registration.state.value ∧ ledger.Holds registry after registration.state.value) ∧
  ∀ error, result = .error error → ledger.stored after = ledger.stored before

theorem Registers.of_error {spec : RevocationStatusList → Prop} {error : Error} {after : σ}
    (same : ledger.stored after = ledger.stored state) :
    Registers ledger registry state spec (.error error) after :=
  ⟨by rintro _ ⟨⟩, fun _ _ => same⟩

theorem Registers.of_reads {found spec : RevocationStatusList → Prop}
    {middle after : σ} {result : Except Error (RegistrationResult RevocationStatusList)}
    (registers : Registers ledger registry middle found result after)
    (same : ledger.stored middle = ledger.stored state)
    (implies : ∀ list, found list → spec list) :
    Registers ledger registry state spec result after := by
  refine ⟨?_, fun error failed => (registers.2 error failed).trans same⟩
  intro registration succeeded
  obtain ⟨right, holds⟩ := registers.1 registration succeeded
  exact ⟨implies _ right, holds⟩

/-- A list that is published for its registry is held, or nothing is stored. -/
theorem publish_registers (kept : ledger.KeptBy surroundings services) (mode : Resource.Mode)
    {list : RevocationStatusList} {timestamp : Int64} (issued : list.issuerId = registry.issuer)
    (ofRegistry : list.revRegDefId = registry.id) (stamp : list.timestamp = some timestamp) :
    Program.Ensures surroundings
      (publish services mode registry.name (listVersion timestamp) list) state
      (Registers ledger registry state (· = list)) := by
  unfold publish
  refine .bind (Ledger.publish_ensures kept mode _ _) ?_ ?_
  · intro error after unpublished
    exact .of_error unpublished
  · intro published after stores
    have slot : registry.slot = Posting.slot ⟨ResourceContent.issuerId list,
        payload registry.name (listVersion timestamp) list⟩ := by
      rw [RevocationRegistry.slot, ← issued]
      rfl
    have stored : ledger.stored after registry.slot =
        some (payload registry.name (listVersion timestamp) list) := by
      rw [slot]
      exact (congrFun stores _).trans (Function.update_self _ _ _)
    refine .done ⟨?_, by rintro _ ⟨⟩⟩
    rintro _ ⟨⟩
    exact ⟨rfl, issued, ofRegistry, timestamp, stamp, stored⟩

/-- The publication of a change: the version that is held supersedes the list given, or nothing is
stored. That list need not be the one that is held before. -/
theorem publishChange_ensures (kept : ledger.KeptBy surroundings services)
    {list : RevocationStatusList} (issued : list.issuerId = registry.issuer)
    (ofRegistry : list.revRegDefId = registry.id) (update : RevListUpdate) :
    Program.Ensures surroundings (publishChange services registry.name list update) state
      (Registers ledger registry state fun next => next.Supersedes list update) := by
  unfold publishChange
  refine .ofExcept_bind (fun error => .of_error rfl) ?_
  intro revoked revokes
  refine .bind (Ledger.now_reads kept) (fun error after read => .of_error read.1) ?_
  rintro now clocked ⟨same, -⟩
  refine .ofExcept_bind (fun error => .of_error same) ?_
  intro timestamp advanced
  have supersedes := RevocationStatusList.supersedes_of_change revokes advanced
  have registers : Program.Ensures surroundings
      (publish services .update registry.name (listVersion timestamp)
        (revoked.changed update timestamp)) clocked
      (Registers ledger registry clocked (· = revoked.changed update timestamp)) :=
    publish_registers kept .update (supersedes.issuerId.trans issued)
      (supersedes.revRegDefId.trans ofRegistry) rfl
  refine registers.imp ?_
  intro result after registered
  refine registered.of_reads same ?_
  rintro _ rfl
  exact supersedes

/-- An update: the version that is held supersedes the one held before, or nothing is stored. -/
theorem updateRevocationList_ensures (kept : ledger.KeptBy surroundings services)
    (serves : ledger.Serves surroundings services registry) {list : RevocationStatusList}
    (holds : ledger.Holds registry state list) (update : RevListUpdate) :
    Program.Ensures surroundings (updateRevocationList services registry.id update) state
      (Registers ledger registry state fun next => next.Supersedes list update) := by
  unfold updateRevocationList
  refine .bind (listInForce_ensures kept serves holds)
    (fun error after read => .of_error read.1) ?_
  rintro ⟨name, current⟩ after ⟨same, found⟩
  obtain ⟨rfl, rfl⟩ := found _ rfl
  refine (publishChange_ensures kept holds.1 holds.2.1 update).imp ?_
  intro result final registered
  exact registered.of_reads same fun _ right => right

/-- A registration: the list that is held is the one given, with a timestamp, or nothing is
stored. -/
theorem registerRevocationList_ensures (kept : ledger.KeptBy surroundings services)
    (serves : ledger.Serves surroundings services registry) {list : RevocationStatusList}
    (issued : list.issuerId = registry.issuer) (ofRegistry : list.revRegDefId = registry.id) :
    Program.Ensures surroundings (registerRevocationList services list) state
      (Registers ledger registry state fun registered =>
        registered.revocationList = list.revocationList) := by
  have defined : Program.Ensures surroundings
      (getRevocationRegistryDefinition services list.revRegDefId) state
      (ledger.Reads state fun definition =>
        ∀ name, resourceName definition.metadata definition.id = .ok name →
          name = registry.name) := by
    rw [ofRegistry]
    exact definition_reads kept serves
  unfold registerRevocationList
  refine .bind defined (fun error after read => .of_error read.1) ?_
  rintro definition asked ⟨same, named⟩
  refine .ofExcept_bind (fun error => .of_error same) ?_
  intro name reported
  obtain rfl := named definition rfl name reported
  have registers : ∀ (timestamp : Int64) (later : σ),
      ledger.stored later = ledger.stored state →
      Program.Ensures surroundings
        (publish services .create registry.name (listVersion timestamp)
          { list with timestamp := some timestamp }) later
        (Registers ledger registry state fun registered =>
          registered.revocationList = list.revocationList) := by
    intro timestamp later unchanged
    have published : Program.Ensures surroundings
        (publish services .create registry.name (listVersion timestamp)
          { list with timestamp := some timestamp }) later
        (Registers ledger registry later (· = { list with timestamp := some timestamp })) :=
      publish_registers kept .create issued ofRegistry rfl
    refine published.imp ?_
    intro result after registered
    refine registered.of_reads unchanged ?_
    rintro _ rfl
    rfl
  cases stamp : list.timestamp with
  | some timestamp => exact registers timestamp asked same
  | none =>
      refine .bind (Ledger.now_reads kept)
        (fun error after read => .of_error (read.1.trans same)) ?_
      intro now clocked read
      exact registers now clocked (read.1.trans same)

end AnonCreds
end DidRegistry
