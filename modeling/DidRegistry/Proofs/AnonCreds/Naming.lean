import DidRegistry.Proofs.AnonCreds.Coordinates
import DidRegistry.Proofs.Text.Form

/-!
Names of registries. The resource of a registry continues the name of its credential definition,
which continues that of the schema, with a hyphen in front of each tag. Hyphens in the parts look
the same, so a name tells which chain it is of only if it is known how many hyphens the tags have.

Main statement: registries of different chains have different names if their tags have as many
hyphens, and lookups of lists under different names ask for different DID URLs (`registries_apart`).
Other chains can share a name, and with it a list (`chains_share_a_name`).
-/

namespace DidRegistry

/-- The DID URL of what is in force in a place tells the place. -/
theorem Slot.didUrl?_injective {slot other : Slot} {epoch : Int64} {url : String}
    (here : slot.didUrl? epoch = some url) (there : other.didUrl? epoch = some url) :
    slot = other := by
  obtain ⟨did, name, resourceType⟩ := slot
  obtain ⟨otherDid, otherName, otherType⟩ := other
  obtain ⟨time, stamp, rfl⟩ := Option.map_eq_some_iff.mp here
  obtain ⟨_, again, same⟩ := Option.map_eq_some_iff.mp there
  rw [stamp] at again
  cases again
  -- The query follows the last question mark, as nothing in it is written with one.
  have unmarked : ∀ pairs, '?' ∉ (Form.encode pairs).toList.reverse := by
    intro pairs
    rw [List.mem_reverse]
    exact Form.not_mem_encode (by decide) (by decide) (by decide) pairs
  have turned := congrArg (fun url => url.toList.reverse) same
  simp only [String.toList_append, List.reverse_append, List.append_assoc] at turned
  obtain ⟨queries, dids⟩ := Form.split_unique (unmarked _) (unmarked _) turned
  have pairs := Form.encode_injective (String.toList_inj.mp (List.reverse_inj.mp queries))
  simp only [List.cons.injEq, Prod.mk.injEq, true_and, and_true] at pairs
  obtain ⟨rfl, rfl⟩ := pairs
  rw [String.toList_inj.mp (List.reverse_inj.mp dids)]

namespace AnonCreds

variable {services : Services}

/-! ### Names -/

/-- A tagged name is taken apart in one way if it is known how many hyphens the tag has. -/
theorem taggedName_inj {name other tag another : String}
    (same : taggedName name tag = taggedName other another)
    (alike : tag.toList.count '-' = another.toList.count '-') : name = other ∧ tag = another := by
  have written : name.toList ++ '-' :: tag.toList = other.toList ++ '-' :: another.toList := by
    simpa [taggedName] using congrArg String.toList same
  have longer : ∀ {front back rest : List Char}, '-' :: back = front ++ '-' :: rest →
      back.count '-' = rest.count '-' → front = [] := by
    intro front back rest split counts
    cases front with
    | nil => rfl
    | cons c front =>
        have tails : back = front ++ '-' :: rest := (List.cons.inj split).2
        rw [tails, List.count_append, List.count_cons_self] at counts
        omega
  have names : name.toList = other.toList := by
    rcases List.append_eq_append_iff.mp written with
      ⟨front, longName, tags⟩ | ⟨front, longName, tags⟩
    · rw [longName, longer tags alike, List.append_nil]
    · rw [longName, longer tags alike.symm, List.append_nil]
  rw [names] at written
  exact ⟨String.toList_inj.mp names,
    String.toList_inj.mp (List.cons.inj (List.append_cancel_left written)).2⟩

/-- What leads to a registry: the name of the schema, and the tags of the credential definition and
of the registry. -/
structure Chain where
  schema : String
  credentialTag : String
  registryTag : String
  deriving DecidableEq, Repr

namespace Chain

def credentialName (chain : Chain) : String := taggedName chain.schema chain.credentialTag

def name (chain : Chain) : String := taggedName chain.credentialName chain.registryTag

/-- How many hyphens the tags have. -/
def hyphens (chain : Chain) : Nat × Nat :=
  (chain.credentialTag.toList.count '-', chain.registryTag.toList.count '-')

/-- Chains whose tags have as many hyphens are told apart by their names. -/
theorem eq_of_name_eq {chain other : Chain} (alike : chain.hyphens = other.hyphens)
    (same : chain.name = other.name) : chain = other := by
  obtain ⟨schema, credentialTag, registryTag⟩ := chain
  obtain ⟨credentials, registries⟩ := Prod.mk.inj alike
  obtain ⟨names, rfl⟩ := taggedName_inj same registries
  obtain ⟨rfl, rfl⟩ := taggedName_inj names credentials
  rfl

end Chain

/-! ### Publications along a chain -/

/-- An identifier can be asked for, and whatever a run is sent for it reads as the object. -/
def Brings {α : Type} [ResourceContent α] (services : Services) (id : String)
    (object : Resolved α) (exchanges : List Exchange) : Prop :=
  ∃ issuer resource url, Identifier.split id = .ok (issuer, resource) ∧
    Resolver.request? services.resolver Resolver.dereferencingForm id =
      some (Resolver.inquiry url Resolver.dereferencingForm) ∧
    ∀ delivery : Delivery,
      (⟨.fetch (Resolver.inquiry url Resolver.dereferencingForm), delivery⟩ : Exchange) ∈
        exchanges →
      readResource id issuer url delivery = .ok object

/-- A sequence that begins with a lookup goes on with the object that it is sent, and posts what the
rest posts. -/
theorem get_bind_traces {α β : Type} [ResourceContent α] {id : String} {object : Resolved α}
    {next : Resolved α → Program β} {exchanges : List Exchange} {result : Except Error β}
    (trace : ((get services id).bind next).Traces exchanges result)
    (brings : Brings services id object exchanges) :
    ∃ after, posted? exchanges = posted? after ∧ (next object).Traces after result := by
  obtain ⟨issuer, resource, url, split, asked, reads⟩ := brings
  -- Whichever way the lookup has gone, it has come to what was sent.
  have comes : ∀ {before after : List Exchange} {first : Except Error (Resolved α)},
      exchanges = before ++ after →
      (get services id : Program (Resolved α)).Traces before first → first = .ok object := by
    rintro before after first rfl got
    rcases get_traces got with
      ⟨unasked, -⟩ | ⟨issuer', resource', url', delivery, split', asked', rfl, rfl⟩
    · exact absurd asked (unasked issuer resource _ split)
    · cases split.symm.trans split'
      cases asked.symm.trans asked'
      exact reads delivery List.mem_cons_self
  rcases Program.bind_traces.mp trace with
    ⟨error, got, -⟩ | ⟨before, after, first, same, got, followed⟩
  · cases comes (List.append_nil _).symm got
  · cases comes same got
    have quiet := (Program.Within.of_traces (get_isQuiet id) got).1
    exact ⟨after, by rw [same, posted?_append_of_isQuiet after quiet], followed⟩

/-- A credential definition is posted under the name of its schema, continued. -/
theorem posted?_registerCredentialDefinition {settings : Settings}
    {definition : CredentialDefinition} {schema : Resolved Schema} {network : String}
    {exchanges : List Exchange} {result : Except Error (RegistrationResult CredentialDefinition)}
    (usable : Services.ofSettings settings = .ok services) (web : services.registrar.isWeb = true)
    (issued : Identifier.network definition.issuerId = .ok network)
    (trace : (registerCredentialDefinition services definition).Traces exchanges result)
    (brings : Brings services definition.schemaId schema exchanges) :
    posted? exchanges = some ⟨definition.issuerId, taggedName schema.value.name definition.tag,
      ResourceType.credentialDefinition.name⟩ := by
  obtain ⟨after, same, published⟩ := get_bind_traces trace brings
  have named : Identifier.network (ResourceContent.issuerId definition) = .ok network := issued
  rw [same]
  exact posted?_publish usable web named published

/-- A registry is posted under the name of its credential definition, continued. -/
theorem posted?_registerRevocationRegistryDefinition {settings : Settings}
    {registry : RevocationRegistryDefinition} {credentials : Resolved CredentialDefinition}
    {name network : String} {exchanges : List Exchange}
    {result : Except Error (RegistrationResult RevocationRegistryDefinition)}
    (usable : Services.ofSettings settings = .ok services) (web : services.registrar.isWeb = true)
    (issued : Identifier.network registry.issuerId = .ok network)
    (trace : (registerRevocationRegistryDefinition services registry).Traces exchanges result)
    (brings : Brings services registry.credDefId credentials exchanges)
    (reported : resourceName credentials.metadata credentials.id = .ok name) :
    posted? exchanges = some ⟨registry.issuerId, taggedName name registry.tag,
      ResourceType.revocationRegistryDefinition.name⟩ := by
  obtain ⟨after, same, followed⟩ := get_bind_traces trace brings
  have published : (publish services .create (taggedName name registry.tag) registry.tag
      registry).Traces after result := by
    rw [reported] at followed
    exact followed
  have named : Identifier.network (ResourceContent.issuerId registry) = .ok network := issued
  rw [same]
  exact posted?_publish usable web named published

/-- A run of a program that posts something. -/
structure PostingRun {α : Type} (program : Program α) where
  exchanges : List Exchange
  result : Except Error α
  trace : program.Traces exchanges result
  /-- Where it posts. -/
  slot : Slot
  posted : posted? exchanges = some slot

/-- A credential definition is published, and a registry for it, while the resolver reports the
schema and the credential definition under the names that they were posted with. -/
structure Chain.Publication (services : Services) (chain : Chain) where
  definition : CredentialDefinition
  definitionRun : PostingRun (registerCredentialDefinition services definition)
  schema : Resolved Schema
  schemaBrought : Brings services definition.schemaId schema definitionRun.exchanges
  schemaNamed : schema.value.name = chain.schema
  definitionTagged : definition.tag = chain.credentialTag
  registry : RevocationRegistryDefinition
  registryRun : PostingRun (registerRevocationRegistryDefinition services registry)
  credentials : Resolved CredentialDefinition
  credentialsBrought : Brings services registry.credDefId credentials registryRun.exchanges
  credentialsNamed :
    credentials.metadata.text? "resourceName" = some definitionRun.slot.name
  registryTagged : registry.tag = chain.registryTag

namespace Chain.Publication

variable {chain : Chain} (publication : chain.Publication services)

theorem definition_name : publication.definitionRun.slot.name = chain.credentialName := by
  obtain ⟨after, same, published⟩ :=
    get_bind_traces publication.definitionRun.trace publication.schemaBrought
  have posts := publication.definitionRun.posted
  rw [same] at posts
  rw [posted?_of_publish published posts, publication.schemaNamed, publication.definitionTagged]
  rfl

/-- The registry is posted under the name of its chain. -/
theorem registry_name : publication.registryRun.slot.name = chain.name := by
  obtain ⟨after, same, followed⟩ :=
    get_bind_traces publication.registryRun.trace publication.credentialsBrought
  have posts := publication.registryRun.posted
  rw [same] at posts
  rcases Program.ofExcept_bind_traces.mp followed with
    ⟨error, -, rfl, -⟩ | ⟨name, reported, published⟩
  · cases posts
  · have named := (resourceName_eq_ok_iff.mp reported).1
    rw [publication.credentialsNamed, publication.definition_name] at named
    rw [posted?_of_publish published posts, ← Option.some.inj named, publication.registryTagged]
    rfl

end Chain.Publication

/-! ### Lookups of lists -/

/-- A lookup of the list in force at a point in time, for a registry that the resolver serves under
a name. -/
structure ListLookup (services : Services) (name : String) (epoch : Int64) where
  registryId : String
  exchanges : List Exchange
  result : Except Error (Resolved RevocationStatusList)
  trace : (getRevocationList services registryId (some epoch)).Traces exchanges result
  served : Delivery
  serves : Served services registryId served exchanges
  /-- Where it looks. -/
  place : Slot
  found : listSlot? services registryId served = some place
  reported : place.name = name

/-! ### Resources of an issuer -/

/-- Peers that serve a reply bring the object that it reads as. -/
theorem brings_obliging {α β : Type} [ResourceContent α] {served : Url → Delivery}
    {id issuer resource : String} {url : Url} {object : Resolved α}
    (split : Identifier.split id = .ok (issuer, resource))
    (asked : Resolver.request? services.resolver Resolver.dereferencingForm id =
      some (Resolver.inquiry url Resolver.dereferencingForm))
    (read : readResource id issuer url (served url) = .ok object) (program : Program β) :
    Brings services id object (program.run (.obliging served) ()).exchanges := by
  refine ⟨issuer, resource, url, split, asked, ?_⟩
  intro delivery member
  obtain ⟨_, answered⟩ := Program.run_answered _ program () _ member
  have same : delivery = served url := answered
  rw [same, read]

namespace Shelf

/-- The identifier of a resource of the issuer. -/
def id (resource : String) : String := Identifier.compose "did:cheqd:testnet:a" resource

def url (resource : String) : Url :=
  ⟨"http", some ⟨"", none, .name "localhost", some 8080⟩,
    .segments ["1.0", "identifiers", "did:cheqd:testnet:a", "resources", resource], none, none⟩

/-- A resource with the name that it was posted with. -/
def streamed (name : String) (content : Value) : Value :=
  .object [("contentStream", content), ("contentMetadata", .object [("resourceName", .text name)])]

def schema (name : String) : Schema := ⟨"did:cheqd:testnet:a", [], name, "1"⟩

/-- A credential definition for one of the issuer's schemas. -/
def definition (schema tag : String) : CredentialDefinition :=
  ⟨"did:cheqd:testnet:a", id schema, "CL", tag, .null⟩

/-- A registry for one of the issuer's credential definitions. -/
def registry (definition tag : String) : RevocationRegistryDefinition :=
  ⟨"did:cheqd:testnet:a", "CL_ACCUM", id definition, tag, .null⟩

/-- What the resolver has: two schemas, a credential definition for each, and two registries for the
first of these. -/
def value? : String → Option Value
  | "s" => some (ResourceContent.content (schema "a-b"))
  | "t" => some (ResourceContent.content (schema "a"))
  | "k" => some (streamed "a-b-c" (ResourceContent.content (definition "s" "c")))
  | "l" => some (streamed "a-b-c" (ResourceContent.content (definition "t" "b-c")))
  | "m" => some (streamed "a-b-c-d" (ResourceContent.content (registry "k" "d")))
  | "n" => some (streamed "a-b-c-e" (ResourceContent.content (registry "k" "e")))
  | _ => none

def resources : List String := ["s", "t", "k", "l", "m", "n"]

def served (url : Url) : Delivery :=
  match url.path with
  | .segments [_, _, _, _, resource] =>
      match value? resource with
      | some value => .replied ⟨200, Bytes.ofText value.json.render⟩
      | none => .replied ⟨404, []⟩
  | _ => .replied ⟨404, []⟩

theorem split_id : ∀ resource ∈ resources,
    Identifier.split (id resource) = .ok ("did:cheqd:testnet:a", resource) := by
  decide +kernel

theorem identifierUrl_id : ∀ resource ∈ resources,
    Resolver.identifierUrl Services.standard.resolver (id resource) = .ok (url resource) := by
  decide +kernel

/-- What is written of a resource is read back. -/
theorem read_value? : ∀ resource ∈ resources,
    ((value? resource).bind fun value => Json.ofText? value.json.render).bind Value.ofJson? =
      value? resource := by
  decide +kernel

theorem request?_id {resource : String} (member : resource ∈ resources) :
    Resolver.request? Services.standard.resolver Resolver.dereferencingForm (id resource) =
      some (Resolver.inquiry (url resource) Resolver.dereferencingForm) :=
  Resolver.request?_eq_some _ (identifierUrl_id resource member) (by rfl)

/-- The resource reads as the object. -/
def Holds {α : Type} [ResourceContent α] (resource : String) (object : Resolved α) : Prop :=
  resource ∈ resources ∧ ∃ value, value? resource = some value ∧
    ofResource (id resource) "did:cheqd:testnet:a" (some (ResolvedResource.ofBody value)) =
      .ok object

theorem Holds.read {α : Type} [ResourceContent α] {resource : String} {object : Resolved α}
    (holds : Holds resource object) :
    readResource (id resource) "did:cheqd:testnet:a" (url resource) (served (url resource)) =
      .ok object := by
  obtain ⟨member, value, present, content⟩ := holds
  have reply : served (url resource) = .replied ⟨200, Bytes.ofText value.json.render⟩ := by
    simp only [served, url, present]
  have written : Value.ofBytes? (Bytes.ofText value.json.render) = some value := by
    have read := read_value? resource member
    rw [present, Option.bind_some] at read
    rw [Value.ofBytes?, Json.ofBytes?_ofText]
    exact read
  rw [reply, readResource, Recording.read_reply written]
  exact content

theorem Holds.brings {α β : Type} [ResourceContent α] {resource : String} {object : Resolved α}
    (holds : Holds resource object) (program : Program β) :
    Brings .standard (id resource) object (program.run (.obliging served) ()).exchanges :=
  brings_obliging (split_id resource holds.1) (request?_id holds.1) holds.read program

theorem network_issuer : Identifier.network "did:cheqd:testnet:a" = .ok "testnet" := by
  decide +kernel

/-- A credential definition is published for a schema, and a registry for it. -/
def publication {schemaResource definitionResource : String} {schema : Resolved Schema}
    {credentials : Resolved CredentialDefinition} (credentialTag registryTag : String)
    (schemaHeld : Holds schemaResource schema)
    (credentialsHeld : Holds definitionResource credentials)
    (named : resourceName credentials.metadata credentials.id =
      .ok (taggedName schema.value.name credentialTag)) :
    Chain.Publication .standard ⟨schema.value.name, credentialTag, registryTag⟩ where
  definition := definition schemaResource credentialTag
  definitionRun :=
    { exchanges := _
      result := _
      trace := Program.run_traces (.obliging served) _ ()
      slot := _
      posted := posted?_registerCredentialDefinition Services.ofSettings_standard rfl
        network_issuer (Program.run_traces _ _ _) (schemaHeld.brings _) }
  schema := schema
  schemaBrought := schemaHeld.brings _
  schemaNamed := rfl
  definitionTagged := rfl
  registry := registry definitionResource registryTag
  registryRun :=
    { exchanges := _
      result := _
      trace := Program.run_traces (.obliging served) _ ()
      slot := _
      posted := posted?_registerRevocationRegistryDefinition Services.ofSettings_standard rfl
        network_issuer (Program.run_traces _ _ _) (credentialsHeld.brings _) named }
  credentials := credentials
  credentialsBrought := credentialsHeld.brings _
  credentialsNamed := (resourceName_eq_ok_iff.mp named).1
  registryTagged := rfl

/-- The list of a registry is looked up at the beginning of the epoch. -/
def lookup {resource name : String} {registry : Resolved RevocationRegistryDefinition}
    (held : Holds resource registry)
    (named : resourceName registry.metadata registry.id = .ok name) :
    ListLookup .standard name 0 where
  registryId := id resource
  exchanges := _
  result := _
  trace := Program.run_traces (.obliging served) _ ()
  served := served (url resource)
  serves := (servesDefinition_obliging served (request?_id held.1)).served _ _
  place := ⟨"did:cheqd:testnet:a", name, ResourceType.statusList.name⟩
  found := listSlot?_eq_some (split_id resource held.1) (request?_id held.1) held.read named
  reported := rfl

/-- What the resolver reports beside a resource. -/
def reported (name : String) : Metadata :=
  (Metadata.ofValue? (.object [("resourceName", .text name)])).getD .empty

theorem holds_schema : Holds "s" ⟨id "s", schema "a-b", .empty⟩ :=
  ⟨by decide, _, rfl, by decide +kernel⟩

theorem holds_shortSchema : Holds "t" ⟨id "t", schema "a", .empty⟩ :=
  ⟨by decide, _, rfl, by decide +kernel⟩

theorem holds_definition : Holds "k" ⟨id "k", definition "s" "c", reported "a-b-c"⟩ :=
  ⟨by decide, _, rfl, by decide +kernel⟩

theorem holds_longTag : Holds "l" ⟨id "l", definition "t" "b-c", reported "a-b-c"⟩ :=
  ⟨by decide, _, rfl, by decide +kernel⟩

theorem holds_registry : Holds "m" ⟨id "m", registry "k" "d", reported "a-b-c-d"⟩ :=
  ⟨by decide, _, rfl, by decide +kernel⟩

theorem holds_otherRegistry : Holds "n" ⟨id "n", registry "k" "e", reported "a-b-c-e"⟩ :=
  ⟨by decide, _, rfl, by decide +kernel⟩

def plain : Chain.Publication .standard ⟨"a-b", "c", "d"⟩ :=
  publication "c" "d" holds_schema holds_definition (by decide +kernel)

/-- Another registry is published for the same credential definition. -/
def another : Chain.Publication .standard ⟨"a-b", "c", "e"⟩ :=
  publication "c" "e" holds_schema holds_definition (by decide +kernel)

/-- A registry is published for the second schema, with a hyphen in a tag. -/
def hyphenated : Chain.Publication .standard ⟨"a", "b-c", "d"⟩ :=
  publication "b-c" "d" holds_shortSchema holds_longTag (by decide +kernel)

end Shelf

/-! ### Different chains -/

/-- A registry is posted under the name of its chain: that of its schema, the tag of the credential
definition and its own, with hyphens between them, as the resolver has reported what it is built
on. Different chains have different names if their tags have as many hyphens, and lookups for one
point in time under different names look for different DID URLs. With hyphens in other places,
chains may share a name. -/
theorem registries_apart {first second : Chain} (one : first.Publication services)
    (other : second.Publication services) :
    one.registryRun.slot.name = first.name ∧ other.registryRun.slot.name = second.name ∧
    (first.hyphens = second.hyphens → first ≠ second →
      one.registryRun.slot.name ≠ other.registryRun.slot.name) ∧
    ∀ {epoch : Int64} (here : ListLookup services one.registryRun.slot.name epoch)
      (there : ListLookup services other.registryRun.slot.name epoch),
      LooksIn services here.registryId (some epoch) here.place here.exchanges ∧
      LooksIn services there.registryId (some epoch) there.place there.exchanges ∧
      (one.registryRun.slot.name ≠ other.registryRun.slot.name →
        ∀ url, here.place.didUrl? epoch = some url → there.place.didUrl? epoch ≠ some url) := by
  refine ⟨one.registry_name, other.registry_name, ?_, ?_⟩
  · intro alike differ same
    rw [one.registry_name, other.registry_name] at same
    exact differ (Chain.eq_of_name_eq alike same)
  · intro epoch here there
    refine ⟨(getRevocationList_traces here.trace here.serves here.found).looksIn,
      (getRevocationList_traces there.trace there.serves there.found).looksIn, ?_⟩
    intro differ url asks also
    have same := Slot.didUrl?_injective asks also
    exact differ (by rw [← here.reported, ← there.reported, same])

/-- Chains that differ in the tag of the registry are kept apart. -/
theorem registries_apart_of_tag :
    Shelf.plain.registryRun.slot.name ≠ Shelf.another.registryRun.slot.name ∧
    Slot.didUrl? ⟨"did:cheqd:testnet:a", Shelf.plain.registryRun.slot.name,
        ResourceType.statusList.name⟩ 0 =
      some ("did:cheqd:testnet:a?resourceType=anonCredsStatusList&resourceName=a-b-c-d" ++
        "&resourceTime=1970-01-01T00%3A00%3A00Z") ∧
    Slot.didUrl? ⟨"did:cheqd:testnet:a", Shelf.another.registryRun.slot.name,
        ResourceType.statusList.name⟩ 0 ≠
      some ("did:cheqd:testnet:a?resourceType=anonCredsStatusList&resourceName=a-b-c-d" ++
        "&resourceTime=1970-01-01T00%3A00%3A00Z") := by
  obtain ⟨name, otherName, differ, looks⟩ := registries_apart Shelf.plain Shelf.another
  have names := differ (by decide +kernel) (by decide)
  have here : resourceName (Shelf.reported "a-b-c-d") (Shelf.id "m") =
      .ok Shelf.plain.registryRun.slot.name := by
    rw [name]
    decide +kernel
  have there : resourceName (Shelf.reported "a-b-c-e") (Shelf.id "n") =
      .ok Shelf.another.registryRun.slot.name := by
    rw [otherName]
    decide +kernel
  have asks : Slot.didUrl? ⟨"did:cheqd:testnet:a", Shelf.plain.registryRun.slot.name,
        ResourceType.statusList.name⟩ 0 =
      some ("did:cheqd:testnet:a?resourceType=anonCredsStatusList&resourceName=a-b-c-d" ++
        "&resourceTime=1970-01-01T00%3A00%3A00Z") := by
    rw [name]
    decide +kernel
  exact ⟨names, asks, (looks (Shelf.lookup Shelf.holds_registry here)
    (Shelf.lookup Shelf.holds_otherRegistry there)).2.2 names _ asks⟩

/-- A hyphen in the name of a schema and one in a tag look the same: registries of one issuer share
a name. -/
theorem chains_share_a_name :
    ¬ ∀ (services : Services) (first second : Chain) (one : first.Publication services)
      (other : second.Publication services), one.registry.issuerId = other.registry.issuerId →
      first ≠ second → one.registryRun.slot.name ≠ other.registryRun.slot.name := by
  intro always
  have same : Shelf.plain.registryRun.slot.name = Shelf.hyphenated.registryRun.slot.name := by
    rw [Shelf.plain.registry_name, Shelf.hyphenated.registry_name]
    decide +kernel
  exact always .standard _ _ Shelf.plain Shelf.hyphenated rfl (by decide) same

end AnonCreds
end DidRegistry
