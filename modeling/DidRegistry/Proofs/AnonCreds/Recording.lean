import DidRegistry.Json.Writer
import DidRegistry.Proofs.AnonCreds.Revocation
import DidRegistry.Proofs.Url.Endpoint
import DidRegistry.Proofs.Url.Query

/-!
Recorded peers of a registry. A recording has the replies that the resolver gives for the definition
and for each version of the list; its registrar finishes the publication of a recorded version at
once, and takes no other. So there are peers over which revocation can be observed: they keep a
ledger (`Recording.keptBy`) and serve the registry (`Recording.serves`).
-/

namespace DidRegistry

open AnonCreds

/-- A version of a registry's list. Its content is one that is read back from the reply that serves
it. -/
structure Version where
  timestamp : Int64
  list : RevocationStatusList
  readable : ((Json.ofText?
      (Json.obj [("contentStream", (ResourceContent.content list).json)]).render).bind
    Value.ofJson?).bind (·.member? "contentStream") = some (ResourceContent.content list)
  deriving DecidableEq

def Version.reply (version : Version) : Bytes :=
  Bytes.ofText
    (Json.obj [("contentStream", (ResourceContent.content version.list).json)]).render

/-- What peers have recorded of a registry: the reply that serves its definition, where the resolver
has it, and the versions that its list may go through. What the replies are read as is recorded with
them, so the peers that replay a recording serve the registry without further conditions. -/
structure Recording (services : Services) where
  registry : RevocationRegistry
  /-- The network that the registry is on. -/
  network : String
  issued : ∃ resource, Identifier.split registry.id = .ok (registry.issuer, resource)
  named : registry.name ≠ ""
  /-- Where the resolver has the definition. -/
  url : Url
  found : Resolver.identifierUrl services.resolver registry.id = .ok url
  web : url.isWeb = true
  unqueried : url.query = none
  /-- The reply that serves the definition. -/
  reply : Bytes
  body : Value
  written : Value.ofBytes? reply = some body
  definition : Resolved RevocationRegistryDefinition
  content : ofResource registry.id registry.issuer (some (ResolvedResource.ofBody body)) =
    .ok definition
  reported : resourceName definition.metadata definition.id = .ok registry.name
  /-- Where the resolver has the lists, in front of the query. -/
  address : ∃ first rest, (services.resolver.render ++ registry.issuer).toList = first :: rest ∧
    0x20 < first.toNat ∧ ':' ∈ first :: rest ∧ '#' ∉ first :: rest
  versions : List Version

namespace Recording

variable {services : Services} (recording : Recording services)

def payload (version : Version) : ResourcePayload :=
  AnonCreds.payload recording.registry.name (listVersion version.timestamp) version.list

def report : Bytes :=
  Bytes.ofText "\x7b\"didUrlState\":\x7b\"state\":\"finished\",\"resourceId\":\"r\"\x7d\x7d"

def published? (envelope : Json) : Option Version :=
  recording.versions.find? fun version =>
    envelope = (recording.payload version).envelope recording.registry.issuer recording.network

/-- The reply to a request for what is at a URL, when a version is stored. -/
def served (url : Url) (stored : Option Version) : Delivery :=
  if url = recording.url then .replied ⟨200, recording.reply⟩
  else match stored with
    | some version => .replied ⟨200, version.reply⟩
    | none => .replied ⟨404, []⟩

/-- The peers. Their state is the version stored last. -/
def peers : Surroundings (Option Version) where
  answer
    | .fetch request, stored => match request.body with
      | none => (recording.served request.url stored, stored)
      | some envelope => match recording.published? envelope with
        | some version => (.replied ⟨200, report⟩, some version)
        | none => (.refused, stored)
    | .createKey _, stored => (.ok [], stored)
    | .assignKid _ _, stored => (.ok (), stored)
    | .sign _, stored => (.ok [], stored)
    | .clock, stored => ((0 : Int64), stored)

/-- The ledger of the peers. No job waits. -/
def ledger : Ledger (Option Version) where
  stored state slot :=
    if slot = recording.registry.slot then state.map recording.payload else none
  waiting _ _ := none

theorem envelope_injective {payload other : ResourcePayload} {did network otherDid otherNetwork}
    (same : payload.envelope did network = other.envelope otherDid otherNetwork) :
    payload = other ∧ did = otherDid := by
  obtain ⟨name, type, version, ⟨data, _⟩⟩ := payload
  obtain ⟨_, _, _, ⟨_, _⟩⟩ := other
  simp only [ResourcePayload.envelope, Json.obj.injEq, List.cons.injEq, Prod.mk.injEq,
    Json.str.injEq, true_and] at same
  obtain ⟨rfl, rfl, rfl, rfl, rfl, -⟩ := same
  exact ⟨rfl, rfl⟩

/-- The report is read as that of a finished job. -/
theorem received_report (url : Url) (mode : Resource.Mode) :
    Registrar.received url mode.endpoint (.replied ⟨200, report⟩) =
      .ok ⟨none, .finished ⟨none, none, none, some "r", none⟩⟩ := by
  have read : JobResponse.record.decoder.ofBytes report =
      .ok ⟨none, .finished ⟨none, none, none, some "r", none⟩⟩ := by
    rw [Decoder.ofBytes, report, Json.ofBytes?_ofText]
    decide +kernel
  cases mode with
  | create => simp [Registrar.received, Delivery.read, Registrar.report, Resource.Mode.endpoint,
      Endpoint.accepts, read]
  | update => simp [Registrar.received, Delivery.read, Registrar.report, Resource.Mode.endpoint,
      Endpoint.accepts, read]

theorem keptBy : recording.ledger.KeptBy recording.peers services where
  quiet := by
    intro call state bare
    refine ⟨?_, rfl⟩
    cases call with
    | fetch request =>
        have none := bare request rfl
        simp only [peers, none]
    | createKey seed => rfl
    | assignKid verkey kid => rfl
    | sign requests => rfl
    | clock => rfl
  settles := by
    intro mode url envelope posting state found concerns
    cases concerns with
    | signatures context responses waits => cases waits
    | resource did network payload =>
        simp only [peers, Registrar.submission]
        cases recorded : recording.published? (payload.envelope did network) with
        | none => rfl
        | some version =>
            have same := List.find?_some recorded
            simp only [decide_eq_true_eq] at same
            obtain ⟨rfl, rfl⟩ := envelope_injective same
            simp only [received_report]
            refine ⟨rfl, ?_⟩
            have place : Posting.slot ⟨recording.registry.issuer, recording.payload version⟩ =
                recording.registry.slot := rfl
            funext slot
            rw [place]
            by_cases here : slot = recording.registry.slot
            · rw [here, Function.update_self]
              simp [ledger]
            · rw [Function.update_of_ne here]
              simp [ledger, here]

/-- A reply of status 200 comes to its body. -/
theorem read_reply {url : Url} {bytes : Bytes} {body : Value}
    (written : Value.ofBytes? bytes = some body) :
    Delivery.read (.replied ⟨200, bytes⟩) (Resolver.body? url) = .ok (some body) := by
  simp [Delivery.read, Resolver.body?, written]

/-- What is served where the definition is. -/
theorem read_definition {state : Option Version} :
    Delivery.read (recording.served recording.url state) (Resolver.body? recording.url) =
      .ok (some recording.body) := by
  simp only [served, if_true]
  exact read_reply recording.written

/-- What is served elsewhere, if a version is stored. -/
theorem read_version {url : Url} (elsewhere : url ≠ recording.url) (version : Version) :
    ∃ body : Value, Delivery.read (recording.served url (some version)) (Resolver.body? url) =
        .ok (some body) ∧
      body.member? "contentStream" = some (ResourceContent.content version.list) := by
  obtain ⟨body, parsed, stream⟩ := Option.bind_eq_some_iff.mp version.readable
  have written : Value.ofBytes? version.reply = some body := by
    rw [Value.ofBytes?, Version.reply, Json.ofBytes?_ofText]
    exact parsed
  refine ⟨body, ?_, stream⟩
  simp only [served, if_neg elsewhere]
  exact read_reply written

/-- The URL of a list has a query. -/
theorem query_isSome {epoch : Int64} {didUrl : String} {url : Url}
    (query : statusListUrl recording.registry.issuer recording.registry.name epoch = .ok didUrl)
    (found : Resolver.identifierUrl services.resolver didUrl = .ok url) :
    url.query.isSome = true := by
  obtain ⟨first, rest, begins, visible, colon, unmarked⟩ := recording.address
  unfold statusListUrl at query
  cases time : Calendar.timestamp? epoch.toInt with
  | none =>
      rw [time] at query
      cases query
  | some time' =>
      rw [time] at query
      cases query
      unfold Resolver.identifierUrl at found
      split at found
      · rename_i parsed
        cases found
        have written : (services.resolver.render ++ (recording.registry.issuer ++ "?" ++
            statusListQuery recording.registry.name time')).toList =
            first :: rest ++ '?' :: (statusListQuery recording.registry.name time').toList := by
          rw [← begins]
          simp
        exact Url.query_isSome_of_parse parsed written visible colon unmarked
      · cases found

/-- A list is not where the definition is. -/
theorem ne_of_query {epoch : Int64} {didUrl : String} {url : Url}
    (query : statusListUrl recording.registry.issuer recording.registry.name epoch = .ok didUrl)
    (found : Resolver.identifierUrl services.resolver didUrl = .ok url) :
    url ≠ recording.url := by
  rintro rfl
  have queried := recording.query_isSome query found
  rw [recording.unqueried] at queried
  cases queried

theorem serves : recording.ledger.Serves recording.peers services recording.registry where
  issued := recording.issued
  definition := by
    obtain ⟨-, -, metadata, content⟩ := ofResource_some_eq_ok_iff.mp recording.content
    have reported := (resourceName_eq_ok_iff.mp recording.reported).1
    rw [metadata] at reported
    refine ⟨recording.body, recording.definition.value, content, reported, recording.named, ?_⟩
    intro state url found
    rw [recording.found] at found
    cases found
    exact recording.read_definition
  list := by
    intro state epoch didUrl url payload query found stored
    cases state with
    | none => simp [ledger] at stored
    | some version =>
        obtain ⟨body, read, stream⟩ :=
          recording.read_version (recording.ne_of_query query found) version
        refine ⟨body, read, ?_⟩
        simp only [ledger, if_true, Option.map_some, Option.some.injEq] at stored
        rw [stream, ← stored]
        rfl

/-! ### What the peers have is found -/

variable {state : Option Version}

/-- What is served for a DID URL is resolved, and nothing is stored. -/
theorem resolve_finds {α : Type} [ResourceContent α] {didUrl issuer : String} {url : Url}
    {body : Value} (found : Resolver.identifierUrl services.resolver didUrl = .ok url)
    (web : url.isWeb = true)
    (read : Delivery.read (recording.served url state) (Resolver.body? url) = .ok (some body)) :
    Program.Ensures recording.peers (resolve services didUrl issuer : Program (Resolved α)) state
      fun result after =>
        result = ofResource didUrl issuer (some (ResolvedResource.ofBody body)) ∧
        after = state := by
  have asked : Program.Ensures recording.peers
      (Resolver.lookup services.resolver Resolver.dereferencingForm didUrl) state
      fun result after => result = .ok (some body) ∧ after = state := by
    rw [Resolver.lookup_eq, found, Program.ofExcept_ok_bind, Program.fetch_read_eq web]
    exact .ask (.ofExcept ⟨read, rfl⟩)
  unfold resolve Resolver.dereference
  simp only [Program.bind_eq, Program.bind_assoc]
  refine asked.bind (by rintro error after ⟨⟨⟩, -⟩) ?_
  rintro _ after ⟨⟨⟩, rfl⟩
  exact .ofExcept ⟨rfl, rfl⟩

theorem definition_finds :
    Program.Ensures recording.peers
      (getRevocationRegistryDefinition services recording.registry.id) state
      fun result after => result = .ok recording.definition ∧ after = state := by
  obtain ⟨resource, issued⟩ := recording.issued
  unfold getRevocationRegistryDefinition AnonCreds.get
  simp only [Program.bind_eq, Program.monadLift_eq, issued, Program.ofExcept_ok_bind]
  have resolved : Program.Ensures recording.peers
      (resolve services recording.registry.id recording.registry.issuer :
        Program (Resolved RevocationRegistryDefinition)) state
      fun result after =>
        result = ofResource recording.registry.id recording.registry.issuer
          (some (ResolvedResource.ofBody recording.body)) ∧
        after = state :=
    recording.resolve_finds recording.found recording.web recording.read_definition
  rw [recording.content] at resolved
  exact resolved

/-- The lookup of the list in force ends well if some version is stored. -/
theorem listInForce_finds {version : Version} {didUrl : String} {url : Url}
    (query : statusListUrl recording.registry.issuer recording.registry.name 0 = .ok didUrl)
    (found : Resolver.identifierUrl services.resolver didUrl = .ok url) (web : url.isWeb = true) :
    Program.Ensures recording.peers (listInForce services recording.registry.id none)
      (some version) fun result after => (∃ found, result = .ok found) ∧ after = some version := by
  obtain ⟨resource, issued⟩ := recording.issued
  unfold listInForce
  refine recording.definition_finds.bind (by rintro error after ⟨⟨⟩, -⟩) ?_
  rintro _ after ⟨⟨⟩, rfl⟩
  simp only [Program.bind_eq, Program.monadLift_eq, recording.reported, issued,
    Program.ofExcept_ok_bind]
  have clock : Program.Ensures recording.peers Program.now (some version)
      fun result after => result = .ok 0 ∧ after = some version := .ask (.done ⟨rfl, rfl⟩)
  refine clock.bind (by rintro error after ⟨⟨⟩, -⟩) ?_
  rintro _ after ⟨⟨⟩, rfl⟩
  rw [query, Program.ofExcept_ok_bind]
  obtain ⟨body, read, stream⟩ :=
    recording.read_version (recording.ne_of_query query found) version
  have resolved : Program.Ensures recording.peers
      (resolve services didUrl recording.registry.issuer :
        Program (Resolved RevocationStatusList)) (some version)
      fun result after =>
        result = ofResource didUrl recording.registry.issuer
          (some (ResolvedResource.ofBody body)) ∧
        after = some version :=
    recording.resolve_finds found web read
  refine resolved.bind ?_ ?_
  · rintro error after ⟨failed, -⟩
    simp only [ofResource, ResolvedResource.ofBody, stream, ResourceContent.read,
      RevocationStatusList.ofContent_content,
      if_neg version.list.content_ne_null] at failed
    cases failed
  · rintro list after ⟨-, rfl⟩
    exact .done ⟨⟨_, rfl⟩, rfl⟩

/-- A version that is stored is held. -/
theorem holds_version {version : Version}
    (issued : version.list.issuerId = recording.registry.issuer)
    (ofRegistry : version.list.revRegDefId = recording.registry.id)
    (stamp : version.list.timestamp = some version.timestamp) :
    recording.ledger.Holds recording.registry (some version) version.list :=
  ⟨issued, ofRegistry, version.timestamp, stamp, if_pos rfl⟩

/-! ### A registry of two credentials -/

def listOf (entries : List UInt8) (accumulator : String) (timestamp : Int64) :
    RevocationStatusList :=
  ⟨"did:cheqd:testnet:a", "did:cheqd:testnet:a/resources/b", entries, accumulator, some timestamp⟩

def unrevoked : Version := ⟨100, listOf [0, 0] "f" 100, by decide +kernel⟩

/-- Peers that have recorded the list with no revocations, and those in which either credential is
revoked a second later. -/
def ofTwo : Recording .standard where
  registry := ⟨"did:cheqd:testnet:a/resources/b", "did:cheqd:testnet:a", "c"⟩
  network := "testnet"
  issued := ⟨"b", by decide +kernel⟩
  named := by decide
  url :=
    ⟨"http", some ⟨"", none, .name "localhost", some 8080⟩,
      .segments ["1.0", "identifiers", "did:cheqd:testnet:a", "resources", "b"], none, none⟩
  found := by decide +kernel
  web := by decide
  unqueried := rfl
  reply := Bytes.ofText
    (Json.obj [("contentStream", .obj [("revocDefType", .str "CL_ACCUM"), ("credDefId", .str "d"),
        ("tag", .str "e"), ("value", .null)]),
      ("contentMetadata", .obj [("resourceName", .str "c")])]).render
  body := .object [("contentStream", .object [("revocDefType", .text "CL_ACCUM"),
      ("credDefId", .text "d"), ("tag", .text "e"), ("value", .null)]),
    ("contentMetadata", .object [("resourceName", .text "c")])]
  written := by
    rw [Value.ofBytes?, Json.ofBytes?_ofText]
    decide +kernel
  definition := ⟨"did:cheqd:testnet:a/resources/b",
    ⟨"did:cheqd:testnet:a", "CL_ACCUM", "d", "e", .null⟩,
    ((Metadata.ofValue? (.object [("resourceName", .text "c")])).getD .empty)⟩
  content := by decide +kernel
  reported := by decide +kernel
  address := ⟨'h', "ttp://localhost:8080/1.0/identifiers/did:cheqd:testnet:a".toList,
    by decide +kernel, by decide, by decide +kernel, by decide +kernel⟩
  versions :=
    [unrevoked,
      ⟨101, listOf [1, 0] "g" 101, by decide +kernel⟩,
      ⟨101, listOf [0, 1] "h" 101, by decide +kernel⟩]

theorem ofTwo_holds : ofTwo.ledger.Holds ofTwo.registry (some unrevoked) unrevoked.list :=
  ofTwo.holds_version rfl rfl rfl

/-- Where the resolver has the list in force at the beginning of the epoch. -/
def listUrl : Url :=
  ⟨"http", some ⟨"", none, .name "localhost", some 8080⟩,
    .segments ["1.0", "identifiers", "did:cheqd:testnet:a"],
    some ("resourceType=anonCredsStatusList&resourceName=c" ++
      "&resourceTime=1970-01-01T00%3A00%3A00Z"), none⟩

theorem statusListUrl_ofTwo :
    statusListUrl ofTwo.registry.issuer ofTwo.registry.name 0 =
      .ok ("did:cheqd:testnet:a?resourceType=anonCredsStatusList&resourceName=c" ++
        "&resourceTime=1970-01-01T00%3A00%3A00Z") := by
  decide +kernel

theorem identifierUrl_ofTwo :
    Resolver.identifierUrl Services.standard.resolver
      ("did:cheqd:testnet:a?resourceType=anonCredsStatusList&resourceName=c" ++
        "&resourceTime=1970-01-01T00%3A00%3A00Z") = .ok listUrl := by
  decide +kernel

/-- The list without revocations is found where it is stored. -/
theorem ofTwo_finds :
    Program.Ensures ofTwo.peers (listInForce .standard ofTwo.registry.id none) (some unrevoked)
      fun result after =>
        (∃ current, result = .ok ("c", current) ∧ current.value = unrevoked.list) ∧
        after = some unrevoked := by
  obtain ⟨⟨⟨name, current⟩, ended⟩, after⟩ :=
    (ofTwo.listInForce_finds statusListUrl_ofTwo identifierUrl_ofTwo (by decide)).holds
  obtain ⟨rfl, same⟩ :=
    (listInForce_ensures ofTwo.keptBy ofTwo.serves ofTwo_holds).holds.2 _ ended
  exact ⟨⟨⟨current, ended, same⟩, after⟩⟩

/-- The list without revocations can be registered, and is stored then. -/
theorem ofTwo_registers :
    Program.Ensures ofTwo.peers (registerRevocationList .standard unrevoked.list) none
      fun result after =>
        result = .ok (registered "c" unrevoked.list ⟨none, "r", none⟩) ∧
        after = some unrevoked := by
  unfold registerRevocationList
  refine ofTwo.definition_finds.bind (by rintro error after ⟨⟨⟩, -⟩) ?_
  rintro _ after ⟨⟨⟩, rfl⟩
  simp only [Program.bind_eq, Program.monadLift_eq, ofTwo.reported, Program.ofExcept_ok_bind]
  exact ⟨by decide +kernel⟩

/-- The first credential can be revoked then. -/
theorem ofTwo_updates :
    Program.Ensures ofTwo.peers (updateRevocationList .standard ofTwo.registry.id ⟨[0], "g"⟩)
      (some unrevoked) fun result _ => ∃ registration, result = .ok registration := by
  have publishes : Program.Ensures ofTwo.peers
      (publishChange .standard "c" unrevoked.list ⟨[0], "g"⟩) (some unrevoked)
      fun result _ => result.isOk = true :=
    ⟨by decide +kernel⟩
  unfold updateRevocationList
  refine ofTwo_finds.bind (by rintro error after ⟨⟨_, ⟨⟩, -⟩, -⟩) ?_
  rintro _ after ⟨⟨current, ⟨⟩, same⟩, rfl⟩
  simp only [same]
  refine publishes.imp ?_
  rintro (error | registration) after succeeded
  · cases succeeded
  · exact ⟨registration, rfl⟩

end Recording
end DidRegistry
