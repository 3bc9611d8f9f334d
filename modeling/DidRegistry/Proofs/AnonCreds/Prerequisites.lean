import DidRegistry.Proofs.AnonCreds.Coordinates

/-!
What has to be known before an object is published. An operation of the registry first looks up what
its object refers to, and an update the list in force as well. It publishes exactly if all of this is
found and fits (`RegistryOperation.Prepared`); where something is missing, it ends in an error, with
no document sent and no call on the wallet.

Main statement: `RegistryOperation.publishes_prepared`. Its parts are exact on every exchange: each
lookup ends well on the exchanges of its specification and on no others (`resolve_traces_ok`,
`get_traces_ok`, `seek_traces_ok`, `lookup_traces_ok`), and since no run is the beginning of another
(`Program.Traces.eq_of_begins`), these exchanges settle what follows.
-/

namespace DidRegistry

/-- A call that asks a resolver, or the clock. -/
def Call.isLookup : Call → Bool
  | .fetch request => request.body.isNone
  | .clock => true
  | .createKey _ | .assignKid _ _ | .sign _ => false

theorem Call.isQuiet_of_isLookup {call : Call} (lookup : call.isLookup = true) :
    call.isQuiet = true := by
  cases call with
  | fetch request => exact lookup
  | clock => rfl
  | createKey seed => cases lookup
  | assignKid verkey kid => cases lookup
  | sign requests => cases lookup

/-- A run that posts something submits it. -/
theorem submits_of_posted? {exchanges : List Exchange} {slot : Slot}
    (posts : posted? exchanges = some slot) : Submits exchanges := by
  obtain ⟨document, first, -⟩ := Option.bind_eq_some_iff.mp posts
  obtain ⟨exchange, member, sent⟩ := List.exists_of_findSome?_eq_some first
  refine ⟨exchange, member, ?_⟩
  rw [Exchange.isSubmission, sent]
  rfl

/-- Lookups submit nothing. -/
theorem not_submits_of_isLookup {exchanges : List Exchange}
    (lookups : ∀ exchange ∈ exchanges, exchange.call.isLookup = true) : ¬ Submits exchanges := by
  rintro ⟨exchange, member, sent⟩
  have quiet := Call.isQuiet_of_isLookup (lookups exchange member)
  rw [Exchange.isSubmission_of_isQuiet quiet] at sent
  cases sent

theorem submits_append {before after : List Exchange} :
    Submits (before ++ after) ↔ Submits before ∨ Submits after := by
  simp only [Submits, List.mem_append, or_and_right, exists_or]

namespace AnonCreds

variable {services : Services}

-- What a lookup does is said by `lookup_traces_ok`; nothing here looks into one.
attribute [local irreducible] Resolver.lookup

/-! ### Lookups of objects -/

section Lookups

variable {α : Type} [ResourceContent α]

/-- The exchanges of a lookup that brings an object: one request, replied to with a status of success
and a JSON body, whose resource has content and reads as the object. -/
def Fetches (services : Services) (didUrl issuer : String) (exchanges : List Exchange)
    (object : Resolved α) : Prop :=
  ∃ url reply body, Resolver.identifierUrl services.resolver didUrl = .ok url ∧
    exchanges = [⟨.fetch (Resolver.inquiry url Resolver.dereferencingForm), .replied reply⟩] ∧
    (200 ≤ reply.status ∧ reply.status < 300) ∧ Value.ofBytes? reply.body = some body ∧
    (ResolvedResource.ofBody body).resource ≠ Value.null ∧
    ResourceContent.read issuer (ResolvedResource.ofBody body).resource = .ok object.value ∧
    object.id = didUrl ∧ object.metadata = (ResolvedResource.ofBody body).metadata

/-- The exchanges of a lookup of an identifier that brings an object of the issuer named there. -/
def Finds (services : Services) (id : String) (exchanges : List Exchange) (object : Resolved α) :
    Prop :=
  ∃ issuer resource, Identifier.split id = .ok (issuer, resource) ∧
    Fetches services id issuer exchanges object

/-- A resolution ends well on these exchanges, and on no others. -/
theorem resolve_traces_ok (web : Resolver.AsksWeb services.resolver)
    {didUrl issuer : String} {exchanges : List Exchange} {object : Resolved α} :
    (resolve services didUrl issuer).Traces exchanges (.ok object) ↔
      Fetches services didUrl issuer exchanges object := by
  have sequence : resolve services didUrl issuer =
      (Resolver.lookup services.resolver Resolver.dereferencingForm didUrl).bind fun body =>
        .ofExcept (ofResource didUrl issuer (body.map ResolvedResource.ofBody) :
          Except Error (Resolved α)) := by
    unfold resolve Resolver.dereference
    simp only [Program.bind_eq, Program.bind_assoc]
    rfl
  rw [sequence, Program.bind_ofExcept_traces]
  constructor
  · rintro ⟨found, looked, read⟩
    cases found with
    | error error => cases read
    | ok found =>
        obtain ⟨url, reply, identified, -, made, brought⟩ := Resolver.lookup_traces_ok.mp looked
        cases found with
        | none => cases read
        | some body =>
            obtain ⟨status, json⟩ := Resolver.body?_eq_some_iff.mp brought
            obtain ⟨content, named, metadata, value⟩ := ofResource_some_eq_ok_iff.mp read.symm
            exact ⟨url, reply, body, identified, made, status, json, content, value, named,
              metadata⟩
  · rintro ⟨url, reply, body, identified, made, status, json, content, value, named, metadata⟩
    refine ⟨.ok (some body), Resolver.lookup_traces_ok.mpr
      ⟨url, reply, identified, web didUrl url identified, made, ?_⟩, ?_⟩
    · exact Resolver.body?_eq_some_iff.mpr ⟨status, json⟩
    · exact (ofResource_some_eq_ok_iff.mpr ⟨content, named, metadata, value⟩).symm

/-- A lookup of an identifier ends well on these exchanges, and on no others. -/
theorem get_traces_ok (web : Resolver.AsksWeb services.resolver)
    {id : String} {exchanges : List Exchange} {object : Resolved α} :
    (get services id).Traces exchanges (.ok object) ↔ Finds services id exchanges object := by
  have sequence : get services id = (Program.ofExcept (Identifier.split id)).bind fun parts =>
      (resolve services id parts.1 : Program (Resolved α)) := rfl
  rw [sequence, Program.ofExcept_bind_traces_ok]
  constructor
  · rintro ⟨⟨issuer, resource⟩, split, resolved⟩
    exact ⟨issuer, resource, split, (resolve_traces_ok web).mp resolved⟩
  · rintro ⟨issuer, resource, split, fetched⟩
    exact ⟨(issuer, resource), split, (resolve_traces_ok web).mpr fetched⟩

/-- A resource that was published under a name. -/
def Named (metadata : Metadata) (name : String) : Prop :=
  metadata.text? "resourceName" = some name ∧ name ≠ ""

/-- What follows the name of an object ends well if the object is found and has a name. -/
theorem name_bind_traces_ok (web : Resolver.AsksWeb services.resolver) {β : Type}
    {id : String} {next : String → Program β} {exchanges : List Exchange} {value : β} :
    ((get services id).bind fun object : Resolved α =>
        (Program.ofExcept (resourceName object.metadata object.id)).bind next).Traces exchanges
          (.ok value) ↔
      ∃ object : Resolved α, ∃ asking rest name, exchanges = asking ++ rest ∧
        Finds services id asking object ∧ Named object.metadata name ∧
        (next name).Traces rest (.ok value) := by
  rw [Program.bind_traces_ok]
  constructor
  · rintro ⟨asking, rest, object, rfl, got, told⟩
    obtain ⟨name, named, followed⟩ := Program.ofExcept_bind_traces_ok.mp told
    exact ⟨object, asking, rest, name, rfl, (get_traces_ok web).mp got,
      resourceName_eq_ok_iff.mp named, followed⟩
  · rintro ⟨object, asking, rest, name, rfl, found, named, followed⟩
    exact ⟨asking, rest, object, rfl, (get_traces_ok web).mpr found,
      Program.ofExcept_bind_traces_ok.mpr ⟨name, resourceName_eq_ok_iff.mpr named, followed⟩⟩

/-- The requests of a lookup: one for the identifier, if it can be taken apart. -/
def AsksFor (services : Services) (id : String) (requests : List HttpRequest) : Prop :=
  (∃ parts url, Identifier.split id = .ok parts ∧
    Resolver.identifierUrl services.resolver id = .ok url ∧
    requests = [Resolver.inquiry url Resolver.dereferencingForm]) ∨
  ((∀ parts, Identifier.split id ≠ .ok parts) ∧ requests = [])

/-- A program that makes no other call than to look at the clock. -/
def IsSilent {β : Type} (program : Program β) : Prop :=
  program.Within (fun call => call = .clock) fun _ => True

theorem IsSilent.inquiries_eq {β : Type} {program : Program β} (silent : IsSilent program)
    {exchanges : List Exchange} {result : Except Error β}
    (trace : program.Traces exchanges result) : inquiries exchanges = [] := by
  refine List.filterMap_eq_nil_iff.mpr ?_
  rintro ⟨call, answer⟩ member
  cases (Program.Within.of_traces silent trace).1 _ member
  rfl

theorem timeOrNow_isSilent (timestamp : Option Int64) : IsSilent (timeOrNow timestamp) := by
  refine timeOrNow_within ?_ timestamp
  rfl

/-- A lookup of an identifier asks for it. -/
theorem asksFor_of_get (reachable : Resolver.IsReachable services.resolver) {id : String}
    {exchanges : List Exchange} {result : Except Error (Resolved α)}
    (trace : (get services id).Traces exchanges result) :
    AsksFor services id (inquiries exchanges) := by
  rcases get_traces trace with
    ⟨unasked, rfl, -⟩ | ⟨issuer, resource, url, delivery, split, sent, rfl, -⟩
  · obtain ⟨url, identified, web⟩ := reachable id
    refine Or.inr ⟨?_, rfl⟩
    intro parts split
    exact unasked parts.1 parts.2 _ split (Resolver.request?_eq_some _ identified web)
  · have identified := Resolver.identifierUrl_of_request? sent
    exact Or.inl ⟨(issuer, resource), url, split, identified, rfl⟩

/-- Nothing more is asked for if what follows is silent. -/
theorem asksFor_of_get_bind (reachable : Resolver.IsReachable services.resolver)
    {β : Type} {id : String} {next : Resolved α → Program β}
    (silent : ∀ object, IsSilent (next object)) {exchanges : List Exchange}
    {result : Except Error β} (trace : ((get services id).bind next).Traces exchanges result) :
    AsksFor services id (inquiries exchanges) := by
  rcases Program.bind_traces.mp trace with
    ⟨error, got, -⟩ | ⟨before, after, object, rfl, got, followed⟩
  · exact asksFor_of_get reachable got
  · rw [inquiries_append, (silent object).inquiries_eq followed, List.append_nil]
    exact asksFor_of_get reachable got

end Lookups

/-! ### The list in force -/

/-- What the list in force is asked for with. -/
structure Query where
  name : String
  issuer : String
  epoch : Int64
  didUrl : String

/-- What has to be known to ask for the list in force. -/
def seek (services : Services) (registryId : String) : Program Query :=
  (registryName services registryId).bind fun name =>
    (Program.ofExcept (Identifier.split registryId)).bind fun parts =>
      (timeOrNow none).bind fun epoch =>
        (Program.ofExcept (statusListUrl parts.1 name epoch)).bind fun didUrl =>
          .done ⟨name, parts.1, epoch, didUrl⟩

theorem listInForce_eq_seek (registryId : String) :
    listInForce services registryId none = (seek services registryId).bind fun query =>
      (resolve services query.didUrl query.issuer).bind fun resolved =>
        .done (query.name, placed registryId query.epoch resolved) := by
  rw [listInForce_eq_registryName, seek]
  simp only [Program.bind_assoc]
  rfl

/-- The exchanges after which the list in force can be asked for: the definition of its registry has
been found, under a name, and the time on the clock can be written. -/
def Seeks (services : Services) (registryId : String) (exchanges : List Exchange) (query : Query) :
    Prop :=
  ∃ resource asking time, ∃ definition : Resolved RevocationRegistryDefinition,
    exchanges = asking ++ [⟨.clock, query.epoch⟩] ∧
    Identifier.split registryId = .ok (query.issuer, resource) ∧
    Fetches services registryId query.issuer asking definition ∧
    Named definition.metadata query.name ∧
    Calendar.timestamp? query.epoch.toInt = some time ∧
    query.didUrl = query.issuer ++ "?" ++ statusListQuery query.name time

theorem Seeks.written {registryId : String} {exchanges : List Exchange} {query : Query}
    (sought : Seeks services registryId exchanges query) :
    ∃ time, Calendar.timestamp? query.epoch.toInt = some time := by
  obtain ⟨_, _, time, _, -, -, -, -, written, -⟩ := sought
  exact ⟨time, written⟩

/-- A list that is fetched is one of the issuer whom it is looked up for. -/
theorem Fetches.issuerId {didUrl issuer : String} {exchanges : List Exchange}
    {list : Resolved RevocationStatusList}
    (fetched : Fetches services didUrl issuer exchanges list) : list.value.issuerId = issuer := by
  obtain ⟨_, _, _, -, -, -, -, -, value, -⟩ := fetched
  exact read_issuerId value

theorem statusListUrl_eq_ok_iff {issuer name didUrl : String} {epoch : Int64} :
    statusListUrl issuer name epoch = .ok didUrl ↔
      ∃ time, Calendar.timestamp? epoch.toInt = some time ∧
        didUrl = issuer ++ "?" ++ statusListQuery name time := by
  unfold statusListUrl
  cases Calendar.timestamp? epoch.toInt with
  | none => simp
  | some time => simp [eq_comm]

/-- The list in force can be asked for after these exchanges, and after no others. -/
theorem seek_traces_ok (web : Resolver.AsksWeb services.resolver) {registryId : String}
    {exchanges : List Exchange} {query : Query} :
    (seek services registryId).Traces exchanges (.ok query) ↔
      Seeks services registryId exchanges query := by
  unfold seek registryName getRevocationRegistryDefinition
  rw [Program.bind_assoc, name_bind_traces_ok web]
  constructor
  · rintro ⟨definition, asking, rest, name, rfl, ⟨issuer, resource, split, fetched⟩, named, sought⟩
    obtain ⟨_, also, timing⟩ := Program.ofExcept_bind_traces_ok.mp sought
    cases split.symm.trans also
    obtain ⟨clock, _, epoch, rfl, read, queried⟩ := Program.bind_traces_ok.mp timing
    obtain ⟨didUrl, url, rfl, ⟨⟩⟩ := Program.ofExcept_bind_traces_ok.mp queried
    obtain ⟨time, written, same⟩ := statusListUrl_eq_ok_iff.mp url
    obtain rfl := timeOrNow_traces_ok.mp read
    exact ⟨resource, asking, time, definition, rfl, split, fetched, named, written, same⟩
  · obtain ⟨name, issuer, epoch, didUrl⟩ := query
    rintro ⟨resource, asking, time, definition, rfl, split, fetched, named, written, same⟩
    refine ⟨definition, asking, [⟨.clock, epoch⟩], name, rfl, ⟨issuer, resource, split, fetched⟩,
      named, ?_⟩
    refine Program.ofExcept_bind_traces_ok.mpr ⟨(issuer, resource), split, ?_⟩
    refine Program.bind_traces_ok.mpr ⟨[⟨.clock, epoch⟩], [], epoch, rfl,
      timeOrNow_traces_ok.mpr rfl, ?_⟩
    exact Program.ofExcept_bind_traces_ok.mpr
      ⟨didUrl, statusListUrl_eq_ok_iff.mpr ⟨time, written, same⟩, rfl, rfl⟩

/-- The timestamp of a list that is handed on can be advanced if that of the list can: a time that
can be written is not the last. -/
theorem placed_timestamp_ne {registryId : String} {epoch : Int64} {time : String}
    {list : Resolved RevocationStatusList}
    (written : Calendar.timestamp? epoch.toInt = some time) :
    (placed registryId epoch list).value.timestamp ≠ some Int64.maxValue ↔
      list.value.timestamp ≠ some Int64.maxValue := by
  have early : epoch ≠ Int64.maxValue := by
    rintro rfl
    have last : Calendar.timestamp? Int64.maxValue.toInt = none := by decide
    rw [last] at written
    cases written
  unfold placed
  cases list.value.timestamp with
  | none => simp [early]
  | some timestamp => simp

/-! ### Operations -/

/-- A DID that names its network. -/
def HasNetwork (did : String) : Prop := ∃ network, Identifier.network did = .ok network

namespace RegistryOperation

/-- The exchanges after which an operation has all that it needs to publish. -/
def Prepared (services : Services) : RegistryOperation → List Exchange → Prop
  | .registerSchema schema, exchanges => exchanges = [] ∧ HasNetwork schema.issuerId
  | .registerCredentialDefinition definition, exchanges =>
      (∃ schema : Resolved Schema, Finds services definition.schemaId exchanges schema) ∧
        HasNetwork definition.issuerId
  | .registerRevocationRegistryDefinition definition, exchanges =>
      (∃ credentials : Resolved CredentialDefinition, ∃ name,
        Finds services definition.credDefId exchanges credentials ∧
        Named credentials.metadata name) ∧
        HasNetwork definition.issuerId
  | .registerRevocationList list, exchanges =>
      (∃ definition : Resolved RevocationRegistryDefinition, ∃ asking timing name epoch,
        exchanges = asking ++ timing ∧ Finds services list.revRegDefId asking definition ∧
        Named definition.metadata name ∧ Reads list.timestamp timing epoch) ∧
        HasNetwork list.issuerId
  | .updateRevocationList registryId update, exchanges =>
      ∃ list : Resolved RevocationStatusList, ∃ seeking asking query now,
        exchanges = seeking ++ asking ++ [⟨.clock, now⟩] ∧
        Seeks services registryId seeking query ∧
        Fetches services query.didUrl query.issuer asking list ∧
        (∀ index ∈ update.revoked, index.toNat < list.value.revocationList.length) ∧
        list.value.timestamp ≠ some Int64.maxValue ∧ HasNetwork query.issuer

/-- What an operation asks the resolver: what its object refers to, and for an update the list in
force, once this can be asked for. -/
def Asks (services : Services) : RegistryOperation → List Exchange → Prop
  | .registerSchema _, exchanges => inquiries exchanges = []
  | .registerCredentialDefinition definition, exchanges =>
      AsksFor services definition.schemaId (inquiries exchanges)
  | .registerRevocationRegistryDefinition definition, exchanges =>
      AsksFor services definition.credDefId (inquiries exchanges)
  | .registerRevocationList list, exchanges =>
      AsksFor services list.revRegDefId (inquiries exchanges)
  | .updateRevocationList registryId _, exchanges =>
      (AsksFor services registryId (inquiries exchanges) ∧
        ∀ seeking query, seeking <+: exchanges → ¬ Seeks services registryId seeking query) ∨
      ∃ seeking query url first, seeking <+: exchanges ∧ Seeks services registryId seeking query ∧
        Resolver.identifierUrl services.resolver query.didUrl = .ok url ∧
        AsksFor services registryId [first] ∧
        inquiries exchanges = [first, Resolver.inquiry url Resolver.dereferencingForm]

/-- The version that an update makes of a list. -/
def revise (name : String) (list : RevocationStatusList) (update : RevListUpdate) :
    Program (Publication RevocationStatusList) :=
  (Program.ofExcept (list.revoke update.revoked)).bind fun revoked =>
    Program.now.bind fun now =>
      (Program.ofExcept (revoked.nextTimestamp now)).bind fun timestamp =>
        .done ⟨.update, name, listVersion timestamp, RevocationStatusList.changed revoked update
          timestamp⟩

/-- A version is made of a list after the clock has been read, if the list has all entries to be
revoked and its timestamp can be advanced. -/
theorem exists_revise_traces_ok {name : String} {list : RevocationStatusList}
    {update : RevListUpdate} {exchanges : List Exchange} :
    (∃ publication, (revise name list update).Traces exchanges (.ok publication) ∧
      HasNetwork (ResourceContent.issuerId publication.value)) ↔
    (∃ now, exchanges = [⟨.clock, now⟩]) ∧
      (∀ index ∈ update.revoked, index.toNat < list.revocationList.length) ∧
      list.timestamp ≠ some Int64.maxValue ∧ HasNetwork list.issuerId := by
  constructor
  · rintro ⟨_, revised, named⟩
    obtain ⟨revoked, revokes, timing⟩ := Program.ofExcept_bind_traces_ok.mp revised
    obtain ⟨now, _, rfl, advancing⟩ := timing
    obtain ⟨timestamp, advanced, rfl, ⟨⟩⟩ := Program.ofExcept_bind_traces_ok.mp advancing
    obtain ⟨inside, rfl⟩ := RevocationStatusList.revoke_eq_ok_iff.mp revokes
    have stamp := RevocationStatusList.exists_nextTimestamp_iff.mp ⟨timestamp, advanced⟩
    exact ⟨⟨now, rfl⟩, inside, stamp, named⟩
  · rintro ⟨⟨now, rfl⟩, inside, stamp, named⟩
    let revoked : RevocationStatusList := { list with
      revocationList :=
        update.revoked.foldl (fun entries index => entries.set index.toNat 1) list.revocationList }
    have revokes : list.revoke update.revoked = .ok revoked :=
      RevocationStatusList.revoke_eq_ok_iff.mpr ⟨inside, rfl⟩
    have also : revoked.timestamp ≠ some Int64.maxValue := stamp
    have advances : ∃ next, revoked.nextTimestamp now = .ok next :=
      RevocationStatusList.exists_nextTimestamp_iff.mpr also
    obtain ⟨timestamp, advanced⟩ := advances
    refine ⟨⟨.update, name, listVersion timestamp, revoked.changed update timestamp⟩, ?_, named⟩
    refine Program.ofExcept_bind_traces_ok.mpr ⟨revoked, revokes, now, [], rfl, ?_⟩
    exact Program.ofExcept_bind_traces_ok.mpr ⟨timestamp, advanced, rfl, rfl⟩

/-- The lookup of an update in three steps. -/
def revision (services : Services) (registryId : String) (update : RevListUpdate) :
    Program (Publication RevocationStatusList) :=
  (seek services registryId).bind fun query =>
    (resolve services query.didUrl query.issuer).bind fun list =>
      revise query.name (placed registryId query.epoch list).value update

theorem lookup_update_eq (registryId : String) (update : RevListUpdate) :
    (updateRevocationList registryId update).lookup services =
      revision services registryId update := by
  rw [lookup, listInForce_eq_seek, revision]
  simp only [Program.bind_assoc]
  rfl

/-- An update is prepared by the exchanges on which its three steps end well. -/
theorem prepared_update_iff (web : Resolver.AsksWeb services.resolver)
    {registryId : String} {update : RevListUpdate} {exchanges : List Exchange} :
    (updateRevocationList registryId update).Prepared services exchanges ↔ ∃ publication,
      (revision services registryId update).Traces exchanges (.ok publication) ∧
      HasNetwork (ResourceContent.issuerId publication.value) := by
  constructor
  · rintro ⟨list, seeking, asking, query, now, rfl, sought, fetched, inside, stamp, named⟩
    obtain ⟨time, written⟩ := sought.written
    have handed : (placed registryId query.epoch list).value.timestamp ≠ some Int64.maxValue :=
      (placed_timestamp_ne written).mpr stamp
    have issued : HasNetwork (placed registryId query.epoch list).value.issuerId := by
      rw [← fetched.issuerId] at named
      exact named
    have revises : ∃ publication,
        (revise query.name (placed registryId query.epoch list).value update).Traces
          [⟨.clock, now⟩] (.ok publication) ∧
        HasNetwork (ResourceContent.issuerId publication.value) :=
      exists_revise_traces_ok.mpr ⟨⟨now, rfl⟩, inside, handed, issued⟩
    obtain ⟨publication, revised, network⟩ := revises
    refine ⟨publication, Program.bind_traces_ok.mpr ⟨seeking, asking ++ [⟨.clock, now⟩], query,
      List.append_assoc .., (seek_traces_ok web).mpr sought, ?_⟩, network⟩
    exact Program.bind_traces_ok.mpr
      ⟨asking, [⟨.clock, now⟩], list, rfl, (resolve_traces_ok web).mpr fetched, revised⟩
  · rintro ⟨publication, traces, network⟩
    obtain ⟨seeking, _, query, rfl, seeks, finding⟩ := Program.bind_traces_ok.mp traces
    obtain ⟨asking, rest, list, rfl, resolved, revised⟩ := Program.bind_traces_ok.mp finding
    have sought := (seek_traces_ok web).mp seeks
    have fetched := (resolve_traces_ok web).mp resolved
    obtain ⟨⟨now, rfl⟩, inside, handed, issued⟩ :=
      exists_revise_traces_ok.mp ⟨publication, revised, network⟩
    obtain ⟨time, written⟩ := sought.written
    refine ⟨list, seeking, asking, query, now, (List.append_assoc ..).symm, sought, fetched, inside,
      (placed_timestamp_ne written).mp handed, ?_⟩
    rw [← fetched.issuerId]
    exact issued

/-- An operation is prepared by the exchanges on which its lookup ends well, if its issuer names a
network. -/
theorem prepared_iff (web : Resolver.AsksWeb services.resolver)
    (operation : RegistryOperation) {exchanges : List Exchange} :
    operation.Prepared services exchanges ↔ ∃ publication,
      (operation.lookup services).Traces exchanges (.ok publication) ∧
      HasNetwork (ResourceContent.issuerId publication.value) := by
  cases operation with
  | registerSchema schema =>
      constructor
      · rintro ⟨rfl, named⟩
        exact ⟨_, ⟨rfl, rfl⟩, named⟩
      · rintro ⟨_, ⟨rfl, ⟨⟩⟩, named⟩
        exact ⟨rfl, named⟩
  | registerCredentialDefinition definition =>
      simp only [lookup, getSchema, Program.bind_traces_ok, get_traces_ok web]
      constructor
      · rintro ⟨⟨schema, found⟩, named⟩
        exact ⟨_, ⟨exchanges, [], schema, (List.append_nil _).symm, found, rfl, rfl⟩, named⟩
      · rintro ⟨_, ⟨_, _, schema, rfl, found, rfl, ⟨⟩⟩, named⟩
        rw [List.append_nil]
        exact ⟨⟨schema, found⟩, named⟩
  | registerRevocationRegistryDefinition definition =>
      simp only [lookup, getCredentialDefinition, name_bind_traces_ok web]
      constructor
      · rintro ⟨⟨credentials, name, found, told⟩, named⟩
        exact ⟨_, ⟨credentials, exchanges, [], name, (List.append_nil _).symm, found, told, rfl, rfl⟩,
          named⟩
      · rintro ⟨_, ⟨credentials, _, _, name, rfl, found, told, rfl, ⟨⟩⟩, named⟩
        rw [List.append_nil]
        exact ⟨⟨credentials, name, found, told⟩, named⟩
  | registerRevocationList list =>
      simp only [lookup, getRevocationRegistryDefinition, name_bind_traces_ok web,
        Program.bind_traces_ok, timeOrNow_traces_ok]
      constructor
      · rintro ⟨⟨definition, asking, timing, name, epoch, rfl, found, told, read⟩, named⟩
        exact ⟨_, ⟨definition, asking, timing, name, rfl, found, told, timing, [], epoch,
          (List.append_nil _).symm, read, rfl, rfl⟩, named⟩
      · rintro ⟨_, ⟨definition, asking, _, name, rfl, found, told, timing, _, epoch, rfl, read, rfl,
          ⟨⟩⟩, named⟩
        rw [List.append_nil]
        exact ⟨⟨definition, asking, timing, name, epoch, rfl, found, told, read⟩, named⟩
  | updateRevocationList registryId update =>
      rw [lookup_update_eq]
      exact prepared_update_iff web

/-! ### Questions -/

/-- Before it publishes, an operation asks the resolver and the clock only. -/
theorem isLookup_of_traces (operation : RegistryOperation) {exchanges : List Exchange}
    {found : Except Error (Publication operation.Object)}
    (looked : (operation.lookup services).Traces exchanges found) :
    ∀ exchange ∈ exchanges, exchange.call.isLookup = true := by
  have within : (operation.lookup services).Within (fun call => call.isLookup = true)
      fun _ => True := by
    refine lookup_within (fun _ _ _ => rfl) ?_ operation
    rfl
  exact (within.of_traces looked).1

/-- What is looked up before the list in force asks for its registry. -/
theorem asksFor_of_seek (reachable : Resolver.IsReachable services.resolver)
    {registryId : String} {exchanges : List Exchange} {result : Except Error Query}
    (trace : (seek services registryId).Traces exchanges result) :
    AsksFor services registryId (inquiries exchanges) := by
  unfold seek registryName getRevocationRegistryDefinition at trace
  rw [Program.bind_assoc] at trace
  refine asksFor_of_get_bind reachable ?_ trace
  intro definition
  exact .ofExcept_bind (fun _ _ => trivial) fun _ _ => .ofExcept_bind (fun _ _ => trivial) fun _ _ =>
    .bind (timeOrNow_isSilent none) fun _ => .ofExcept_bind (fun _ _ => trivial) fun _ _ => .done _

theorem revise_isSilent (name : String) (list : RevocationStatusList) (update : RevListUpdate) :
    IsSilent (revise name list update) :=
  .ofExcept_bind (fun _ _ => trivial) fun _ _ => .bind (timeOrNow_isSilent none) fun _ =>
    .ofExcept_bind (fun _ _ => trivial) fun _ _ => .done _

/-- Once the list in force can be asked for, an update asks for it. -/
theorem inquiries_of_resolve_revise (reachable : Resolver.IsReachable services.resolver)
    {registryId : String} {query : Query} {update : RevListUpdate} {exchanges : List Exchange}
    {result : Except Error (Publication RevocationStatusList)}
    (trace : ((resolve services query.didUrl query.issuer).bind fun list =>
      revise query.name (placed registryId query.epoch list).value update).Traces exchanges
        result) :
    ∃ url, Resolver.identifierUrl services.resolver query.didUrl = .ok url ∧
      inquiries exchanges = [Resolver.inquiry url Resolver.dereferencingForm] := by
  obtain ⟨url, identified, web⟩ := reachable query.didUrl
  have request := Resolver.request?_eq_some Resolver.dereferencingForm identified web
  refine ⟨url, identified, ?_⟩
  have asks : ∀ {before : List Exchange} {found : Except Error (Resolved RevocationStatusList)},
      (resolve services query.didUrl query.issuer).Traces before found →
      inquiries before = [Resolver.inquiry url Resolver.dereferencingForm] := by
    intro before found resolved
    rcases resolve_traces resolved with ⟨unasked, -⟩ | ⟨other, delivery, asked, rfl, -⟩
    · cases request.symm.trans unasked
    · cases request.symm.trans asked
      rfl
  rcases Program.bind_traces.mp trace with
    ⟨error, resolved, -⟩ | ⟨before, after, list, rfl, resolved, revised⟩
  · exact asks resolved
  · rw [inquiries_append, (revise_isSilent _ _ _).inquiries_eq revised, List.append_nil]
    exact asks resolved

/-- An update asks for its registry, and for the list in force once this can be asked for. -/
theorem asks_of_revision_traces (web : Resolver.AsksWeb services.resolver)
    (reachable : Resolver.IsReachable services.resolver) {registryId : String}
    {update : RevListUpdate} {exchanges : List Exchange}
    {result : Except Error (Publication RevocationStatusList)}
    (trace : (revision services registryId update).Traces exchanges result) :
    (updateRevocationList registryId update).Asks services exchanges := by
  rcases Program.bind_traces.mp trace with
    ⟨error, sought, -⟩ | ⟨seeking, after, query, rfl, sought, followed⟩
  -- The list in force cannot be asked for after any of the exchanges.
  · refine Or.inl ⟨asksFor_of_seek reachable sought, ?_⟩
    intro seeking query starts seeks
    have ended := ((seek_traces_ok web).mpr seeks).eq_of_begins sought starts
    cases ended.2
  · have seeks := (seek_traces_ok web).mp sought
    obtain ⟨url, identified, questions⟩ := inquiries_of_resolve_revise reachable followed
    rcases asksFor_of_seek reachable sought with
      ⟨parts, place, split, found, made⟩ | ⟨unsplit, -⟩
    · refine Or.inr ⟨seeking, query, url, Resolver.inquiry place Resolver.dereferencingForm,
        List.prefix_append .., seeks, identified, Or.inl ⟨parts, place, split, found, rfl⟩, ?_⟩
      rw [inquiries_append, made, questions]
      rfl
    · obtain ⟨resource, _, _, _, -, split, -⟩ := seeks
      exact absurd split (unsplit _)

/-- An operation asks for what its object refers to, and an update for the list in force. -/
theorem asks_of_traces (web : Resolver.AsksWeb services.resolver)
    (reachable : Resolver.IsReachable services.resolver) (operation : RegistryOperation)
    {exchanges : List Exchange}
    {result : Except Error (Publication operation.Object)}
    (trace : (operation.lookup services).Traces exchanges result) :
    operation.Asks services exchanges := by
  cases operation with
  | registerSchema schema =>
      obtain ⟨rfl, -⟩ := trace
      rfl
  | registerCredentialDefinition definition =>
      exact asksFor_of_get_bind reachable (fun _ => .done _) trace
  | registerRevocationRegistryDefinition definition =>
      refine asksFor_of_get_bind reachable ?_ trace
      intro credentials
      exact .ofExcept_bind (fun _ _ => trivial) fun _ _ => .done _
  | registerRevocationList list =>
      refine asksFor_of_get_bind reachable ?_ trace
      intro definition
      exact .ofExcept_bind (fun _ _ => trivial) fun _ _ =>
        .bind (timeOrNow_isSilent list.timestamp) fun _ => .done _
  | updateRevocationList registryId update =>
      rw [lookup_update_eq] at trace
      exact asks_of_revision_traces web reachable trace

/-- A resolver whose own URL is not read from its text is not asked at all. -/
theorem inquiries_of_not_isReadable {settings : Settings}
    (usable : Services.ofSettings settings = .ok services)
    (web : services.resolver.isWeb = true) (unreadable : ¬ services.resolver.IsReadable)
    (operation : RegistryOperation) {exchanges : List Exchange}
    {result : Except Error (Publication operation.Object)}
    (trace : (operation.lookup services).Traces exchanges result) : inquiries exchanges = [] := by
  have silent : IsSilent (operation.lookup services) := by
    refine lookup_within ?_ ?_ operation
    · intro id url identified
      obtain ⟨reason, missing⟩ := Resolver.unasked_of_not_isReadable usable web unreadable id
      cases identified.symm.trans missing
    · rfl
  exact silent.inquiries_eq trace

/-! ### Publications -/

/-- A publication submits something if its issuer names a network, and is an error without exchange
if not. -/
theorem submits_publication {settings : Settings} {α : Type} [ResourceContent α]
    {publication : Publication α} {exchanges : List Exchange}
    {result : Except Error (RegistrationResult α)}
    (usable : Services.ofSettings settings = .ok services)
    (web : services.registrar.isWeb = true)
    (trace : (publication.program services).Traces exchanges result) :
    (HasNetwork (ResourceContent.issuerId publication.value) ∧ Submits exchanges) ∨
      (¬ HasNetwork (ResourceContent.issuerId publication.value) ∧ exchanges = [] ∧
        ∃ error, result = .error error) := by
  by_cases named : HasNetwork (ResourceContent.issuerId publication.value)
  · obtain ⟨network, names⟩ := named
    exact Or.inl ⟨⟨network, names⟩, submits_of_posted? (posted?_publish usable web names trace)⟩
  · refine Or.inr ⟨named, ?_⟩
    rcases publish_traces trace with ended | ⟨network, _, _, _, names, -⟩
    · exact ended
    · exact absurd ⟨network, names⟩ named

/-- An operation publishes if it is prepared, and is otherwise an error. All requests to the
resolver come first and are those that the operation has to make; a resolver whose own URL is not
read from its text gets none. Then a document is sent if what they have brought is all that is
needed: every object that is referred to is found, of the kind expected and under a name where one
is taken, and an update fits the list. If not, nothing more is done. -/
theorem publishes_prepared {σ : Type} {settings : Settings}
    (usable : Services.ofSettings settings = .ok services)
    (registrarWeb : services.registrar.isWeb = true)
    (resolverWeb : services.resolver.isWeb = true)
    (operation : RegistryOperation) (surroundings : Surroundings σ) (state : σ) :
    ∃ before after,
      ((operation.program services).run surroundings state).exchanges = before ++ after ∧
      (∀ exchange ∈ before, exchange.call.isLookup = true) ∧ inquiries after = [] ∧
      (services.resolver.IsReadable → operation.Asks services before) ∧
      (¬ services.resolver.IsReadable → inquiries before = []) ∧
      (Submits ((operation.program services).run surroundings state).exchanges ↔
        operation.Prepared services before) ∧
      (¬ operation.Prepared services before → after = [] ∧
        ∃ error, ((operation.program services).run surroundings state).result = .error error) := by
  have web := Resolver.asksWeb_of_isWeb usable resolverWeb
  have asks : ∀ {exchanges : List Exchange} {found : Except Error (Publication operation.Object)},
      (operation.lookup services).Traces exchanges found → services.resolver.IsReadable →
      operation.Asks services exchanges := by
    intro exchanges found looked readable
    exact asks_of_traces web (Resolver.isReachable_of_isReadable usable resolverWeb readable)
      operation looked
  have mute : ∀ {exchanges : List Exchange} {found : Except Error (Publication operation.Object)},
      (operation.lookup services).Traces exchanges found → ¬ services.resolver.IsReadable →
      inquiries exchanges = [] := by
    intro exchanges found looked unreadable
    exact inquiries_of_not_isReadable usable resolverWeb unreadable operation looked
  have trace := Program.run_traces surroundings (operation.program services) state
  generalize ((operation.program services).run surroundings state).exchanges = exchanges at trace ⊢
  generalize ((operation.program services).run surroundings state).result = result at trace ⊢
  rw [program_eq_lookup] at trace
  rcases Program.bind_traces.mp trace with
    ⟨error, failed, rfl⟩ | ⟨before, after, publication, rfl, found, published⟩
  · have looks := operation.isLookup_of_traces failed
    have unprepared : ¬ operation.Prepared services exchanges := by
      intro prepared
      obtain ⟨publication, ends, -⟩ := (prepared_iff web operation).mp prepared
      cases (ends.eq_of_begins failed (List.prefix_refl _)).2
    exact ⟨exchanges, [], (List.append_nil _).symm, looks, rfl, asks failed, mute failed,
      iff_of_false (not_submits_of_isLookup looks) unprepared, fun _ => ⟨rfl, error, rfl⟩⟩
  · have looks := operation.isLookup_of_traces found
    refine ⟨before, after, rfl, looks, inquiries_publish published, asks found, mute found, ?_⟩
    rcases submits_publication usable registrarWeb published with
      ⟨named, sent⟩ | ⟨unnamed, rfl, error, rfl⟩
    · have prepared := (prepared_iff web operation).mpr ⟨publication, found, named⟩
      exact ⟨iff_of_true (submits_append.mpr (Or.inr sent)) prepared,
        fun unprepared => absurd prepared unprepared⟩
    · have unprepared : ¬ operation.Prepared services before := by
        intro prepared
        obtain ⟨other, ends, named⟩ := (prepared_iff web operation).mp prepared
        cases (ends.eq_of_begins found (List.prefix_refl _)).2
        exact unnamed named
      rw [List.append_nil]
      exact ⟨iff_of_false (not_submits_of_isLookup looks) unprepared,
        fun _ => ⟨rfl, error, rfl⟩⟩

/-- Where the definition of its registry is served, a list is registered when it has been found. -/
theorem publishes_prepared_ofTwo :
    Services.ofSettings .standard = .ok .standard ∧ Services.standard.registrar.isWeb = true ∧
      Services.standard.resolver.isWeb = true ∧
      ∃ before after,
        (((registerRevocationList Recording.unrevoked.list).program .standard).run
          (Recording.ofTwo.obliging Recording.unrevoked) ()).exchanges = before ++ after ∧
        (registerRevocationList Recording.unrevoked.list).Asks .standard before ∧
        (registerRevocationList Recording.unrevoked.list).Prepared .standard before ∧
        inquiries after = [] ∧ Submits after := by
  have serves := Recording.ofTwo.servesDefinition_obliging Recording.unrevoked
  have named : Identifier.network Recording.unrevoked.list.issuerId = .ok "testnet" := by
    decide +kernel
  have posts := registerRevocationList_posts Services.ofSettings_standard rfl
    (Program.run_traces (Recording.ofTwo.obliging Recording.unrevoked)
      (AnonCreds.registerRevocationList .standard Recording.unrevoked.list) ())
    (serves.served _ _) Recording.ofTwo.listSlot?_definition named
  obtain ⟨before, after, made, looks, silent, asks, -, prepared, -⟩ :=
    publishes_prepared Services.ofSettings_standard rfl rfl
      (.registerRevocationList Recording.unrevoked.list)
      (Recording.ofTwo.obliging Recording.unrevoked) ()
  have submits : Submits (before ++ after) := made ▸ submits_of_posted? posts
  refine ⟨Services.ofSettings_standard, rfl, rfl, before, after, made,
    asks Resolver.isReadable_standard, prepared.mp (submits_of_posted? posts), silent, ?_⟩
  exact (submits_append.mp submits).resolve_left (not_submits_of_isLookup looks)

end RegistryOperation
end AnonCreds
end DidRegistry
