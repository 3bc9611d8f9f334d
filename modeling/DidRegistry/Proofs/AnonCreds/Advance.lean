import DidRegistry.Proofs.AnonCreds.BulkRevocation
import DidRegistry.Proofs.AnonCreds.Prerequisites
import DidRegistry.Proofs.AnonCreds.Reporting

/-!
The time at which the next version of a list takes effect. An update looks the list in force up,
reads the clock, and publishes a version that takes effect when the clock says, or a second after
the list if the clock is behind it (`updates_advance`). Timestamps are of a fixed width, so that
there is a last one; they are compared with what is reckoned in whole numbers.
-/

namespace DidRegistry
namespace AnonCreds

variable {services : Services}

-- What a lookup does is said by `seek_traces_ok` and `resolve_traces_ok`.
attribute [local irreducible] Resolver.lookup seek resolve

/-! ### Rules for the next version -/

/-- A rule for when a version takes effect, given the list that it replaces and the time. -/
abbrev Schedule := RevocationStatusList → Int64 → Except Error Int64

/-- An update whose version takes effect by a rule. -/
def updateBy (services : Services) (schedule : Schedule) (registryId : String)
    (update : RevListUpdate) : Program (RegistrationResult RevocationStatusList) := do
  let (name, current) ← listInForce services registryId none
  let revoked ← current.value.revoke update.revoked
  let now ← Program.now
  let timestamp ← schedule revoked now
  publish services .update name (listVersion timestamp) (revoked.changed update timestamp)

theorem updateBy_nextTimestamp (registryId : String) (update : RevListUpdate) :
    updateBy services RevocationStatusList.nextTimestamp registryId update =
      updateRevocationList services registryId update := rfl

/-- What a rule says of a list without timestamp is never asked for: the list that an update finds
has one. -/
theorem updateBy_congr {schedule other : Schedule}
    (same : ∀ list now, list.timestamp ≠ none → schedule list now = other list now)
    (registryId : String) (update : RevListUpdate) :
    updateBy services schedule registryId update = updateBy services other registryId update := by
  unfold updateBy
  simp only [listInForce_eq_seek, Program.bind_eq, Program.bind_assoc, Program.monadLift_eq]
  refine congrArg (Program.bind _) (funext fun query => ?_)
  refine congrArg (Program.bind _) (funext fun list => ?_)
  change (Program.ofExcept ((placed registryId query.epoch list).value.revoke _)).bind _ =
    (Program.ofExcept ((placed registryId query.epoch list).value.revoke _)).bind _
  cases revokes : (placed registryId query.epoch list).value.revoke update.revoked with
  | error error => rfl
  | ok revoked =>
      have stamped : revoked.timestamp ≠ none := by
        obtain ⟨-, rfl⟩ := RevocationStatusList.revoke_eq_ok_iff.mp revokes
        exact Option.some_ne_none _
      simp only [Program.ofExcept_ok_bind, same revoked _ stamped]

/-! ### Updates -/

/-- The exchanges by which an update has found the list that it is to change: the list has an entry
for all that is to be revoked, and its issuer is on this network. -/
structure FindsList (services : Services) (registryId : String) (update : RevListUpdate)
    (exchanges : List Exchange) (query : Query) (list : Resolved RevocationStatusList)
    (network : String) : Prop where
  looked : ∃ seeking asking, exchanges = seeking ++ asking ∧
    Seeks services registryId seeking query ∧
    Fetches services query.didUrl query.issuer asking list
  covers : list.value.Covers update.revoked
  named : Identifier.network query.issuer = .ok network

/-- The timestamp of a list that was found; that of a list without one is the time of the lookup. -/
def Query.timestamp (query : Query) (list : RevocationStatusList) : Int64 :=
  list.timestamp.getD query.epoch

/-- A publication sends its object, and after it signatures only. -/
theorem publish_documents {α : Type} [ResourceContent α] {settings : Settings}
    {mode : Resource.Mode} {name version network : String} {value : α} {exchanges : List Exchange}
    {result : Except Error (RegistrationResult α)}
    (usable : Services.ofSettings settings = .ok services)
    (web : services.registrar.isWeb = true)
    (named : Identifier.network (ResourceContent.issuerId value) = .ok network)
    (trace : (publish services mode name version value).Traces exchanges result) :
    ∃ others, exchanges.filterMap Exchange.document? =
        (payload name version value).envelope (ResourceContent.issuerId value) network :: others ∧
      ∀ other ∈ others, ∃ jobId responses, other = Operation.resubmission
        [("did", .str (ResourceContent.issuerId value)),
          ("options", .obj [("network", .str network)])] jobId responses := by
  have posts := posted?_publish usable web named trace
  rcases publish_traces trace with
    ⟨rfl, -⟩ | ⟨_, place, rounds, ending, also, rfl, dialogue, -⟩
  · cases posts
  · cases named.symm.trans also
    exact dialogue.documents_eq

theorem Fetches.documents {α : Type} [ResourceContent α] {didUrl issuer : String}
    {exchanges : List Exchange} {object : Resolved α}
    (fetched : Fetches services didUrl issuer exchanges object) :
    exchanges.filterMap Exchange.document? = [] := by
  obtain ⟨_, _, _, -, rfl, -⟩ := fetched
  rfl

/-- An update looks its list up without sending a document. -/
theorem FindsList.documents {registryId : String} {update : RevListUpdate}
    {exchanges : List Exchange} {query : Query} {list : Resolved RevocationStatusList}
    {network : String}
    (found : FindsList services registryId update exchanges query list network) :
    exchanges.filterMap Exchange.document? = [] := by
  obtain ⟨seeking, asking, rfl, ⟨_, first, _, _, rfl, -, defined, -⟩, fetched⟩ := found.looked
  have clock : [(⟨.clock, query.epoch⟩ : Exchange)].filterMap Exchange.document? = [] := rfl
  rw [List.filterMap_append, List.filterMap_append, defined.documents, fetched.documents, clock]
  rfl

/-- Once it has found its list, an update goes on with the version that it makes of it. -/
theorem FindsList.continues (web : Resolver.AsksWeb services.resolver) {registryId : String}
    {update : RevListUpdate} {looked exchanges : List Exchange} {query : Query}
    {list : Resolved RevocationStatusList} {network : String}
    {result : Except Error (RegistrationResult RevocationStatusList)}
    (found : FindsList services registryId update looked query list network)
    (trace : (updateRevocationList services registryId update).Traces exchanges result)
    (starts : looked <+: exchanges) :
    ∃ rest, exchanges = looked ++ rest ∧
      ((RegistryOperation.revise query.name (placed registryId query.epoch list).value
        update).bind (Publication.program services)).Traces rest result := by
  obtain ⟨seeking, asking, rfl, sought, fetched⟩ := found.looked
  have whole : updateRevocationList services registryId update =
      (RegistryOperation.revision services registryId update).bind
        (Publication.program services) := by
    rw [← RegistryOperation.lookup_update_eq]
    exact RegistryOperation.program_eq_lookup services (.updateRevocationList registryId update)
  rw [whole, RegistryOperation.revision, Program.bind_assoc] at trace
  obtain ⟨after, rfl, finding⟩ := Program.bind_traces_of_begins trace
    ((seek_traces_ok web).mpr sought) ((List.prefix_append ..).trans starts)
  rw [Program.bind_assoc] at finding
  obtain ⟨rest, rfl, revising⟩ := Program.bind_traces_of_begins finding
    ((resolve_traces_ok web).mpr fetched) ((List.prefix_append_right_inj seeking).mp starts)
  exact ⟨rest, (List.append_assoc ..).symm, revising⟩

/-- A later version of the list is published: it takes effect when the clock says, or a second after
the list that it replaces if that is later. -/
structure Advanced (registryId : String) (update : RevListUpdate) (query : Query)
    (list : Resolved RevocationStatusList) (network : String) (now : Int64)
    (exchanges : List Exchange) (next : Int64) : Prop where
  toInt_eq : next.toInt = max now.toInt ((query.timestamp list.value).toInt + 1)
  later : query.timestamp list.value < next
  notBefore : now ≤ next
  documents : ∃ (posted : RevocationStatusList) (others : List Json), posted.timestamp = some next ∧
    posted.Supersedes (placed registryId query.epoch list).value update ∧
    exchanges.filterMap Exchange.document? =
      .obj [("did", .str query.issuer), ("name", .str query.name),
        ("type", .str "anonCredsStatusList"), ("version", .str (toString next.toInt)),
        ("data", (ResourceContent.content posted).json),
        ("options", .obj [("network", .str network)])] :: others ∧
    ∀ other ∈ others, ∃ jobId responses, other = Operation.resubmission
      [("did", .str query.issuer), ("options", .obj [("network", .str network)])] jobId responses

/-- The version is made of the list that was found, once the clock has been read. -/
theorem FindsList.revises {registryId : String} {update : RevListUpdate} {looked : List Exchange}
    {query : Query} {list : Resolved RevocationStatusList} {network : String}
    (found : FindsList services registryId update looked query list network)
    {rest : List Exchange} {result : Except Error (RegistrationResult RevocationStatusList)}
    (trace : ((RegistryOperation.revise query.name (placed registryId query.epoch list).value
      update).bind (Publication.program services)).Traces rest result) :
    ∃ (revoked : RevocationStatusList) (now : Int64) (after : List Exchange),
      (placed registryId query.epoch list).value.revoke update.revoked = .ok revoked ∧
      rest = ⟨.clock, now⟩ :: after ∧
      ((Program.ofExcept (revoked.nextTimestamp now)).bind fun timestamp =>
        publish services .update query.name (listVersion timestamp)
          (revoked.changed update timestamp)).Traces after result := by
  have covers : (placed registryId query.epoch list).value.Covers update.revoked := found.covers
  obtain ⟨revoked, revokes⟩ := RevocationStatusList.exists_revoke_iff.mpr covers
  unfold RegistryOperation.revise at trace
  simp only [revokes, Program.ofExcept_ok_bind, Program.bind_assoc] at trace
  obtain ⟨now, after, rfl, advancing⟩ := trace
  exact ⟨revoked, now, after, revokes, rfl, advancing⟩

theorem FindsList.issuerId {registryId : String} {update : RevListUpdate}
    {looked : List Exchange} {query : Query} {list : Resolved RevocationStatusList}
    {network : String}
    (found : FindsList services registryId update looked query list network) :
    list.value.issuerId = query.issuer := by
  obtain ⟨_, _, -, -, fetched⟩ := found.looked
  exact fetched.issuerId

/-- The timestamp that was found is the last that there is only if the list says so itself: the time
of a lookup can be written, and is not the last. -/
theorem FindsList.timestamp_eq_iff {registryId : String} {update : RevListUpdate}
    {looked : List Exchange} {query : Query} {list : Resolved RevocationStatusList}
    {network : String}
    (found : FindsList services registryId update looked query list network) :
    query.timestamp list.value = Int64.maxValue ↔
      list.value.timestamp = some Int64.maxValue := by
  obtain ⟨seeking, asking, -, sought, -⟩ := found.looked
  obtain ⟨time, written⟩ := sought.written
  have same : (placed registryId query.epoch list).value.timestamp =
      some (query.timestamp list.value) := rfl
  have handed : (placed registryId query.epoch list).value.timestamp ≠ some Int64.maxValue ↔
      list.value.timestamp ≠ some Int64.maxValue := placed_timestamp_ne written
  rw [same, Ne, Option.some_inj] at handed
  exact not_iff_not.mp handed

/-- No update stalls, and none goes back. Once the list in force has been found, has an entry for
all that is to be revoked, and is of an issuer whose network is known, the clock is read. A list of
the last timestamp that there is cannot be advanced: the update fails, and nothing is sent. Of any
other list a version is sent that takes effect when the clock says, or a second after the list if
that is later; a list without timestamp counts as one of the time of its lookup. What is said of a
list that still has no timestamp then is of no consequence: no rule for it changes an update. -/
theorem updates_advance {σ : Type} {settings : Settings}
    (usable : Services.ofSettings settings = .ok services)
    (registrarWeb : services.registrar.isWeb = true)
    (resolverWeb : services.resolver.isWeb = true)
    (registryId : String) (update : RevListUpdate) (surroundings : Surroundings σ) (state : σ)
    {looked : List Exchange} {query : Query} {list : Resolved RevocationStatusList}
    {network : String} (found : FindsList services registryId update looked query list network)
    (starts : looked <+:
      ((updateRevocationList services registryId update).run surroundings state).exchanges) :
    (∃ now after,
      ((updateRevocationList services registryId update).run surroundings state).exchanges =
        looked ++ ⟨.clock, now⟩ :: after ∧
      (list.value.timestamp ≠ some Int64.maxValue → ∃ next,
        Advanced registryId update query list network now
          ((updateRevocationList services registryId update).run surroundings state).exchanges
          next) ∧
      (list.value.timestamp = some Int64.maxValue → after = [] ∧
        ((updateRevocationList services registryId update).run surroundings
          state).exchanges.filterMap Exchange.document? = [] ∧
        ((updateRevocationList services registryId update).run surroundings state).result =
          .error (.invalidResponse
            "status list timestamp 9223372036854775807 cannot be advanced"))) ∧
    ∀ schedule : Schedule,
      (∀ list now, list.timestamp ≠ none → schedule list now = list.nextTimestamp now) →
      updateBy services schedule registryId update =
        updateRevocationList services registryId update := by
  refine ⟨?_, fun schedule same =>
    (updateBy_congr same registryId update).trans (updateBy_nextTimestamp registryId update)⟩
  have web := Resolver.asksWeb_of_isWeb usable resolverWeb
  have trace := Program.run_traces surroundings (updateRevocationList services registryId update)
    state
  generalize ((updateRevocationList services registryId update).run surroundings
    state).exchanges = exchanges at trace starts ⊢
  generalize ((updateRevocationList services registryId update).run surroundings
    state).result = result at trace ⊢
  obtain ⟨rest, rfl, revising⟩ := found.continues web trace starts
  obtain ⟨revoked, now, after, revokes, rfl, advancing⟩ := found.revises revising
  have stamp : revoked.timestamp = some (query.timestamp list.value) := by
    obtain ⟨-, rfl⟩ := RevocationStatusList.revoke_eq_ok_iff.mp revokes
    rfl
  refine ⟨now, after, rfl, ?_, ?_⟩
  · intro notLast
    have early : query.timestamp list.value ≠ Int64.maxValue :=
      mt found.timestamp_eq_iff.mp notLast
    obtain ⟨next, advanced, reckoned⟩ := RevocationStatusList.nextTimestamp_of_ne stamp early now
    rw [advanced, Program.ofExcept_ok_bind] at advancing
    have supersedes := RevocationStatusList.supersedes_of_change revokes advanced
    have issued : (revoked.changed update next).issuerId = query.issuer :=
      supersedes.issuerId.trans found.issuerId
    have named : Identifier.network (ResourceContent.issuerId (revoked.changed update next)) =
        .ok network := by
      rw [← found.named, ← issued]
      rfl
    obtain ⟨others, sent, repeated⟩ := publish_documents usable registrarWeb named advancing
    refine ⟨next, reckoned, ?_, ?_, revoked.changed update next, others, rfl, supersedes, ?_, ?_⟩
    · rw [Int64.lt_iff_toInt_lt, reckoned]
      omega
    · rw [Int64.le_iff_toInt_le, reckoned]
      omega
    · rw [List.filterMap_append, found.documents, ← issued]
      exact sent
    · rw [← issued]
      exact repeated
  · intro last
    rw [found.timestamp_eq_iff.mpr last] at stamp
    have stuck : revoked.nextTimestamp now = .error (.invalidResponse
        "status list timestamp 9223372036854775807 cannot be advanced") := by
      simp only [RevocationStatusList.nextTimestamp, stamp, if_true]
      rfl
    rw [stuck] at advancing
    obtain ⟨rfl, failed⟩ := advancing
    refine ⟨rfl, ?_, failed⟩
    rw [List.filterMap_append, found.documents]
    rfl

/-- A lookup of the list in force that ends well is one by which an update finds a list. -/
theorem findsList_of_listInForce {σ : Type} (web : Resolver.AsksWeb services.resolver)
    {registryId : String} {update : RevListUpdate} {surroundings : Surroundings σ} {state : σ}
    {name network : String} {current : Resolved RevocationStatusList}
    (ended : ((listInForce services registryId none).run surroundings state).result =
      .ok (name, current))
    (covers : current.value.Covers update.revoked)
    (named : Identifier.network current.value.issuerId = .ok network) :
    ∃ looked query list, FindsList services registryId update looked query list network ∧
      current = placed registryId query.epoch list ∧
      looked <+:
        ((updateRevocationList services registryId update).run surroundings state).exchanges := by
  have trace := Program.run_traces surroundings (listInForce services registryId none) state
  have whole := Program.run_bind surroundings (listInForce services registryId none)
    (fun found => publishChange services found.1 found.2.value update) state
  generalize (listInForce services registryId none).run surroundings state = looking
    at ended trace whole
  obtain ⟨looked, result, after⟩ := looking
  cases ended
  rw [listInForce_eq_seek] at trace
  obtain ⟨seeking, rest, query, made, sought, resolving⟩ := Program.bind_traces_ok.mp trace
  obtain ⟨asking, others, list, rfl, fetching, nothing, handed⟩ :=
    Program.bind_traces_ok.mp resolving
  cases handed
  have fetched := (resolve_traces_ok web).mp fetching
  refine ⟨looked, query, list, ⟨⟨seeking, asking, ?_, (seek_traces_ok web).mp sought, fetched⟩,
    covers, ?_⟩, rfl, ?_⟩
  · rw [nothing, List.append_nil] at made
    exact made
  · rw [← named, ← fetched.issuerId]
    rfl
  · have same : updateRevocationList services registryId update =
        (listInForce services registryId none).bind
          fun found => publishChange services found.1 found.2.value update := rfl
    rw [same, whole]
    exact List.prefix_append ..

/-- A list that takes effect in the last second that there is. -/
def lastVersion : Version :=
  ⟨Int64.maxValue, Recording.listOf [0, 0] "f" Int64.maxValue, by decide +kernel⟩

/-- Peers that store a version of the list have it found by an update. -/
theorem findsList_ofTwo (version : Version) (update : RevListUpdate)
    (issued : version.list.issuerId = Recording.ofTwo.registry.issuer)
    (ofRegistry : version.list.revRegDefId = Recording.ofTwo.registry.id)
    (stamp : version.list.timestamp = some version.timestamp)
    (covers : version.list.Covers update.revoked) :
    ∃ looked query list,
      FindsList .standard Recording.ofTwo.registry.id update looked query list "testnet" ∧
      query.timestamp list.value = version.timestamp ∧
      looked <+: ((updateRevocationList .standard Recording.ofTwo.registry.id update).run
        Recording.ofTwo.peers (some version)).exchanges := by
  have web := Resolver.asksWeb_of_isWeb Services.ofSettings_standard rfl
  have holds := Recording.ofTwo.holds_version issued ofRegistry stamp
  have finds : Program.Ensures Recording.ofTwo.peers
      (listInForce .standard Recording.ofTwo.registry.id none) (some version)
      fun result after => (∃ found, result = .ok found) ∧ after = some version :=
    Recording.ofTwo.listInForce_finds Recording.statusListUrl_ofTwo Recording.identifierUrl_ofTwo
      (by decide)
  obtain ⟨⟨⟨name, current⟩, ended⟩, -⟩ := finds.holds
  obtain ⟨-, same⟩ := ((listInForce_ensures Recording.ofTwo.keptBy Recording.ofTwo.serves
    holds).holds).2 _ ended
  rw [← same] at issued stamp covers
  have named : Identifier.network current.value.issuerId = .ok "testnet" := by
    rw [issued]
    decide +kernel
  obtain ⟨looked, query, list, found, rfl, starts⟩ :=
    findsList_of_listInForce web ended covers named
  exact ⟨looked, query, list, found, Option.some.inj stamp, starts⟩

/-- Of a list that takes effect at 100 a later version is sent, and one that takes effect in the
last second cannot be advanced. -/
theorem updates_advance_ofTwo :
    Services.ofSettings .standard = .ok .standard ∧ Services.standard.registrar.isWeb = true ∧
      Services.standard.resolver.isWeb = true ∧
      (∃ query list now next, query.timestamp list.value = 100 ∧
        Advanced Recording.ofTwo.registry.id ⟨[0], "g"⟩ query list "testnet" now
          ((updateRevocationList .standard Recording.ofTwo.registry.id ⟨[0], "g"⟩).run
            Recording.ofTwo.peers (some Recording.unrevoked)).exchanges next) ∧
      ((updateRevocationList .standard Recording.ofTwo.registry.id ⟨[0], "g"⟩).run
          Recording.ofTwo.peers (some lastVersion)).result =
        .error (.invalidResponse
          "status list timestamp 9223372036854775807 cannot be advanced") := by
  refine ⟨Services.ofSettings_standard, rfl, rfl, ?_, ?_⟩
  · obtain ⟨looked, query, list, found, stamp, starts⟩ :=
      findsList_ofTwo Recording.unrevoked ⟨[0], "g"⟩ rfl rfl rfl (by decide)
    obtain ⟨⟨now, after, -, advances, -⟩, -⟩ := updates_advance Services.ofSettings_standard rfl
      rfl Recording.ofTwo.registry.id ⟨[0], "g"⟩ Recording.ofTwo.peers (some Recording.unrevoked)
      found starts
    have early : list.value.timestamp ≠ some Int64.maxValue := by
      intro last
      rw [found.timestamp_eq_iff.mpr last] at stamp
      revert stamp
      decide
    obtain ⟨next, advanced⟩ := advances early
    exact ⟨query, list, now, next, stamp, advanced⟩
  · obtain ⟨looked, query, list, found, stamp, starts⟩ :=
      findsList_ofTwo lastVersion ⟨[0], "g"⟩ rfl rfl rfl (by decide)
    obtain ⟨⟨now, after, -, -, fails⟩, -⟩ := updates_advance Services.ofSettings_standard rfl rfl
      Recording.ofTwo.registry.id ⟨[0], "g"⟩ Recording.ofTwo.peers (some lastVersion) found starts
    exact (fails (found.timestamp_eq_iff.mp stamp)).2.2

end AnonCreds
end DidRegistry
