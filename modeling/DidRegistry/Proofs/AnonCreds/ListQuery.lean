import DidRegistry.Proofs.AnonCreds.Coordinates
import DidRegistry.Proofs.Did.Aliases
import DidRegistry.Proofs.Text.Form

/-!
The queries of requests. A draft of a DID document and a status list are asked for with a query that
carries texts of others: names of keys and networks, and the names under which resources are
published. Whatever these texts are, the query reads as just the pairs that were put into it.

Main statement: the queries carry their texts, and where the base URL has only a path they are the
queries of what is requested (`queries_carry_texts`).
-/

namespace DidRegistry

/-- What a form is written with is kept in a query. -/
theorem Form.keptInQuery_of_mem_encode {pairs : List (String × String)} {c : Char}
    (member : c ∈ (encode pairs).toList) : Url.keptInQuery true c = true := by
  have plain : c.isAlphanum = true → Url.keptInQuery true c = true := by
    intro alphanum
    have path := Url.keptInPath_of_isAlphanum alphanum
    have unquoted : c ≠ '\'' := by
      rintro rfl
      exact absurd alphanum (by decide)
    simp only [Url.keptInPath, Url.keptInFragment, Bool.and_eq_true] at path
    simp_all [Url.keptInQuery]
  rcases mem_encode member with written | rfl | rfl
  · simp only [isWritten, isPlain, Bool.or_eq_true, beq_iff_eq] at written
    rcases written with (((((alphanum | rfl) | rfl) | rfl) | rfl) | rfl) | rfl
    · exact plain alphanum
    all_goals decide
  all_goals decide

/-- A draft is asked for with one request, and its query is the one that describes the draft. -/
theorem Registrar.draft_traces_query {settings : Settings} {services : Services}
    {network publicKeyHex verificationMethod : String} {exchanges : List Exchange}
    {result : Except Error Value} (usable : Services.ofSettings settings = .ok services)
    (web : services.registrar.isWeb = true)
    (trace : (draft services.registrar network publicKeyHex verificationMethod).Traces exchanges
      result) :
    ∃ request, ∃ delivery : Delivery, exchanges = [⟨.fetch request, delivery⟩] ∧
      request.url.requested.query =
        some (draftQuery network publicKeyHex verificationMethod) := by
  obtain ⟨url, found, urlWeb⟩ := exists_endpointUrl usable web "did-document"
  rw [draft_eq network publicKeyHex verificationMethod found urlWeb] at trace
  obtain ⟨delivery, made, -⟩ := Program.ask_traces.mp trace
  exact ⟨_, delivery, made, rfl⟩

namespace AnonCreds

variable {settings : Settings} {services : Services}

/-- The query for a list reads as the three pairs that it is asked for with. -/
theorem decode?_statusListQuery (name time : String) :
    Form.decode? (statusListQuery name time) =
      some [("resourceType", "anonCredsStatusList"), ("resourceName", name),
        ("resourceTime", time)] :=
  Form.decode?_encode _

/-- Queries for lists are the same only if name and time are. -/
theorem statusListQuery_inj {name other time another : String} :
    statusListQuery name time = statusListQuery other another ↔
      name = other ∧ time = another := by
  constructor
  · intro same
    simpa using Form.encode_injective same
  · rintro ⟨rfl, rfl⟩
    rfl

/-- A run asks for the definition of a registry, and then for what is in a place at a time that is
written like this; for nothing else. -/
def AsksAt (services : Services) (place : Slot) (time : String) (exchanges : List Exchange) :
    Prop :=
  ∃ definition url,
    Resolver.identifierUrl services.resolver
      (place.did ++ "?" ++ statusListQuery place.name time) = .ok url ∧
    inquiries exchanges = [definition, Resolver.inquiry url Resolver.dereferencingForm]

theorem resourceType_of_listSlot? {registryId : String} {served : Delivery} {place : Slot}
    (found : listSlot? services registryId served = some place) :
    place.resourceType = ResourceType.statusList.name := by
  unfold listSlot? at found
  simp only [Option.bind_eq_bind, Option.bind_eq_some_iff, Option.pure_def,
    Option.some.injEq] at found
  obtain ⟨parts, -, request, -, name, -, rfl⟩ := found
  rfl

/-- A run that looks for a list asks for it with the time that it has, if this can be written. -/
theorem LooksAt.asksFor {registryId : String} {timestamp : Option Int64} {place : Slot}
    {exchanges : List Exchange} (looks : LooksAt services registryId timestamp place exchanges)
    (usable : Services.ofSettings settings = .ok services)
    (list : place.resourceType = ResourceType.statusList.name) :
    ∃ epoch rest, Begins services registryId timestamp epoch exchanges rest ∧
      ((Calendar.timestamp? epoch.toInt = none ∧ inquiries rest = []) ∨
        ∃ time url, Calendar.timestamp? epoch.toInt = some time ∧
          Resolver.identifierUrl services.resolver
            (place.did ++ "?" ++ statusListQuery place.name time) = .ok url ∧
          inquiries rest = [Resolver.inquiry url Resolver.dereferencingForm]) := by
  obtain ⟨epoch, rest, begins, inquired⟩ := looks
  obtain ⟨request, asked, -⟩ := begins.inquiries_eq
  obtain ⟨_, found, web, -⟩ := Resolver.exists_of_request? asked
  have reachable := Resolver.isReachable_of_identifierUrl usable found web
  refine ⟨epoch, rest, begins, ?_⟩
  obtain ⟨did, name, type⟩ := place
  change type = ResourceType.statusList.name at list
  subst list
  rw [request?_statusList] at inquired
  cases written : Calendar.timestamp? epoch.toInt with
  | none =>
      rw [statusListUrl, written] at inquired
      exact Or.inl ⟨rfl, inquired⟩
  | some time =>
      obtain ⟨url, identified, urlWeb⟩ := reachable (did ++ "?" ++ statusListQuery name time)
      have request := Resolver.request?_eq_some Resolver.dereferencingForm identified urlWeb
      rw [statusListUrl, written, Except.toOption, Option.bind_some, request] at inquired
      exact Or.inr ⟨time, url, rfl, identified, inquired⟩

/-- A run that looks for a list in its place asks for it if its time can be written. -/
theorem LooksAt.asksAt {registryId : String} {timestamp : Option Int64} {place : Slot}
    {exchanges : List Exchange} (looks : LooksAt services registryId timestamp place exchanges)
    (usable : Services.ofSettings settings = .ok services)
    (list : place.resourceType = ResourceType.statusList.name) :
    ∃ epoch : Int64, (∀ time, timestamp = some time → epoch = time) ∧
      ((Calendar.timestamp? epoch.toInt = none ∧ ∃ definition, inquiries exchanges = [definition]) ∨
        ∃ time, Calendar.timestamp? epoch.toInt = some time ∧
          AsksAt services place time exchanges) := by
  obtain ⟨epoch, rest, begins, ends⟩ := looks.asksFor usable list
  obtain ⟨definition, -, inquired⟩ := begins.inquiries_eq
  refine ⟨epoch, begins.given, ?_⟩
  rcases ends with ⟨unwritten, silent⟩ | ⟨time, url, written, identified, asks⟩
  · exact Or.inl ⟨unwritten, definition, by rw [inquired, silent]⟩
  · exact Or.inr ⟨time, written, definition, url, identified, by rw [inquired, asks]⟩

/-- Beneath a path, an identifier with a query is requested with this query. -/
theorem query_of_identifierUrl {place : Slot} {time : String} {url : Url}
    (identified : Resolver.identifierUrl services.resolver
      (place.did ++ "?" ++ statusListQuery place.name time) = .ok url)
    (usable : Services.ofSettings settings = .ok services)
    (web : services.resolver.isWeb = true) (query : services.resolver.query = none)
    (fragment : services.resolver.fragment = none) (unasked : '?' ∉ place.did.toList)
    (unmarked : '#' ∉ place.did.toList) :
    url.requested.query = some (statusListQuery place.name time) := by
  obtain ⟨above, authority, -, beneath⟩ :=
    Resolver.identifierUrl_beneath usable web query fragment
  obtain ⟨shown, -, rfl⟩ := (beneath _ url).mp identified
  rw [Url.query_requested_beneath]
  exact Url.query_seen above unmarked unasked fun c member => Form.keptInQuery_of_mem_encode member

/-- Beneath a path, a list is requested with the query for it. -/
theorem AsksAt.query {place : Slot} {time : String} {exchanges : List Exchange}
    (asks : AsksAt services place time exchanges)
    (usable : Services.ofSettings settings = .ok services)
    (web : services.resolver.isWeb = true) (query : services.resolver.query = none)
    (fragment : services.resolver.fragment = none) (unasked : '?' ∉ place.did.toList)
    (unmarked : '#' ∉ place.did.toList) :
    ∃ definition list, inquiries exchanges = [definition, list] ∧
      list.url.requested.query = some (statusListQuery place.name time) := by
  obtain ⟨definition, url, identified, inquired⟩ := asks
  exact ⟨definition, _, inquired,
    query_of_identifierUrl identified usable web query fragment unasked unmarked⟩

/-- A run has a point in time, which is the one given or what the clock then reads. If this time can
be written, the run goes on to make one request, whose query is the one for the list at this time;
if not, it asks for no list. -/
def RequestsList (services : Services) (registryId : String) (timestamp : Option Int64)
    (place : Slot) (exchanges : List Exchange) : Prop :=
  ∃ epoch rest, Begins services registryId timestamp epoch exchanges rest ∧
    ((Calendar.timestamp? epoch.toInt = none ∧ inquiries rest = []) ∨
      ∃ time list, Calendar.timestamp? epoch.toInt = some time ∧ inquiries rest = [list] ∧
        list.url.requested.query = some (statusListQuery place.name time))

/-- A query reads as the pairs that were put into it, and is the query of what is requested. The
first three parts are about the texts: the name of a resource, the time, and what a draft is asked
for with come back verbatim, whatever characters they have, and different names make different
queries. The others are about runs. A draft is requested with its query. If the URL of the resolver
and the DID of the issuer have no marks of their own, a list is requested with the query for its
name and for the time that is given or, without one and by an update, the time that the clock has
then read; a time that cannot be written leads to no such request. -/
theorem queries_carry_texts (usable : Services.ofSettings settings = .ok services) :
    (∀ issuer name (epoch : Int64) time, Calendar.timestamp? epoch.toInt = some time →
      statusListUrl issuer name epoch = .ok (issuer ++ "?" ++ statusListQuery name time) ∧
      Form.decode? (statusListQuery name time) =
        some [("resourceType", "anonCredsStatusList"), ("resourceName", name),
          ("resourceTime", time)]) ∧
    (∀ name other time another, name ≠ other →
      statusListQuery name time ≠ statusListQuery other another) ∧
    (∀ network publicKeyHex verificationMethod,
      Form.decode? (Registrar.draftQuery network publicKeyHex verificationMethod) =
        some [("methodSpecificIdAlgo", "uuid"), ("network", network),
          ("publicKeyHex", publicKeyHex), ("verificationMethod", verificationMethod)]) ∧
    (services.registrar.isWeb = true →
      ∀ network publicKeyHex verificationMethod exchanges result,
        (Registrar.draft services.registrar network publicKeyHex verificationMethod).Traces
          exchanges result →
        ∃ request, ∃ delivery : Delivery, exchanges = [⟨.fetch request, delivery⟩] ∧
          request.url.requested.query =
            some (Registrar.draftQuery network publicKeyHex verificationMethod)) ∧
    (services.resolver.isWeb = true → services.resolver.query = none →
      services.resolver.fragment = none →
      ∀ registryId served place exchanges,
        listSlot? services registryId served = some place →
        Served services registryId served exchanges →
        '?' ∉ place.did.toList → '#' ∉ place.did.toList →
        (∀ timestamp result,
          (getRevocationList services registryId timestamp).Traces exchanges result →
          RequestsList services registryId timestamp place exchanges) ∧
        ∀ update result,
          (updateRevocationList services registryId update).Traces exchanges result →
          RequestsList services registryId none place exchanges) := by
  refine ⟨?_, ?_, fun _ _ _ => Form.decode?_encode _, ?_, ?_⟩
  · intro issuer name epoch time written
    exact ⟨by rw [statusListUrl, written], decode?_statusListQuery name time⟩
  · intro name other time another distinct same
    exact distinct (statusListQuery_inj.mp same).1
  · intro web network publicKeyHex verificationMethod exchanges result trace
    exact Registrar.draft_traces_query usable web trace
  · intro web query fragment registryId served place exchanges found serves unasked unmarked
    have type := resourceType_of_listSlot? found
    have requests : ∀ timestamp, LooksAt services registryId timestamp place exchanges →
        RequestsList services registryId timestamp place exchanges := by
      intro timestamp looks
      obtain ⟨epoch, rest, begins, silent | ⟨time, url, written, identified, asks⟩⟩ :=
        looks.asksFor usable type
      · exact ⟨epoch, rest, begins, Or.inl silent⟩
      · exact ⟨epoch, rest, begins, Or.inr ⟨time, _, written, asks,
          query_of_identifierUrl identified usable web query fragment unasked unmarked⟩⟩
    constructor
    · intro timestamp result trace
      exact requests timestamp (getRevocationList_traces trace serves found)
    · intro update result trace
      have whole : place = ⟨place.did, place.name, ResourceType.statusList.name⟩ := by
        rw [← type]
      rw [whole] at found
      have looks := (updateRevocationList_traces trace serves found).1
      rw [← whole] at looks
      exact requests none looks

/-- The list of a recorded registry can be looked up, and its definition is served as recorded. -/
theorem exists_lookup_traces (recording : Recording services) (version : Version)
    (timestamp : Option Int64) :
    ∃ exchanges result,
      (getRevocationList services recording.registry.id timestamp).Traces exchanges result ∧
      Served services recording.registry.id (.replied ⟨200, recording.reply⟩) exchanges :=
  ⟨_, _, Program.run_traces (recording.obliging version) _ (),
    (recording.servesDefinition_obliging version).served _ ()⟩

-- Traces of a program that is known are not to be computed.
attribute [local irreducible] Program.Traces

/-- A name that is itself a query is carried as a name. An update of a recorded list reads the clock,
which stands at the epoch, and requests the list with the query for this time; a lookup does so with
the time that it is given. -/
theorem queries_carry_texts_standard :
    Services.ofSettings .standard = .ok .standard ∧
    Form.decode? (statusListQuery "c&resourceTime=d#e" "1970-01-01T00:00:00Z") =
      some [("resourceType", "anonCredsStatusList"), ("resourceName", "c&resourceTime=d#e"),
        ("resourceTime", "1970-01-01T00:00:00Z")] ∧
    (∃ rest list,
      Begins .standard Recording.ofTwo.registry.id none 0
        ((updateRevocationList .standard Recording.ofTwo.registry.id ⟨[0], "g"⟩).run
          (Recording.ofTwo.obliging Recording.unrevoked) ()).exchanges rest ∧
      inquiries rest = [list] ∧
      list.url.requested.query = some
        "resourceType=anonCredsStatusList&resourceName=c&resourceTime=1970-01-01T00%3A00%3A00Z") ∧
    ∃ exchanges result rest list,
      (getRevocationList .standard Recording.ofTwo.registry.id (some (-1))).Traces exchanges result ∧
      Begins .standard Recording.ofTwo.registry.id (some (-1)) (-1) exchanges rest ∧
      inquiries rest = [list] ∧
      list.url.requested.query = some
        "resourceType=anonCredsStatusList&resourceName=c&resourceTime=1969-12-31T23%3A59%3A59Z" := by
  obtain ⟨carried, -, -, -, requested⟩ := queries_carry_texts Services.ofSettings_standard
  have atEpoch : Calendar.timestamp? (0 : Int64).toInt = some "1970-01-01T00:00:00Z" := by
    decide +kernel
  have before : Calendar.timestamp? (-1 : Int64).toInt = some "1969-12-31T23:59:59Z" := by
    decide +kernel
  have unasked : '?' ∉ "did:cheqd:testnet:a".toList := by decide +kernel
  have unmarked : '#' ∉ "did:cheqd:testnet:a".toList := by decide +kernel
  have found := Recording.ofTwo.listSlot?_definition
  refine ⟨Services.ofSettings_standard, (carried "" "c&resourceTime=d#e" 0 _ atEpoch).2, ?_, ?_⟩
  · have serves := (Recording.ofTwo.servesDefinition_obliging Recording.unrevoked).served
      (updateRevocationList .standard Recording.ofTwo.registry.id ⟨[0], "g"⟩) ()
    obtain ⟨-, updates⟩ := requested rfl rfl rfl _ _ _ _ found serves unasked unmarked
    obtain ⟨epoch, rest, begins, asks⟩ := updates _ _ (Program.run_traces _ _ ())
    -- The clock of these surroundings stands still.
    obtain rfl : epoch = 0 := by
      obtain ⟨request, delivery, timing, -, reads, made⟩ := begins
      have clock : (⟨.clock, epoch⟩ : Exchange) ∈
          ((updateRevocationList .standard Recording.ofTwo.registry.id ⟨[0], "g"⟩).run
            (Recording.ofTwo.obliging Recording.unrevoked) ()).exchanges := by
        rw [made, (reads : timing = [⟨.clock, epoch⟩])]
        simp
      obtain ⟨_, answered⟩ := Program.run_answered _ _ _ _ clock
      exact answered
    rcases asks with ⟨unwritten, -⟩ | ⟨_, list, written, asked, query⟩
    · rw [atEpoch] at unwritten
      cases unwritten
    · cases atEpoch.symm.trans written
      refine ⟨rest, list, begins, asked, query.trans ?_⟩
      decide +kernel
  · obtain ⟨exchanges, result, trace, serves⟩ :=
      exists_lookup_traces Recording.ofTwo Recording.unrevoked (some (-1))
    obtain ⟨lookups, -⟩ := requested rfl rfl rfl _ _ _ _ found serves unasked unmarked
    obtain ⟨epoch, rest, begins, asks⟩ := lookups _ _ trace
    obtain rfl := begins.given _ rfl
    rcases asks with ⟨unwritten, -⟩ | ⟨_, list, written, asked, query⟩
    · rw [before] at unwritten
      cases unwritten
    · cases before.symm.trans written
      refine ⟨exchanges, result, rest, list, trace, begins, asked, query.trans ?_⟩
      decide +kernel

end AnonCreds
end DidRegistry
