import DidRegistry.Proofs.AnonCreds.Posting
import DidRegistry.Proofs.AnonCreds.Recording

/-!
Where the lists of a registry are published, and where they are looked for. Name and type come from
the definition that the resolver serves, for all operations alike. The DID does not: lookups and
updates take it from the registry's identifier (`listSlot?`), while a registration takes it from the
list.

Main statement: a list is registered in the place where it is looked for and updated if and only if
it names the issuer that the registry's identifier names (`registered_where_looked_for`).
-/

namespace DidRegistry

/-- The DID URL of what is in force in a place at a point in time, if that can be written. -/
def Slot.didUrl? (slot : Slot) (epoch : Int64) : Option String :=
  (Calendar.timestamp? epoch.toInt).map fun time => slot.did ++ "?" ++
    Form.encode [("resourceType", slot.resourceType), ("resourceName", slot.name),
      ("resourceTime", time)]

/-- The request for it, if one can be sent. -/
def Slot.request? (services : Services) (slot : Slot) (epoch : Int64) : Option HttpRequest :=
  (slot.didUrl? epoch).bind (Resolver.request? services.resolver Resolver.dereferencingForm)

namespace AnonCreds

variable {services : Services}

/-! ### Lookups -/

/-- The object that the delivery of a resource brings. -/
def readResource {α : Type} [ResourceContent α] (didUrl issuer : String) (url : Url)
    (delivery : Delivery) : Except Error (Resolved α) :=
  (delivery.read (Resolver.body? url)).bind fun body =>
    ofResource didUrl issuer (body.map ResolvedResource.ofBody)

-- What a lookup does is said by `lookup_traces`; nothing here looks into one.
attribute [local irreducible] Resolver.lookup Resolver.request?

/-- An object is asked for with one request, if one can be sent. -/
theorem resolve_traces {α : Type} [ResourceContent α] {didUrl issuer : String}
    {exchanges : List Exchange} {result : Except Error (Resolved α)}
    (trace : (resolve services didUrl issuer : Program (Resolved α)).Traces exchanges result) :
    (Resolver.request? services.resolver Resolver.dereferencingForm didUrl = none ∧
      exchanges = [] ∧ ∃ error, result = .error error) ∨
    ∃ url, ∃ delivery : Delivery,
      Resolver.request? services.resolver Resolver.dereferencingForm didUrl =
        some (Resolver.inquiry url Resolver.dereferencingForm) ∧
      exchanges = [⟨.fetch (Resolver.inquiry url Resolver.dereferencingForm), delivery⟩] ∧
      result = readResource didUrl issuer url delivery := by
  unfold resolve Resolver.dereference at trace
  simp only [Program.bind_eq, Program.bind_assoc] at trace
  obtain ⟨body, looked, rfl⟩ := Program.bind_ofExcept_traces.mp trace
  rcases Resolver.lookup_traces looked with
    ⟨unasked, rfl, error, rfl⟩ | ⟨url, delivery, -, asked, rfl, rfl⟩
  · exact Or.inl ⟨unasked, rfl, error, rfl⟩
  · exact Or.inr ⟨url, delivery, asked, rfl, rfl⟩

/-- The object with an identifier is asked for with one request, if the identifier can be taken
apart and the request be sent. -/
theorem get_traces {α : Type} [ResourceContent α] {id : String} {exchanges : List Exchange}
    {result : Except Error (Resolved α)}
    (trace : (AnonCreds.get services id : Program (Resolved α)).Traces exchanges result) :
    ((∀ issuer resource request, Identifier.split id = .ok (issuer, resource) →
        Resolver.request? services.resolver Resolver.dereferencingForm id ≠ some request) ∧
      exchanges = [] ∧ ∃ error, result = .error error) ∨
    ∃ issuer resource url, ∃ delivery : Delivery,
      Identifier.split id = .ok (issuer, resource) ∧
      Resolver.request? services.resolver Resolver.dereferencingForm id =
        some (Resolver.inquiry url Resolver.dereferencingForm) ∧
      exchanges = [⟨.fetch (Resolver.inquiry url Resolver.dereferencingForm), delivery⟩] ∧
      result = readResource id issuer url delivery := by
  unfold AnonCreds.get at trace
  simp only [Program.bind_eq, Program.monadLift_eq] at trace
  rcases Program.ofExcept_bind_traces.mp trace with
    ⟨error, unsplit, rfl, rfl⟩ | ⟨⟨issuer, resource⟩, split, resolved⟩
  · refine Or.inl ⟨?_, rfl, error, rfl⟩
    rintro issuer resource request split
    rw [unsplit] at split
    cases split
  · rcases resolve_traces resolved with
      ⟨unasked, rfl, error, rfl⟩ | ⟨url, delivery, asked, rfl, rfl⟩
    · refine Or.inl ⟨?_, rfl, error, rfl⟩
      rintro _ _ request - asked
      rw [unasked] at asked
      cases asked
    · exact Or.inr ⟨issuer, resource, url, delivery, split, asked, rfl, rfl⟩

/-- A list is read as one of the issuer whom it is looked up for. -/
theorem read_issuerId {issuer : String} {content : Value} {list : RevocationStatusList}
    (read : ResourceContent.read issuer content = .ok list) : list.issuerId = issuer := by
  have yields : (RevocationStatusList.contentRecord issuer).Yields (·.issuerId = issuer) :=
    .seq (.seq (.map fun _ _ _ => rfl))
  unfold ResourceContent.read at read
  split at read
  · rename_i decoded
    cases read
    exact yields.of_decoder decoded
  · cases read

/-- The name that the delivery of a registry's definition tells. -/
def servedName (registryId issuer : String) (url : Url) (served : Delivery) :
    Except Error String :=
  (readResource registryId issuer url served :
    Except Error (Resolved RevocationRegistryDefinition)).bind fun definition =>
      resourceName definition.metadata definition.id

/-- Where the lists of a registry are looked for, given the delivery of its definition. -/
def listSlot? (services : Services) (registryId : String) (served : Delivery) : Option Slot := do
  let (issuer, _) ← (Identifier.split registryId).toOption
  let request ← Resolver.request? services.resolver Resolver.dereferencingForm registryId
  let name ← (servedName registryId issuer request.url served).toOption
  pure ⟨issuer, name, ResourceType.statusList.name⟩

/-- A definition that is served and names the registry tells where the registry's lists are looked
for. -/
theorem listSlot?_eq_some {registryId issuer resource name : String} {url : Url}
    {served : Delivery} {definition : Resolved RevocationRegistryDefinition}
    (split : Identifier.split registryId = .ok (issuer, resource))
    (asked : Resolver.request? services.resolver Resolver.dereferencingForm registryId =
      some (Resolver.inquiry url Resolver.dereferencingForm))
    (read : readResource registryId issuer url served = .ok definition)
    (reported : resourceName definition.metadata definition.id = .ok name) :
    listSlot? services registryId served =
      some ⟨issuer, name, ResourceType.statusList.name⟩ := by
  have told : servedName registryId issuer url served = .ok name := by
    rw [servedName, read]
    exact reported
  unfold listSlot?
  rw [split, asked]
  change (servedName registryId issuer url served).toOption.bind _ = _
  rw [told]
  rfl

/-- The definition of a registry is served with this delivery wherever it is asked for. -/
def Served (services : Services) (registryId : String) (served : Delivery)
    (exchanges : List Exchange) : Prop :=
  ∀ request, ∀ delivery : Delivery,
    Resolver.request? services.resolver Resolver.dereferencingForm registryId = some request →
    (⟨.fetch request, delivery⟩ : Exchange) ∈ exchanges → delivery = served

theorem Served.of_append {registryId : String} {served : Delivery} {before after : List Exchange}
    (serves : Served services registryId served (before ++ after)) :
    Served services registryId served before := by
  intro request delivery asked member
  exact serves request delivery asked (List.mem_append_left _ member)

/-- The name that the lists of a registry share. -/
def registryName (services : Services) (registryId : String) : Program String :=
  (getRevocationRegistryDefinition services registryId).bind fun definition =>
    .ofExcept (resourceName definition.metadata definition.id)

theorem registryName_isQuiet (registryId : String) :
    (registryName services registryId).IsQuiet :=
  .bind (get_isQuiet registryId) fun _ => .ofExcept fun _ _ => trivial

/-- The name is what the served definition tells: the lookup ends well if and only if the lists have
a place, and then it has asked for the definition and for nothing else. -/
theorem registryName_traces {registryId : String} {served : Delivery} {exchanges : List Exchange}
    {result : Except Error String}
    (trace : (registryName services registryId).Traces exchanges result)
    (serves : Served services registryId served exchanges) :
    (listSlot? services registryId served = none ∧ ∃ error, result = .error error) ∨
    ∃ issuer resource name request,
      listSlot? services registryId served =
        some ⟨issuer, name, ResourceType.statusList.name⟩ ∧
      Identifier.split registryId = .ok (issuer, resource) ∧
      Resolver.request? services.resolver Resolver.dereferencingForm registryId = some request ∧
      exchanges = [⟨.fetch request, served⟩] ∧ result = .ok name := by
  unfold registryName at trace
  obtain ⟨definition, got, rfl⟩ := Program.bind_ofExcept_traces.mp trace
  rcases get_traces got with
    ⟨unasked, -, error, rfl⟩ | ⟨issuer, resource, url, delivery, split, asked, rfl, rfl⟩
  · refine Or.inl ⟨?_, error, rfl⟩
    unfold listSlot?
    cases split : Identifier.split registryId with
    | error _ => rfl
    | ok parts =>
        cases asked : Resolver.request? services.resolver Resolver.dereferencingForm
            registryId with
        | none => rfl
        | some request => exact absurd asked (unasked parts.1 parts.2 request split)
  · obtain rfl := serves _ delivery asked (List.mem_singleton_self _)
    have place : listSlot? services registryId delivery =
        (servedName registryId issuer url delivery).toOption.map fun name =>
          ⟨issuer, name, ResourceType.statusList.name⟩ := by
      unfold listSlot?
      rw [split, asked, Option.map_eq_bind]
      rfl
    have told : (readResource registryId issuer url delivery).bind
        (fun definition : Resolved RevocationRegistryDefinition =>
          resourceName definition.metadata definition.id) =
        servedName registryId issuer url delivery := rfl
    rw [told]
    cases name : servedName registryId issuer url delivery with
    | error error => exact Or.inl ⟨by simp [place, name, Except.toOption], error, rfl⟩
    | ok name' =>
        exact Or.inr ⟨issuer, resource, name', _,
          by simp [place, name, Except.toOption], split, asked, rfl, rfl⟩

/-- A sequence of a name's lookup and more ends as the served definition says. -/
theorem registryName_bind_traces {β : Type} {registryId : String} {served : Delivery}
    {next : String → Program β} {exchanges : List Exchange} {result : Except Error β}
    (trace : ((registryName services registryId).bind next).Traces exchanges result)
    (serves : Served services registryId served exchanges) :
    (listSlot? services registryId served = none ∧ ∃ error, result = .error error) ∨
    ∃ issuer resource name request after,
      listSlot? services registryId served =
        some ⟨issuer, name, ResourceType.statusList.name⟩ ∧
      Identifier.split registryId = .ok (issuer, resource) ∧
      Resolver.request? services.resolver Resolver.dereferencingForm registryId = some request ∧
      exchanges = ⟨.fetch request, served⟩ :: after ∧ (next name).Traces after result := by
  rcases Program.bind_traces.mp trace with
    ⟨error, failed, rfl⟩ | ⟨before, after, name, rfl, found, followed⟩
  · rcases registryName_traces failed serves with
      ⟨none, -⟩ | ⟨_, _, _, _, -, -, -, -, ⟨⟩⟩
    exact Or.inl ⟨none, error, rfl⟩
  · rcases registryName_traces found serves.of_append with
      ⟨-, _, ⟨⟩⟩ | ⟨issuer, resource, _, request, place, split, asked, rfl, ⟨⟩⟩
    exact Or.inr ⟨issuer, resource, name, request, after, place, split, asked, rfl, followed⟩

/-! ### The list in force -/

theorem listInForce_eq_registryName (registryId : String) (timestamp : Option Int64) :
    listInForce services registryId timestamp =
      (registryName services registryId).bind fun name =>
        (Program.ofExcept (Identifier.split registryId)).bind fun parts =>
          (timeOrNow timestamp).bind fun epoch =>
            (Program.ofExcept (statusListUrl parts.1 name epoch)).bind fun didUrl =>
              (resolve services didUrl parts.1).bind fun resolved =>
                .done (name, placed registryId epoch resolved) := by
  rw [listInForce_eq, registryName, Program.bind_assoc]

/-- The exchanges by which a point in time is had. -/
def Reads (timestamp : Option Int64) (exchanges : List Exchange) (epoch : Int64) : Prop :=
  match timestamp with
  | some time => exchanges = [] ∧ epoch = time
  | none => exchanges = [⟨.clock, epoch⟩]

theorem timeOrNow_traces_ok {timestamp : Option Int64} {exchanges : List Exchange}
    {epoch : Int64} :
    (timeOrNow timestamp).Traces exchanges (.ok epoch) ↔ Reads timestamp exchanges epoch := by
  cases timestamp with
  | some time =>
      constructor
      · rintro ⟨rfl, ⟨⟩⟩
        exact ⟨rfl, rfl⟩
      · rintro ⟨rfl, rfl⟩
        exact ⟨rfl, rfl⟩
  | none =>
      constructor
      · rintro ⟨now, _, rfl, rfl, ⟨⟩⟩
        rfl
      · rintro rfl
        exact ⟨epoch, [], rfl, rfl, rfl⟩

/-- A point in time is always had. -/
theorem timeOrNow_traces {timestamp : Option Int64} {exchanges : List Exchange}
    {result : Except Error Int64} (trace : (timeOrNow timestamp).Traces exchanges result) :
    ∃ epoch, result = .ok epoch ∧ Reads timestamp exchanges epoch := by
  cases timestamp with
  | some timestamp =>
      obtain ⟨rfl, rfl⟩ := trace
      exact ⟨timestamp, rfl, rfl, rfl⟩
  | none =>
      obtain ⟨now, _, rfl, rfl, rfl⟩ := trace
      exact ⟨now, rfl, rfl⟩

/-- A point in time is had without asking the resolver. -/
theorem Reads.inquiries_eq {timestamp : Option Int64} {exchanges : List Exchange} {epoch : Int64}
    (reads : Reads timestamp exchanges epoch) : inquiries exchanges = [] := by
  cases timestamp with
  | some time =>
      obtain ⟨rfl, -⟩ := reads
      rfl
  | none =>
      cases (reads : exchanges = [⟨.clock, epoch⟩])
      rfl

theorem Reads.given {timestamp : Option Int64} {exchanges : List Exchange} {epoch : Int64}
    (reads : Reads timestamp exchanges epoch) : ∀ time, timestamp = some time → epoch = time := by
  rintro time rfl
  exact reads.2

/-- The query for a list is that for its place. -/
theorem request?_statusList (issuer name : String) (epoch : Int64) :
    Slot.request? services ⟨issuer, name, ResourceType.statusList.name⟩ epoch =
      (statusListUrl issuer name epoch).toOption.bind
        (Resolver.request? services.resolver Resolver.dereferencingForm) := by
  unfold Slot.request? Slot.didUrl? statusListUrl
  cases Calendar.timestamp? epoch.toInt <;> rfl

/-- A query for a list is sent if one can be. What it finds has the issuer of the place. -/
theorem query_traces {issuer name registryId : String} {epoch : Int64}
    {exchanges : List Exchange}
    {result : Except Error (String × Resolved RevocationStatusList)}
    (trace : ((Program.ofExcept (statusListUrl issuer name epoch)).bind fun didUrl =>
      (resolve services didUrl issuer).bind fun resolved =>
        .done (name, placed registryId epoch resolved)).Traces exchanges result) :
    inquiries exchanges =
      (Slot.request? services ⟨issuer, name, ResourceType.statusList.name⟩ epoch).toList ∧
    ∀ list, result = .ok list → list.1 = name ∧ list.2.value.issuerId = issuer := by
  rw [request?_statusList]
  rcases Program.ofExcept_bind_traces.mp trace with
    ⟨error, unqueried, rfl, rfl⟩ | ⟨didUrl, query, queried⟩
  · rw [unqueried]
    exact ⟨rfl, by rintro _ ⟨⟩⟩
  rw [query]
  rcases Program.bind_traces.mp queried with
    ⟨error, resolved, rfl⟩ | ⟨before, _, list, rfl, resolved, rfl, rfl⟩
  · rcases resolve_traces resolved with ⟨unasked, rfl, -⟩ | ⟨url, delivery, asked, rfl, -⟩
    · exact ⟨by simp [inquiries, Except.toOption, unasked], by rintro _ ⟨⟩⟩
    · exact ⟨by simp [inquiries, Exchange.inquiry?, Except.toOption, asked, Resolver.inquiry],
        by rintro _ ⟨⟩⟩
  · rcases resolve_traces resolved with ⟨-, -, _, ⟨⟩⟩ | ⟨url, delivery, asked, rfl, brought⟩
    refine ⟨by simp [inquiries, Exchange.inquiry?, Except.toOption, asked, Resolver.inquiry], ?_⟩
    rintro _ ⟨⟩
    obtain ⟨body, -, read⟩ := exists_of_bind_eq_ok brought.symm
    cases body with
    | none => cases read
    | some body =>
        have issued : list.value.issuerId = issuer :=
          read_issuerId (ofResource_some_eq_ok_iff.mp read).2.2.2
        exact ⟨rfl, issued⟩

/-- A run asks for the definition of a registry, and then for what is in force in a place at the
time given, if a query for it can be sent; for nothing else. -/
def LooksIn (services : Services) (registryId : String) (timestamp : Option Int64) (place : Slot)
    (exchanges : List Exchange) : Prop :=
  ∃ request epoch,
    Resolver.request? services.resolver Resolver.dereferencingForm registryId = some request ∧
    (∀ time, timestamp = some time → epoch = time) ∧
    inquiries exchanges = request :: (place.request? services epoch).toList

/-- A run begins by asking for the definition of a registry. Then it has a point in time, which is
given or read off the clock, and goes on with the rest. -/
def Begins (services : Services) (registryId : String) (timestamp : Option Int64) (epoch : Int64)
    (exchanges rest : List Exchange) : Prop :=
  ∃ request, ∃ delivery : Delivery, ∃ timing,
    Resolver.request? services.resolver Resolver.dereferencingForm registryId = some request ∧
    Reads timestamp timing epoch ∧
    exchanges = ⟨.fetch request, delivery⟩ :: (timing ++ rest)

/-- Behind the point in time, the run asks for what is then in force in a place, if a query for it
can be sent; for nothing else. -/
def LooksAt (services : Services) (registryId : String) (timestamp : Option Int64) (place : Slot)
    (exchanges : List Exchange) : Prop :=
  ∃ epoch rest, Begins services registryId timestamp epoch exchanges rest ∧
    inquiries rest = (place.request? services epoch).toList

/-- The definition is asked for first. -/
theorem Begins.inquiries_eq {registryId : String} {timestamp : Option Int64} {epoch : Int64}
    {exchanges rest : List Exchange}
    (begins : Begins services registryId timestamp epoch exchanges rest) :
    ∃ request, Resolver.request? services.resolver Resolver.dereferencingForm registryId =
      some request ∧ inquiries exchanges = request :: inquiries rest := by
  obtain ⟨request, delivery, timing, asked, reads, rfl⟩ := begins
  have bare : Exchange.inquiry? ⟨.fetch request, delivery⟩ = some request := by
    simp [Exchange.inquiry?, Resolver.body_of_request? asked]
  refine ⟨request, asked, ?_⟩
  rw [inquiries, List.filterMap_cons, bare]
  change request :: inquiries (timing ++ rest) = _
  rw [inquiries_append, reads.inquiries_eq, List.nil_append]

theorem Begins.given {registryId : String} {timestamp : Option Int64} {epoch : Int64}
    {exchanges rest : List Exchange}
    (begins : Begins services registryId timestamp epoch exchanges rest) :
    ∀ time, timestamp = some time → epoch = time := by
  obtain ⟨_, _, _, -, reads, -⟩ := begins
  exact reads.given

/-- More exchanges come behind the point in time. -/
theorem Begins.append {registryId : String} {timestamp : Option Int64} {epoch : Int64}
    {exchanges rest : List Exchange}
    (begins : Begins services registryId timestamp epoch exchanges rest) (more : List Exchange) :
    Begins services registryId timestamp epoch (exchanges ++ more) (rest ++ more) := by
  obtain ⟨request, delivery, timing, asked, reads, rfl⟩ := begins
  exact ⟨request, delivery, timing, asked, reads, by simp⟩

/-- Exchanges that ask for nothing do not change where a run looks. -/
theorem LooksAt.append {registryId : String} {timestamp : Option Int64} {place : Slot}
    {exchanges more : List Exchange}
    (looks : LooksAt services registryId timestamp place exchanges)
    (silent : inquiries more = []) :
    LooksAt services registryId timestamp place (exchanges ++ more) := by
  obtain ⟨epoch, rest, begins, asks⟩ := looks
  refine ⟨epoch, rest ++ more, begins.append more, ?_⟩
  rw [inquiries_append, silent, List.append_nil, asks]

theorem LooksAt.looksIn {registryId : String} {timestamp : Option Int64} {place : Slot}
    {exchanges : List Exchange}
    (looks : LooksAt services registryId timestamp place exchanges) :
    LooksIn services registryId timestamp place exchanges := by
  obtain ⟨epoch, rest, begins, asks⟩ := looks
  obtain ⟨request, asked, inquired⟩ := begins.inquiries_eq
  exact ⟨request, epoch, asked, begins.given, by rw [inquired, asks]⟩

/-- A lookup of a list looks in the place of the registry's lists. What it finds has the name and
the issuer of that place. -/
theorem listInForce_traces {registryId : String} {served : Delivery} {timestamp : Option Int64}
    {place : Slot} {exchanges : List Exchange}
    {result : Except Error (String × Resolved RevocationStatusList)}
    (trace : (listInForce services registryId timestamp).Traces exchanges result)
    (serves : Served services registryId served exchanges)
    (found : listSlot? services registryId served = some place) :
    LooksAt services registryId timestamp place exchanges ∧
    ∀ list, result = .ok list →
      list.1 = place.name ∧ list.2.value.issuerId = place.did := by
  rw [listInForce_eq_registryName] at trace
  rcases registryName_bind_traces trace serves with
    ⟨none, -⟩ | ⟨issuer, resource, name, request, after, same, split, asked, rfl, followed⟩
  · rw [none] at found
    cases found
  rw [same] at found
  cases found
  rw [split, Program.ofExcept_ok_bind] at followed
  rcases Program.bind_traces.mp followed with
    ⟨error, timed, -⟩ | ⟨timing, others, epoch, rfl, timed, queried⟩
  · obtain ⟨_, ⟨⟩, -⟩ := timeOrNow_traces timed
  · obtain ⟨_, ⟨⟩, reads⟩ := timeOrNow_traces timed
    obtain ⟨asks, finds⟩ := query_traces queried
    exact ⟨⟨epoch, others, ⟨request, served, timing, asked, reads, rfl⟩, asks⟩, finds⟩

/-- What is handed on of a lookup does not change where it looks. -/
theorem getRevocationList_traces {registryId : String} {served : Delivery}
    {timestamp : Option Int64} {place : Slot} {exchanges : List Exchange}
    {result : Except Error (Resolved RevocationStatusList)}
    (trace : (getRevocationList services registryId timestamp).Traces exchanges result)
    (serves : Served services registryId served exchanges)
    (found : listSlot? services registryId served = some place) :
    LooksAt services registryId timestamp place exchanges := by
  unfold getRevocationList at trace
  rcases Program.bind_traces.mp trace with
    ⟨error, looked, -⟩ | ⟨before, _, list, rfl, looked, rfl, -⟩
  · exact (listInForce_traces looked serves found).1
  · rw [List.append_nil] at serves ⊢
    exact (listInForce_traces looked serves found).1

/-! ### Publications of lists -/

/-- A publication asks the resolver for nothing. -/
theorem inquiries_publish {α : Type} [ResourceContent α] {mode : Resource.Mode}
    {name version : String} {value : α} {exchanges : List Exchange}
    {result : Except Error (RegistrationResult α)}
    (trace : (publish services mode name version value).Traces exchanges result) :
    inquiries exchanges = [] := by
  rcases publish_traces trace with
    ⟨rfl, -⟩ | ⟨network, place, rounds, ending, -, rfl, dialogue, -⟩
  · rfl
  · exact inquiries_flatMap dialogue.isWhole

/-- The publication of a change asks for nothing, and posts where the list is from. -/
theorem publishChange_traces {name : String} {list : RevocationStatusList}
    {update : RevListUpdate} {exchanges : List Exchange}
    {result : Except Error (RegistrationResult RevocationStatusList)}
    (trace : (publishChange services name list update).Traces exchanges result) :
    inquiries exchanges = [] ∧ ∀ slot, posted? exchanges = some slot →
      slot = ⟨list.issuerId, name, ResourceType.statusList.name⟩ := by
  unfold publishChange at trace
  rcases Program.ofExcept_bind_traces.mp trace with
    ⟨error, -, rfl, -⟩ | ⟨revoked, revokes, timing⟩
  · exact ⟨rfl, by rintro _ ⟨⟩⟩
  rcases Program.bind_traces.mp timing with
    ⟨error, ⟨_, _, rfl, rfl, ⟨⟩⟩, -⟩ | ⟨before, after, now, rfl, clock, advancing⟩
  have quiet := (Program.Within.of_traces (timeOrNow_isQuiet none) clock).1
  have reads : Reads none before now := timeOrNow_traces_ok.mp clock
  rw [inquiries_append, reads.inquiries_eq, posted?_append_of_isQuiet after quiet]
  rcases Program.ofExcept_bind_traces.mp advancing with
    ⟨error, -, rfl, -⟩ | ⟨timestamp, advanced, published⟩
  · exact ⟨rfl, by rintro _ ⟨⟩⟩
  have supersedes := RevocationStatusList.supersedes_of_change revokes advanced
  refine ⟨inquiries_publish published, ?_⟩
  intro slot posts
  rw [posted?_of_publish published posts, ← supersedes.issuerId]
  rfl

/-- An update looks in the place of the registry's lists, and posts there. -/
theorem updateRevocationList_traces {registryId issuer name : String} {served : Delivery}
    {update : RevListUpdate} {exchanges : List Exchange}
    {result : Except Error (RegistrationResult RevocationStatusList)}
    (trace : (updateRevocationList services registryId update).Traces exchanges result)
    (serves : Served services registryId served exchanges)
    (found : listSlot? services registryId served =
      some ⟨issuer, name, ResourceType.statusList.name⟩) :
    LooksAt services registryId none ⟨issuer, name, ResourceType.statusList.name⟩ exchanges ∧
    ∀ slot, posted? exchanges = some slot →
      slot = ⟨issuer, name, ResourceType.statusList.name⟩ := by
  unfold updateRevocationList at trace
  have quiet : (listInForce services registryId none).IsQuiet :=
    listInForce_isQuiet registryId none
  rcases Program.bind_traces.mp trace with
    ⟨error, looked, -⟩ | ⟨before, after, list, rfl, looked, changed⟩
  · refine ⟨(listInForce_traces looked serves found).1, ?_⟩
    intro slot posts
    rw [posted?_of_isQuiet (Program.Within.of_traces quiet looked).1] at posts
    cases posts
  · obtain ⟨looks, finds⟩ := listInForce_traces looked serves.of_append found
    obtain ⟨named, issued⟩ := finds list rfl
    obtain ⟨silent, places⟩ := publishChange_traces changed
    refine ⟨looks.append silent, ?_⟩
    intro slot posts
    rw [posted?_append_of_isQuiet after (Program.Within.of_traces quiet looked).1] at posts
    rw [places slot posts, named, issued]

theorem registerRevocationList_eq_registryName (list : RevocationStatusList) :
    registerRevocationList services list =
      (registryName services list.revRegDefId).bind fun name =>
        (timeOrNow list.timestamp).bind fun timestamp =>
          publish services .create name (listVersion timestamp)
            { list with timestamp := some timestamp } := by
  rw [registerRevocationList_eq, registryName, Program.bind_assoc]

/-- A registration posts under the name that the definition tells and under the list's issuer. -/
theorem registerRevocationList_traces {list : RevocationStatusList} {served : Delivery}
    {exchanges : List Exchange}
    {result : Except Error (RegistrationResult RevocationStatusList)}
    (trace : (registerRevocationList services list).Traces exchanges result)
    (serves : Served services list.revRegDefId served exchanges) {slot : Slot}
    (posts : posted? exchanges = some slot) :
    ∃ issuer resource name,
      listSlot? services list.revRegDefId served =
        some ⟨issuer, name, ResourceType.statusList.name⟩ ∧
      Identifier.split list.revRegDefId = .ok (issuer, resource) ∧
      slot = ⟨list.issuerId, name, ResourceType.statusList.name⟩ := by
  rw [registerRevocationList_eq_registryName] at trace
  obtain ⟨before, after, name, rfl, found, timing, posts⟩ :=
    (registryName_isQuiet list.revRegDefId).bind_posted? trace posts
  obtain ⟨_, _, timestamp, rfl, -, published, posts⟩ :=
    (timeOrNow_isQuiet list.timestamp).bind_posted? timing posts
  rcases registryName_traces found serves.of_append with
    ⟨-, _, ⟨⟩⟩ | ⟨issuer, resource, _, request, place, split, -, -, ⟨⟩⟩
  exact ⟨issuer, resource, name, place, split, posted?_of_publish published posts⟩

/-- A registration posts if the registry's lists have a place and the list's issuer names a
network. -/
theorem registerRevocationList_posts {settings : Settings} {list : RevocationStatusList}
    {served : Delivery} {issuer name network : String} {exchanges : List Exchange}
    {result : Except Error (RegistrationResult RevocationStatusList)}
    (usable : Services.ofSettings settings = .ok services)
    (web : services.registrar.isWeb = true)
    (trace : (registerRevocationList services list).Traces exchanges result)
    (serves : Served services list.revRegDefId served exchanges)
    (found : listSlot? services list.revRegDefId served =
      some ⟨issuer, name, ResourceType.statusList.name⟩)
    (named : Identifier.network list.issuerId = .ok network) :
    posted? exchanges = some ⟨list.issuerId, name, ResourceType.statusList.name⟩ := by
  rw [registerRevocationList_eq_registryName] at trace
  rcases registryName_bind_traces trace serves with
    ⟨none, -⟩ | ⟨_, resource, _, request, after, same, split, asked, rfl, timing⟩
  · rw [none] at found
    cases found
  rw [same] at found
  cases found
  have asking : ∀ exchange ∈ [(⟨.fetch request, served⟩ : Exchange)],
      exchange.call.isQuiet = true := by
    intro exchange member
    rw [List.mem_singleton.mp member]
    simp [Call.isQuiet, Resolver.body_of_request? asked]
  change posted? ([⟨.fetch request, served⟩] ++ after) = _
  rw [posted?_append_of_isQuiet after asking]
  rcases Program.bind_traces.mp timing with
    ⟨error, timed, -⟩ | ⟨before, others, timestamp, rfl, timed, published⟩
  · obtain ⟨_, ⟨⟩, -⟩ := timeOrNow_traces timed
  · have quiet := (Program.Within.of_traces (timeOrNow_isQuiet list.timestamp) timed).1
    rw [posted?_append_of_isQuiet others quiet]
    exact posted?_publish usable web named published

/-! ### Agreement -/

/-- The surroundings always serve the definition of a registry with this delivery. -/
def ServesDefinition {σ : Type} (services : Services) (surroundings : Surroundings σ)
    (registryId : String) (served : Delivery) : Prop :=
  ∀ request,
    Resolver.request? services.resolver Resolver.dereferencingForm registryId = some request →
    ∀ state, (surroundings.answer (.fetch request) state).1 = served

theorem ServesDefinition.served {σ α : Type} {surroundings : Surroundings σ} {registryId : String}
    {served : Delivery} (serves : ServesDefinition services surroundings registryId served)
    (program : Program α) (state : σ) :
    Served services registryId served (program.run surroundings state).exchanges := by
  intro request delivery asked member
  obtain ⟨before, answered⟩ := Program.run_answered surroundings program state _ member
  exact answered.trans (serves request asked before)

/-- A list that is registered has the name and the type under which its registry's lists are looked
for and updated. Its DID is that of its own issuer, theirs is that of the registry's identifier; so
it is where it is looked for exactly if it names the issuer of its registry. The three calls are
made in states of their own, and have in common only that the resolver serves the same definition of
the registry to all of them. -/
theorem registered_where_looked_for {σ : Type} {surroundings : Surroundings σ}
    (list : RevocationStatusList) {served : Delivery}
    (serves : ServesDefinition services surroundings list.revRegDefId served)
    (update : RevListUpdate) (timestamp : Option Int64) (registering looking updating : σ)
    {slot : Slot}
    (posts : posted? ((registerRevocationList services list).run surroundings
      registering).exchanges = some slot) :
    ∃ place : Slot,
      (∃ resource, Identifier.split list.revRegDefId = .ok (place.did, resource)) ∧
      slot.did = list.issuerId ∧ slot.name = place.name ∧
      slot.resourceType = place.resourceType ∧
      (slot = place ↔ list.issuerId = place.did) ∧
      LooksIn services list.revRegDefId timestamp place
        ((getRevocationList services list.revRegDefId timestamp).run surroundings
          looking).exchanges ∧
      LooksIn services list.revRegDefId none place
        ((updateRevocationList services list.revRegDefId update).run surroundings
          updating).exchanges ∧
      ∀ next, posted? ((updateRevocationList services list.revRegDefId update).run surroundings
        updating).exchanges = some next → next = place := by
  obtain ⟨issuer, resource, name, found, split, rfl⟩ :=
    registerRevocationList_traces (Program.run_traces surroundings _ registering)
      (serves.served _ registering) posts
  have updated := Program.run_traces surroundings
    (updateRevocationList services list.revRegDefId update) updating
  have looked := Program.run_traces surroundings
    (getRevocationList services list.revRegDefId timestamp) looking
  obtain ⟨looks, places⟩ :=
    updateRevocationList_traces updated (serves.served _ updating) found
  have finds := getRevocationList_traces looked (serves.served _ looking) found
  exact ⟨⟨issuer, name, ResourceType.statusList.name⟩, ⟨resource, split⟩, rfl, rfl, rfl, by simp,
    finds.looksIn, looks.looksIn, places⟩

end AnonCreds

/-- Peers that serve what is asked for by its URL, and finish every publication. -/
def Surroundings.obliging (served : Url → Delivery) : Surroundings Unit where
  answer
    | .fetch request, _ =>
        (if request.body.isSome then .replied ⟨200, Recording.report⟩ else served request.url, ())
    | .createKey _, _ => (.ok [], ())
    | .assignKid _ _, _ => (.ok (), ())
    | .sign _, _ => (.ok [], ())
    | .clock, _ => ((0 : Int64), ())

theorem AnonCreds.servesDefinition_obliging {services : Services} {registryId : String} {url : Url}
    (served : Url → Delivery)
    (asked : Resolver.request? services.resolver Resolver.dereferencingForm registryId =
      some (Resolver.inquiry url Resolver.dereferencingForm)) :
    ServesDefinition services (.obliging served) registryId (served url) := by
  intro request again state
  rw [asked] at again
  cases again
  rfl

/-! ### Lists for a recorded registry -/

namespace Recording

open AnonCreds

variable {services : Services} (recording : Recording services)

/-- Peers that serve the recorded definition and this version of the list, and finish every
publication. -/
def obliging (version : Version) : Surroundings Unit :=
  .obliging fun url => recording.served url (some version)

theorem request?_definition :
    Resolver.request? services.resolver Resolver.dereferencingForm recording.registry.id =
      some (Resolver.inquiry recording.url Resolver.dereferencingForm) :=
  Resolver.request?_eq_some _ recording.found recording.web

theorem servesDefinition_obliging (version : Version) :
    ServesDefinition services (recording.obliging version) recording.registry.id
      (.replied ⟨200, recording.reply⟩) := by
  have definition : recording.served recording.url (some version) =
      .replied ⟨200, recording.reply⟩ := if_pos rfl
  rw [← definition]
  exact AnonCreds.servesDefinition_obliging _ recording.request?_definition

/-- The lists of the recorded registry are looked for under its issuer and its name. -/
theorem listSlot?_definition :
    listSlot? services recording.registry.id (.replied ⟨200, recording.reply⟩) =
      some ⟨recording.registry.issuer, recording.registry.name, ResourceType.statusList.name⟩ := by
  obtain ⟨resource, issued⟩ := recording.issued
  refine listSlot?_eq_some issued recording.request?_definition ?_ recording.reported
  rw [readResource, read_reply recording.written]
  exact recording.content

end Recording

namespace AnonCreds

/-- A list of the registry's issuer is registered where it is looked for. -/
theorem registered_where_looked_for_ofTwo :
    posted? ((registerRevocationList .standard Recording.unrevoked.list).run
      (Recording.ofTwo.obliging Recording.unrevoked) ()).exchanges =
        some ⟨"did:cheqd:testnet:a", "c", ResourceType.statusList.name⟩ ∧
    ∃ place : Slot,
      (∃ resource, Identifier.split "did:cheqd:testnet:a/resources/b" =
        .ok (place.did, resource)) ∧
      (⟨"did:cheqd:testnet:a", "c", ResourceType.statusList.name⟩ = place ↔
        "did:cheqd:testnet:a" = place.did) ∧
      LooksIn .standard "did:cheqd:testnet:a/resources/b" (some 0) place
        ((getRevocationList .standard "did:cheqd:testnet:a/resources/b" (some 0)).run
          (Recording.ofTwo.obliging Recording.unrevoked) ()).exchanges := by
  have serves := Recording.ofTwo.servesDefinition_obliging Recording.unrevoked
  have named : Identifier.network Recording.unrevoked.list.issuerId = .ok "testnet" := by
    decide +kernel
  have posts : posted? ((registerRevocationList .standard Recording.unrevoked.list).run
      (Recording.ofTwo.obliging Recording.unrevoked) ()).exchanges =
        some ⟨"did:cheqd:testnet:a", "c", ResourceType.statusList.name⟩ :=
    registerRevocationList_posts Services.ofSettings_standard rfl (Program.run_traces _ _ _)
      (serves.served _ _) Recording.ofTwo.listSlot?_definition named
  obtain ⟨place, issued, -, -, -, meets, looks, -⟩ :=
    registered_where_looked_for Recording.unrevoked.list serves ⟨[0], "g"⟩ (some 0) () () () posts
  exact ⟨posts, place, issued, meets, looks⟩

/-- A list of another issuer is registered where no lookup looks. -/
theorem foreign_list_registered_elsewhere :
    ¬ ∀ (services : Services) {σ : Type} (surroundings : Surroundings σ)
      (list : RevocationStatusList) (served : Delivery) (timestamp : Option Int64)
      (registering looking : σ) (slot : Slot),
      ServesDefinition services surroundings list.revRegDefId served →
      posted? ((registerRevocationList services list).run surroundings registering).exchanges =
        some slot →
      LooksIn services list.revRegDefId timestamp slot
        ((getRevocationList services list.revRegDefId timestamp).run surroundings
          looking).exchanges := by
  intro always
  -- The definition is that of a registry of another issuer.
  have serves := Recording.ofTwo.servesDefinition_obliging Recording.unrevoked
  have named : Identifier.network "did:cheqd:testnet:z" = .ok "testnet" := by decide +kernel
  let list : RevocationStatusList :=
    { Recording.unrevoked.list with issuerId := "did:cheqd:testnet:z" }
  have posts : posted? ((registerRevocationList .standard list).run
      (Recording.ofTwo.obliging Recording.unrevoked) ()).exchanges =
        some ⟨"did:cheqd:testnet:z", "c", ResourceType.statusList.name⟩ :=
    registerRevocationList_posts Services.ofSettings_standard rfl (Program.run_traces _ _ _)
      (serves.served _ _) Recording.ofTwo.listSlot?_definition named
  obtain ⟨_, epoch, _, given, asks⟩ := always .standard _ list _ (some 0) () () _ serves posts
  obtain ⟨_, time, _, also, looks⟩ := (getRevocationList_traces
    (Program.run_traces (Recording.ofTwo.obliging Recording.unrevoked)
      (getRevocationList .standard list.revRegDefId (some 0)) ())
    (serves.served _ ()) Recording.ofTwo.listSlot?_definition).looksIn
  obtain rfl := given 0 rfl
  obtain rfl := also 0 rfl
  have same := (List.cons.inj (asks.symm.trans looks)).2
  have query : Slot.request? .standard
      ⟨Recording.ofTwo.registry.issuer, Recording.ofTwo.registry.name,
        ResourceType.statusList.name⟩ 0 =
        some (Resolver.inquiry Recording.listUrl Resolver.dereferencingForm) := by
    rw [request?_statusList, Recording.statusListUrl_ofTwo, Except.toOption, Option.bind_some]
    exact Resolver.request?_eq_some _ Recording.identifierUrl_ofTwo (by decide)
  rw [query] at same
  exact absurd same (by decide +kernel)

end AnonCreds
end DidRegistry
