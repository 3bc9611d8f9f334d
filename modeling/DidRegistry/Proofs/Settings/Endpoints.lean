import DidRegistry.Proofs.Did.Supported
import DidRegistry.Proofs.Settings.Construction

/-!
Where the requests of a registry go. Besides its calls on the wallet and the clock, a task makes
requests at endpoints of the registrar, which are those of its job and that for drafts, and at the
URLs that the resolver has for identifiers (`Task.sends_within`).

Main statement: over HTTP, endpoints and DIDs are beneath the paths that registrar and resolver are
configured with, unless the configured URLs have a query or a fragment that the slash at the end of
their text belongs to (`Task.requests_beneath`).
-/

namespace DidRegistry

/-! ### Endpoints -/

/-- A URL on the server of a configured URL. Its path is that of a name beneath the path configured
exactly if nothing else takes the slash that is added to the text: if the base that has been read has
neither query nor fragment, or if the path ends in a slash by itself. -/
structure Url.Joins (url configured base : Url) (name : String) : Prop where
  scheme : url.scheme = configured.scheme
  authority : url.authority = configured.authority
  path : url.path.render = Settings.slashEnded configured.path.render ++ name ↔
    (base.query = none ∧ base.fragment = none) ∨ configured.path.render.endsWith "/" = true

/-- Endpoints are on the server that the registrar is configured with. -/
theorem Registrar.endpointUrl_joins {settings : Settings} {services : Services}
    (usable : Services.ofSettings settings = .ok services) (web : services.registrar.isWeb = true)
    (ended : services.registrar.query = none → services.registrar.fragment = none →
      Url.EndsPlainly settings.registrarUrl) :
    ∃ configured, Url.parse settings.registrarUrl = .ok configured ∧
      ∀ name url, endpointUrl services.registrar name = .ok url →
        url.Joins configured services.registrar name := by
  obtain ⟨configured, list, same, scheme, authority, whole, nonempty, parts, path⟩ :=
    Settings.exists_configured (Services.registrar_of_settings usable) web ended
  refine ⟨configured, same, ?_⟩
  intro name url found
  unfold endpointUrl Url.sibling? at found
  rw [path] at found
  cases found
  refine ⟨scheme, authority, ?_⟩
  rw [whole]
  by_cases bare : services.registrar.query = none ∧ services.registrar.fragment = none
  · obtain ⟨above, slashed⟩ := Url.exists_endSlashed list
    rw [if_pos bare, ← Url.render_endSlashed parts, slashed, List.dropLast_concat,
      Path.render_concat, Path.render_concat, String.append_empty]
    exact iff_of_true rfl (Or.inl bare)
  · obtain ⟨above, last, rfl⟩ := (List.eq_nil_or_concat list).resolve_left nonempty
    rw [List.concat_eq_append] at parts ⊢
    rw [if_neg bare, List.dropLast_concat, Url.render_sibling_iff parts,
      Url.endsWith_render_iff parts, List.getLast?_concat, Option.some.injEq]
    exact (or_iff_right bare).symm

/-! ### Requests -/

/-- The program makes a request, against some surroundings. -/
def Program.Makes {α : Type} (program : Program α) (request : HttpRequest) : Prop :=
  ∃ exchanges result, ∃ delivery : Delivery, program.Traces exchanges result ∧
    ⟨.fetch request, delivery⟩ ∈ exchanges

/-- A program makes the request that it begins with. -/
theorem Program.makes_ask {α : Type} (request : HttpRequest) (next : Delivery → Program α) :
    (Program.ask (.fetch request) next).Makes request := by
  have trace := (next .refused).run_traces (.offline []) ()
  exact ⟨_, _, .refused, ⟨.refused, _, rfl, trace⟩, List.mem_cons_self ..⟩

/-- A program that makes calls of a kind only makes requests of this kind. -/
theorem Program.Makes.allowed {α : Type} {program : Program α} {request : HttpRequest}
    {calls : Call → Prop} {errors : Error → Prop} (makes : program.Makes request)
    (within : program.Within calls errors) : calls (.fetch request) := by
  obtain ⟨exchanges, result, delivery, trace, member⟩ := makes
  exact (within.of_traces trace).1 _ member

/-- A request is made at an endpoint, with whatever query. -/
def Registrar.IsAt (base : Url) (name : String) (request : HttpRequest) : Prop :=
  ∃ url, endpointUrl base name = .ok url ∧ request.url = { url with query := request.url.query }

theorem Url.Joins.of_isAt {base configured : Url} {name : String} {request : HttpRequest}
    (joins : ∀ url, Registrar.endpointUrl base name = .ok url → url.Joins configured base name)
    (isAt : Registrar.IsAt base name request) : request.url.Joins configured base name := by
  obtain ⟨url, found, same⟩ := isAt
  rw [same]
  exact ⟨(joins url found).scheme, (joins url found).authority, (joins url found).path⟩

theorem Registrar.isAt_of_draft {base : Url} {network publicKeyHex verificationMethod : String}
    {request : HttpRequest}
    (makes : (draft base network publicKeyHex verificationMethod).Makes request) :
    IsAt base "did-document" request := by
  have within : (draft base network publicKeyHex verificationMethod).Within
      (fun call => ∀ request, call = .fetch request → IsAt base "did-document" request)
      fun _ => True := by
    apply draft_within
    · rintro url found _ ⟨⟩
      exact ⟨url, found, rfl⟩
    · exact fun _ _ => trivial
  exact makes.allowed within request rfl

theorem Registrar.isAt_of_submit {base : Url} {endpoint : Endpoint} {envelope : Json}
    {request : HttpRequest} (makes : (submit base endpoint envelope).Makes request) :
    IsAt base endpoint.path request := by
  have within : (submit base endpoint envelope).Within
      (fun call => ∀ request, call = .fetch request → IsAt base endpoint.path request)
      fun _ => True := by
    apply Job.submit_within
    · rintro url envelope found _ ⟨⟩
      exact ⟨url, found, rfl⟩
    · exact fun _ => trivial
  exact makes.allowed within request rfl

/-- A registrar of HTTP is asked for every draft. -/
theorem Registrar.draft_makes {settings : Settings} {services : Services}
    (usable : Services.ofSettings settings = .ok services)
    (web : services.registrar.isWeb = true) (network publicKeyHex verificationMethod : String) :
    ∃ request,
      (draft services.registrar network publicKeyHex verificationMethod).Makes request := by
  obtain ⟨url, found, urlWeb⟩ := exists_endpointUrl usable web "did-document"
  rw [draft_eq network publicKeyHex verificationMethod found urlWeb]
  exact ⟨_, Program.makes_ask _ _⟩

/-- A registrar of HTTP is sent every submission. -/
theorem Registrar.submit_makes {settings : Settings} {services : Services}
    (usable : Services.ofSettings settings = .ok services)
    (web : services.registrar.isWeb = true) (endpoint : Endpoint) (envelope : Json) :
    ∃ request, (submit services.registrar endpoint envelope).Makes request := by
  obtain ⟨url, found, urlWeb⟩ := exists_endpointUrl usable web endpoint.path
  rw [submit_eq envelope found urlWeb]
  exact ⟨_, Program.makes_ask _ _⟩

/-- What a lookup asks for is at the URL that the resolver has for the identifier. -/
theorem Resolver.identifierUrl_of_makes {base : Url} {form id : String} {request : HttpRequest}
    (makes : (lookup base form id).Makes request) : identifierUrl base id = .ok request.url := by
  have within : (lookup base form id).Within
      (fun call => ∀ request, call = .fetch request → identifierUrl base id = .ok request.url)
      fun _ => True := by
    apply lookup_within
    · rintro url found _ ⟨⟩
      exact found
    · exact fun _ => trivial
    · trivial
    · exact fun _ _ => trivial
  exact makes.allowed within request rfl

/-- A lookup makes its request, if the resolver has a URL of HTTP for the identifier. -/
theorem Resolver.makes_of_identifierUrl {base url : Url} {id : String} (form : String)
    (found : identifierUrl base id = .ok url) (web : url.isWeb = true) :
    (lookup base form id).Makes (inquiry url form) := by
  rw [lookup_eq, found, Program.ofExcept_ok_bind, Program.fetch_read_eq web]
  exact Program.makes_ask _ _

/-- A resolver of HTTP is asked about an identifier exactly if its own URL is read from its text. -/
theorem Resolver.exists_makes_iff {settings : Settings} {services : Services}
    (usable : Services.ofSettings settings = .ok services)
    (web : services.resolver.isWeb = true) (form id : String) :
    (∃ request, (lookup services.resolver form id).Makes request) ↔
      services.resolver.IsReadable := by
  rw [← exists_identifierUrl_iff usable web id]
  constructor
  · rintro ⟨request, makes⟩
    have found := identifierUrl_of_makes makes
    exact ⟨request.url, found, asksWeb_of_isWeb usable web id request.url found⟩
  · rintro ⟨url, found, urlWeb⟩
    exact ⟨_, makes_of_identifierUrl form found urlWeb⟩

namespace Task

/-- The identifiers that a task may ask the resolver about. A change is about its DID alone. -/
def Concerns : Task → String → Prop
  | .perform (.update did _), id | .perform (.deactivate did), id => id = did
  | _, _ => True

/-- The calls that a task may make: besides calls on the wallet and the clock, requests for a draft,
submissions at the endpoint of its job, and questions to the resolver. -/
inductive Sends (services : Services) (task : Task) : Call → Prop where
  | draft {url : Url} {query : String}
      (found : Registrar.endpointUrl services.registrar "did-document" = .ok url) :
      Sends services task (.fetch ⟨url.withQuery query, Registrar.accept, none⟩)
  | submission {endpoint : Endpoint} {url : Url} {envelope : Json}
      (last : task.last = .report endpoint)
      (found : Registrar.endpointUrl services.registrar endpoint.path = .ok url) :
      Sends services task (.fetch ⟨url, Registrar.accept, some envelope⟩)
  | inquiry {id form : String} {url : Url} (concerns : task.Concerns id)
      (linked : form ≠ Registrar.accept)
      (found : Resolver.identifierUrl services.resolver id = .ok url) :
      Sends services task (.fetch (Resolver.inquiry url form))
  | createKey (seed : Option String) : Sends services task (.createKey seed)
  | assignKid (verkey : Bytes) (kid : String) : Sends services task (.assignKid verkey kid)
  | sign (batch : List SigningRequest) : Sends services task (.sign batch)
  | clock : Sends services task .clock

variable {services : Services} {task : Task}

theorem resolutionForm_ne_accept : Resolver.resolutionForm ≠ Registrar.accept := by decide
theorem dereferencingForm_ne_accept : Resolver.dereferencingForm ≠ Registrar.accept := by decide

/-- A job at the endpoint of a task sends what the task may send. -/
theorem job_within {job : Job} {maxRounds : Nat} {envelope : Json}
    (last : task.last = .report job.endpoint) :
    (job.perform services.registrar maxRounds envelope).Within (task.Sends services)
      fun _ => True := by
  apply Job.perform_within
  · intro url envelope found
    exact .submission last found
  · intro verkey kid _
    exact .assignKid verkey kid
  · intro batch
    exact .sign batch
  · intro error
    trivial

theorem create_within {options : CreateOptions} (last : task.last = .report .create) :
    (Did.create services options).Within (task.Sends services) fun _ => True := by
  rw [Did.create_eq_enrol]
  split
  · exact .fail trivial
  · refine .bind (.createKey (.createKey _) fun _ => trivial) fun verkey => ?_
    apply Did.enrol_within
    · intro url query found
      exact .draft found
    · intro url envelope found
      exact .submission last found
    · intro kid
      exact .assignKid verkey kid
    · intro batch
      exact .sign batch

theorem change_within {endpoint : Endpoint} {did : String} {envelope : Json}
    (last : task.last = .report endpoint) (concerns : task.Concerns did) :
    (Did.change services endpoint did envelope).Within (task.Sends services) fun _ => True := by
  refine .bind (Operation.ensureActive_within ?_ fun _ _ => trivial) fun _ => ?_
  · intro url found
    exact .inquiry concerns resolutionForm_ne_accept found
  · exact .bind (job_within last) fun completed => .done _

theorem publish_within {mode : Resource.Mode} {did : String} {payload : ResourcePayload}
    (last : task.last = .report mode.endpoint) :
    (Resource.publish services mode did payload).Within (task.Sends services) fun _ => True := by
  refine .ofExcept_bind (fun _ _ => trivial) fun network _ => ?_
  exact .bind (job_within last) fun completed => .ofExcept fun _ _ => trivial

theorem perform_sends_within (operation : Operation) :
    (operation.program services).Within ((perform operation).Sends services) fun _ => True := by
  cases operation with
  | create options => exact .bind (create_within rfl) fun _ => .done ()
  | update did document => exact .bind (change_within rfl rfl) fun _ => .done ()
  | deactivate did => exact .bind (change_within rfl rfl) fun _ => .done ()
  | createResource did payload => exact .bind (publish_within rfl) fun _ => .done ()
  | updateResource did payload => exact .bind (publish_within rfl) fun _ => .done ()

section AnonCreds

open AnonCreds

variable {α : Type} [ResourceContent α]

theorem registration_within {mode : Resource.Mode} {name version : String} {value : α}
    (last : task.last = .report mode.endpoint) :
    (publish services mode name version value).Within (task.Sends services) fun _ => True :=
  .bind (publish_within last) fun _ => .done _

theorem register_sends_within (operation : RegistryOperation) :
    (operation.program services).Within ((register operation).Sends services) fun _ => True := by
  have asks : ∀ id url, Resolver.identifierUrl services.resolver id = .ok url →
      (register operation).Sends services
        (.fetch (Resolver.inquiry url Resolver.dereferencingForm)) :=
    fun id url found => .inquiry trivial dereferencingForm_ne_accept found
  have reads : (register operation).Sends services .clock := .clock
  cases operation with
  | registerSchema schema => exact registration_within rfl
  | registerCredentialDefinition definition =>
      exact .bind (get_within asks _) fun schema => registration_within rfl
  | registerRevocationRegistryDefinition definition =>
      refine .bind (get_within asks _) fun credentials => ?_
      exact .ofExcept_bind (fun _ _ => trivial) fun name _ => registration_within rfl
  | registerRevocationList list =>
      change (registerRevocationList services list).Within _ _
      rw [registerRevocationList_eq]
      refine .bind (get_within asks _) fun definition => ?_
      refine .ofExcept_bind (fun _ _ => trivial) fun name _ => ?_
      exact .bind (timeOrNow_within reads _) fun timestamp => registration_within rfl
  | updateRevocationList registryId update =>
      refine .bind (listInForce_within asks reads registryId none) fun found => ?_
      refine .ofExcept_bind (fun _ _ => trivial) fun revoked _ => ?_
      refine .bind (timeOrNow_within reads none) fun now => ?_
      exact .ofExcept_bind (fun _ _ => trivial) fun timestamp _ => registration_within rfl

end AnonCreds

-- What the programs do is said by the lemmas above; matching them must not evaluate them.
attribute [local irreducible] AnonCreds.get AnonCreds.getRevocationList

/-- Every task sends what it may send, and nothing else. -/
theorem sends_within (task : Task) :
    (task.program services).Within (task.Sends services) fun _ => True := by
  have asks : ∀ id url, task.Concerns id → Resolver.identifierUrl services.resolver id = .ok url →
      task.Sends services (.fetch (Resolver.inquiry url Resolver.dereferencingForm)) :=
    fun id url concerns found => .inquiry concerns dereferencingForm_ne_accept found
  cases task with
  | perform operation => exact perform_sends_within operation
  | deactivateResource did resourceId => exact .fail trivial
  | register operation => exact .bind (register_sends_within operation) fun _ => .done ()
  | getSchema id =>
      exact .bind (AnonCreds.get_within (fun id url => asks id url trivial) id) fun _ => .done ()
  | getCredentialDefinition id =>
      exact .bind (AnonCreds.get_within (fun id url => asks id url trivial) id) fun _ => .done ()
  | getRevocationRegistryDefinition id =>
      exact .bind (AnonCreds.get_within (fun id url => asks id url trivial) id) fun _ => .done ()
  | getRevocationList registryId timestamp =>
      exact .bind (AnonCreds.getRevocationList_within (fun id url => asks id url trivial)
        .clock registryId timestamp) fun _ => .done ()

/-- The endpoint that a request of a task is made at: a request that brings nothing is for a draft,
and every other is part of the task's job. -/
inductive Addresses (task : Task) (request : HttpRequest) : String → Prop where
  | draft (bare : request.body = none) : Addresses task request "did-document"
  | job {endpoint : Endpoint} (last : task.last = .report endpoint)
      (envelope : request.body.isSome = true) : Addresses task request endpoint.path

/-- A request that asks for the registrar's form of answer is made at an endpoint of it. -/
theorem addresses_of_makes {request : HttpRequest} (makes : (task.program services).Makes request)
    (plain : request.accept = Registrar.accept) :
    ∃ name, task.Addresses request name ∧ Registrar.IsAt services.registrar name request := by
  have sent := makes.allowed task.sends_within
  cases sent with
  | draft found => exact ⟨_, .draft rfl, _, found, rfl⟩
  | submission last found => exact ⟨_, .job last rfl, _, found, rfl⟩
  | inquiry concerns linked found => exact absurd plain linked

/-- Every other request asks the resolver about an identifier that the task concerns. -/
theorem concerns_of_makes {request : HttpRequest} (makes : (task.program services).Makes request)
    (linked : request.accept ≠ Registrar.accept) :
    ∃ id, task.Concerns id ∧ Resolver.identifierUrl services.resolver id = .ok request.url := by
  have sent := makes.allowed task.sends_within
  cases sent with
  | draft found => exact absurd rfl linked
  | submission last found => exact absurd rfl linked
  | inquiry concerns _ found => exact ⟨_, concerns, found⟩

/-- Over HTTP, drafts and jobs do make requests, and every request to the registrar, by itself or as
part of a task, is made on the server that is configured, at an endpoint beneath the path configured
unless the URL has a query or a fragment and its path does not end in a slash. Every other request
goes to the resolver, which is asked exactly if its own URL is read from its text, and for a DID it
is made beneath the path configured exactly if the URL has neither query nor fragment. -/
theorem requests_beneath {settings : Settings}
    (usable : Services.ofSettings settings = .ok services) :
    (services.registrar.isWeb = true →
      (services.registrar.query = none → services.registrar.fragment = none →
        Url.EndsPlainly settings.registrarUrl) →
      ∃ configured, Url.parse settings.registrarUrl = .ok configured ∧
        (∀ network publicKeyHex verificationMethod,
          (∃ request, (Registrar.draft services.registrar network publicKeyHex
            verificationMethod).Makes request) ∧
          ∀ request, (Registrar.draft services.registrar network publicKeyHex
              verificationMethod).Makes request →
            request.url.Joins configured services.registrar "did-document") ∧
        (∀ (endpoint : Endpoint) envelope,
          (∃ request, (Registrar.submit services.registrar endpoint envelope).Makes request) ∧
          ∀ request, (Registrar.submit services.registrar endpoint envelope).Makes request →
            request.url.Joins configured services.registrar endpoint.path) ∧
        ∀ (task : Task) request, (task.program services).Makes request →
          request.accept = Registrar.accept →
          ∃ name, task.Addresses request name ∧
            request.url.Joins configured services.registrar name) ∧
    (services.resolver.isWeb = true →
      (services.resolver.query = none → services.resolver.fragment = none →
        Url.EndsPlainly settings.resolverUrl) →
      ∃ configured, Url.parse settings.resolverUrl = .ok configured ∧
        (∀ did form, Identifier.IsDid did →
          ((∃ request, (Resolver.lookup services.resolver form did).Makes request) ↔
            services.resolver.IsReadable) ∧
          ∀ request, (Resolver.lookup services.resolver form did).Makes request →
            (request.url.path.render = Settings.slashEnded configured.path.render ++ did ↔
              services.resolver.query = none ∧ services.resolver.fragment = none)) ∧
        ∀ (task : Task) request, (task.program services).Makes request →
          request.accept ≠ Registrar.accept →
          ∃ id, task.Concerns id ∧
            Resolver.identifierUrl services.resolver id = .ok request.url ∧
            (Identifier.IsDid id →
              (request.url.path.render = Settings.slashEnded configured.path.render ++ id ↔
                services.resolver.query = none ∧ services.resolver.fragment = none))) := by
  constructor
  · intro web ended
    obtain ⟨configured, read, joins⟩ := Registrar.endpointUrl_joins usable web ended
    refine ⟨configured, read, ?_, ?_, ?_⟩
    · intro network publicKeyHex verificationMethod
      refine ⟨Registrar.draft_makes usable web _ _ _, ?_⟩
      intro request makes
      exact .of_isAt (joins _) (Registrar.isAt_of_draft makes)
    · intro endpoint envelope
      refine ⟨Registrar.submit_makes usable web _ _, ?_⟩
      intro request makes
      exact .of_isAt (joins _) (Registrar.isAt_of_submit makes)
    · intro task request makes plain
      obtain ⟨name, addresses, isAt⟩ := addresses_of_makes makes plain
      exact ⟨name, addresses, .of_isAt (joins _) isAt⟩
  · intro web ended
    obtain ⟨configured, read, beneath⟩ := Resolver.identifierUrl_beneath_iff usable web ended
    refine ⟨configured, read, ?_, ?_⟩
    · intro did form isDid
      refine ⟨Resolver.exists_makes_iff usable web form did, ?_⟩
      intro request makes
      exact beneath did request.url isDid (Resolver.identifierUrl_of_makes makes)
    · intro task request makes linked
      obtain ⟨id, concerns, found⟩ := concerns_of_makes makes linked
      exact ⟨id, concerns, found, fun did => beneath id request.url did found⟩

/-- A new resource of the standard settings is submitted, and the DID that it belongs to resolved,
beneath the paths that are configured. -/
theorem requests_beneath_standard :
    Services.ofSettings .standard = .ok .standard ∧
    (∃ configured request, Url.parse Settings.standard.registrarUrl = .ok configured ∧
      ((perform (.createResource "did:cheqd:testnet:a" ⟨"", "", "", .null⟩)).program
        .standard).Makes request ∧
      request.url.path.render = Settings.slashEnded configured.path.render ++ "createResource") ∧
    ∃ configured request, Url.parse Settings.standard.resolverUrl = .ok configured ∧
      (Resolver.lookup Services.standard.resolver Resolver.resolutionForm
        "did:cheqd:testnet:zABCDEFGHIJKLMNOPQRSTU").Makes request ∧
      request.url.path.render = Settings.slashEnded configured.path.render ++
        "did:cheqd:testnet:zABCDEFGHIJKLMNOPQRSTU" := by
  obtain ⟨registrar, resolver⟩ := requests_beneath Services.ofSettings_standard
  have ended : Url.EndsPlainly Settings.standard.registrarUrl := Or.inl (by decide +kernel)
  have endedToo : Url.EndsPlainly Settings.standard.resolverUrl := Or.inl (by decide +kernel)
  obtain ⟨configured, read, -, -, joins⟩ := registrar rfl fun _ _ => ended
  obtain ⟨configuredToo, readToo, resolves, -⟩ := resolver rfl fun _ _ => endedToo
  refine ⟨Services.ofSettings_standard, ?_, ?_⟩
  · have trace := Program.run_traces (.offline []) ((perform
      (.createResource "did:cheqd:testnet:a" ⟨"", "", "", .null⟩)).program .standard) ()
    obtain ⟨request, makes, plain, envelope⟩ : ∃ request,
        ((perform (.createResource "did:cheqd:testnet:a" ⟨"", "", "", .null⟩)).program
          .standard).Makes request ∧ request.accept = Registrar.accept ∧
          request.body.isSome = true :=
      ⟨_, ⟨_, _, .refused, trace, List.mem_singleton.mpr rfl⟩, rfl, rfl⟩
    obtain ⟨name, addresses, joined⟩ := joins _ request makes plain
    cases addresses with
    | draft bare =>
        rw [bare] at envelope
        cases envelope
    | job last _ =>
        cases last
        exact ⟨configured, request, read, makes, joined.path.mpr (Or.inl ⟨rfl, rfl⟩)⟩
  · have did : Identifier.IsDid "did:cheqd:testnet:zABCDEFGHIJKLMNOPQRSTU" := by
      constructor <;> decide +kernel
    obtain ⟨asked, beneath⟩ := resolves _ Resolver.resolutionForm did
    obtain ⟨request, makes⟩ := asked.mpr Resolver.isReadable_standard
    exact ⟨configuredToo, request, readToo, makes, (beneath request makes).mpr ⟨rfl, rfl⟩⟩

end Task

/-- Settings with a query in the URL of the registrar. -/
def Settings.queried : Settings :=
  { standard with registrarUrl := "http://registrar.test/1.0?x=1" }

def Services.queried : Services where
  settings := .queried
  registrar := ⟨"http", some ⟨"", none, .name "registrar.test", none⟩, .segments ["1.0"],
    some "x=1/", none⟩
  resolver := Services.standard.resolver

theorem Services.ofSettings_queried : Services.ofSettings .queried = .ok .queried := by
  decide +kernel

/-- The slash that is added to a URL with a query goes into the query. The settings are accepted, and
the endpoint is not beneath the path that they configure but beside it. -/
theorem Task.request_not_beneath :
    Settings.queried.validate = .ok () ∧ Services.ofSettings .queried = .ok .queried ∧
    ∃ configured request, Url.parse Settings.queried.registrarUrl = .ok configured ∧
      ((perform (.createResource "did:cheqd:testnet:a" ⟨"", "", "", .null⟩)).program
        .queried).Makes request ∧ request.accept = Registrar.accept ∧
      request.url.path.render = "/createResource" ∧
      Settings.slashEnded configured.path.render ++ "createResource" = "/1.0/createResource" := by
  have read : Url.parse Settings.queried.registrarUrl =
      .ok { Services.queried.registrar with query := some "x=1" } := by
    decide +kernel
  have trace := Program.run_traces (.offline []) ((perform
    (.createResource "did:cheqd:testnet:a" ⟨"", "", "", .null⟩)).program .queried) ()
  exact ⟨Services.validate_of_settings Services.ofSettings_queried, Services.ofSettings_queried,
    _, _, read, ⟨_, _, .refused, trace, List.mem_singleton.mpr rfl⟩, rfl, by decide +kernel,
    by decide +kernel⟩

end DidRegistry
