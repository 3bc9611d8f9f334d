import DidRegistry.Interaction.Script
import DidRegistry.Json.Writer
import DidRegistry.Proofs.Did.Draft
import DidRegistry.Proofs.Job.Conformance
import DidRegistry.Proofs.Job.Documents
import DidRegistry.Proofs.Job.Opening
import DidRegistry.Proofs.Text.Hex

/-!
A new DID from end to end: one key and one network from the call for the key, through the request
for a draft, the draft itself and every round of the job, to the result. What follows the call for a
key is one program of the key (`Did.create_eq_enrol`), and every step of it is said by `Did.Enrols`.

Main statement: a creation that is allowed fails without a key, fails without a draft, or submits
the draft unchanged and carries key and network through to its end; and whether the draft comes bare
or wrapped makes no difference (`Did.create_consistent`).
-/

namespace DidRegistry

/-- Whether a call asks the wallet for a new key. -/
def Call.asksKey : Call → Bool
  | .createKey _ => true
  | .fetch _ | .assignKid _ _ | .sign _ | .clock => false

namespace Did

variable {settings : Settings} {services : Services} {options : CreateOptions}

/-! ### What follows the call for a key -/

/-- What follows once a new key is there. -/
def enrol (services : Services) (network : String) (verkey : Bytes) : Program DidResult :=
  (Registrar.draft services.registrar network (Hex.encode verkey)
    services.settings.verificationMethod).bind fun body =>
      (Draft.ofBody? body).elim (.fail .documentConstruction) fun draft =>
        ((creation network verkey).perform services.registrar services.settings.maxRounds
          (Envelope.create draft.document network)).bind fun completed =>
            .done (createdResult draft verkey completed)

/-- A creation is the policy on seeds, the call for a key, and what follows from the key. -/
theorem create_eq_enrol (services : Services) (options : CreateOptions) :
    create services options =
      if options.seed.isSome ∧ services.settings.allowInsecureSeed = false then .fail .keyPolicy
      else (Program.createKey options.seed).bind
        (enrol services (options.network.getD services.settings.network)) := by
  unfold create
  split
  · rfl
  · change (Program.createKey options.seed).bind _ = _
    congr 1
    funext verkey
    change (Registrar.draft _ _ _ _).bind _ = _
    unfold enrol
    congr 1
    funext body
    cases Draft.ofBody? body <;> rfl

/-- A key is neither asked for again nor exchanged for another: key IDs are bound to it alone. -/
theorem enrol_within {calls : Call → Prop} {network : String} {verkey : Bytes}
    (drafts : ∀ url query, Registrar.endpointUrl services.registrar "did-document" = .ok url →
      calls (.fetch ⟨url.withQuery query, Registrar.accept, none⟩))
    (submits : ∀ url envelope,
      Registrar.endpointUrl services.registrar Endpoint.create.path = .ok url →
      calls (.fetch ⟨url, Registrar.accept, some envelope⟩))
    (binds : ∀ kid, calls (.assignKid verkey kid))
    (signs : ∀ batch, calls (.sign batch)) :
    (enrol services network verkey).Within calls fun _ => True := by
  refine .bind (Registrar.draft_within (fun url => drafts url _) fun _ _ => trivial) ?_
  intro body
  cases Draft.ofBody? body with
  | none => exact .fail trivial
  | some draft =>
      refine .bind (Job.perform_within submits ?_ signs fun _ => trivial) fun completed => .done _
      rintro _ kid ⟨⟩
      exact binds kid

/-- What a creation does with a draft, given the network and the key, also in hexadecimal. -/
structure Enrols (network : String) (verkey : Bytes) (hex : String) (draft : Draft)
    (later : List Exchange) (result : Except Error DidResult) : Prop where
  /-- Nothing more is asked for. -/
  quiet : inquiries later = []
  /-- The draft is submitted unchanged, and the network with it and with all signatures. -/
  documents : ∃ others, later.filterMap Exchange.document? =
      .obj [("didDocument", draft.document.json), ("network", .str network)] :: others ∧
    ∀ other ∈ others, ∃ jobId responses,
      other = Operation.resubmission [("network", .str network)] jobId responses
  /-- No other key is made. -/
  keys : ∀ exchange ∈ later, exchange.call.asksKey = false
  /-- Key IDs are bound to the key. -/
  binds : ∀ exchange ∈ later, ∀ key kid, exchange.call = .assignKid key kid → key = verkey
  /-- Right before a batch is signed, its key IDs are bound in order, behind the submission with
  which the round begins. -/
  signs : ∀ before requests answer after, later = before ++ ⟨.sign requests, answer⟩ :: after →
    ∃ earlier request, ∃ delivery : Delivery, request.body.isSome = true ∧
      before = earlier ++ ⟨.fetch request, delivery⟩ ::
        Program.bindings verkey (requests.map (·.kid))
  /-- The result shows the key, and the DID that the last report names or else that of the draft. -/
  ends : ∀ created, result = .ok created →
    ∃ before request, ∃ delivery : Delivery, ∃ jobId outcome,
      later = before ++ [⟨.fetch request, delivery⟩] ∧
      Endpoint.create.Reports delivery ⟨jobId, .finished outcome⟩ ∧
      created = ⟨outcome.did.getD draft.did, some hex, outcome.didDocument, jobId⟩

/-- The runs of a creation that is allowed. It ends with the wallet, if that makes no key, or with
the registrar, if its answer is no draft; else it goes on to enrol what it has been given, with the
key in bytes and in hexadecimal and the network that the draft was made for. -/
inductive Creates (services : Services) (options : CreateOptions) :
    List Exchange → Except Error DidResult → Prop where
  /-- The wallet makes no key. -/
  | keyless {reason : String} :
      Creates services options [⟨.createKey options.seed, .error reason⟩] (.error (.wallet reason))
  /-- The registrar is asked for a draft for the key, and its answer is none. -/
  | draftless {network hex : String} {url : Url} {verkey : Bytes} {delivery : Delivery}
      {error : Error} (network_eq : network = options.network.getD services.settings.network)
      (place : Registrar.endpointUrl services.registrar "did-document" = .ok url)
      (written : Hex.Writes hex verkey) (none : ¬ ∃ draft, Drafts delivery draft)
      (reason : error = .documentConstruction ↔ ∃ body, Answers delivery body) :
      Creates services options
        [⟨.createKey options.seed, .ok verkey⟩,
          ⟨.fetch (Registrar.draftRequest url network hex services.settings.verificationMethod),
            delivery⟩]
        (.error error)
  /-- The registrar is asked for a draft for the key, and its answer is one. -/
  | enrolled {network hex : String} {url : Url} {verkey : Bytes} {delivery : Delivery}
      {draft : Draft} {later : List Exchange} {result : Except Error DidResult}
      (network_eq : network = options.network.getD services.settings.network)
      (place : Registrar.endpointUrl services.registrar "did-document" = .ok url)
      (written : Hex.Writes hex verkey) (drafts : Drafts delivery draft)
      (enrols : Enrols network verkey hex draft later result) :
      Creates services options
        (⟨.createKey options.seed, .ok verkey⟩ ::
          ⟨.fetch (Registrar.draftRequest url network hex services.settings.verificationMethod),
            delivery⟩ :: later)
        result

/-- The dialogue of a creation does with the draft what is to be done. -/
theorem enrols_of_dialogue {network : String} {verkey : Bytes} {draft : Draft} {place : Url}
    {maxRounds : Nat} {rounds : List Round} {ending : Except Error CompletedJob}
    (dialogue : (creation network verkey).Dialogue place maxRounds maxRounds
      (Envelope.create draft.document network) rounds ending)
    (within : ∀ exchange ∈ rounds.flatMap Round.exchanges, exchange.call.asksKey = false ∧
      ∀ key kid, exchange.call = .assignKid key kid → key = verkey) :
    Enrols network verkey (Hex.encode verkey) draft (rounds.flatMap Round.exchanges)
      (ending.map (createdResult draft verkey)) where
  quiet := inquiries_flatMap dialogue.isWhole
  documents := dialogue.documents_eq
  keys exchange member := (within exchange member).1
  binds exchange member := (within exchange member).2
  signs _ _ _ _ split := dialogue.bound_before_signing split
  ends := by
    intro created succeeds
    cases ending with
    | error error => cases succeeds
    | ok completed =>
        cases succeeds
        obtain ⟨earlier, request, delivery, rfl, reports⟩ := dialogue.reported
        exact ⟨earlier.flatMap Round.exchanges, request, delivery, completed.jobId,
          completed.outcome, List.flatMap_append, reports, rfl⟩

/-- A run that is allowed is one of those said. -/
theorem creates_of_traces {exchanges : List Exchange} {result : Except Error DidResult}
    (usable : Services.ofSettings settings = .ok services)
    (web : services.registrar.isWeb = true)
    (allowed : ¬ (options.seed.isSome = true ∧ services.settings.allowInsecureSeed = false))
    (trace : (create services options).Traces exchanges result) :
    Creates services options exchanges result := by
  rcases create_traces usable web trace with ⟨-, seeded, strict, -⟩ | ⟨answer, rest, rfl, run⟩
  · exact absurd ⟨seeded, strict⟩ allowed
  rcases run with
    ⟨reason, rfl, rfl, rfl⟩ | ⟨verkey, url, delivery, others, rfl, place, rfl, run⟩
  · exact .keyless
  rcases run with
    ⟨error, failed, rfl, rfl⟩ | ⟨draft, submitted, rounds, ending, brought, -, rfl, dialogue, rfl⟩
  · refine .draftless rfl place (Hex.writes_encode verkey) ?_ (drafted_eq_error failed)
    rintro ⟨draft, drafts⟩
    rw [drafted_eq_ok_iff.mpr drafts] at failed
    cases failed
  · refine .enrolled rfl place (Hex.writes_encode verkey) (drafted_eq_ok_iff.mp brought)
      (enrols_of_dialogue dialogue ?_)
    rw [create_eq_enrol, if_neg allowed, Program.createKey_eq] at trace
    obtain ⟨_, _, same, following⟩ := trace
    cases same
    have within : (enrol services (options.network.getD services.settings.network) verkey).Within
        (fun call => call.asksKey = false ∧ ∀ key kid, call = .assignKid key kid → key = verkey)
        fun _ => True :=
      enrol_within (fun _ _ _ => ⟨rfl, by rintro _ _ ⟨⟩⟩) (fun _ _ _ => ⟨rfl, by rintro _ _ ⟨⟩⟩)
        (fun _ => ⟨rfl, by rintro _ _ ⟨⟩; rfl⟩)
        fun _ => ⟨rfl, by rintro _ _ ⟨⟩⟩
    intro exchange member
    exact (within.of_traces following).1 exchange (List.mem_cons_of_mem _ member)

/-- Behind the request for a draft, only the draft in the answer matters. -/
theorem traces_of_drafts {verkey : Bytes} {request : HttpRequest} {one other : Delivery}
    {draft : Draft} {later : List Exchange} {result : Except Error DidResult}
    (usable : Services.ofSettings settings = .ok services)
    (web : services.registrar.isWeb = true)
    (allowed : ¬ (options.seed.isSome = true ∧ services.settings.allowInsecureSeed = false))
    (drafts : Drafts one draft) (draftsToo : Drafts other draft) :
    (create services options).Traces
        (⟨.createKey options.seed, .ok verkey⟩ :: ⟨.fetch request, one⟩ :: later) result ↔
      (create services options).Traces
        (⟨.createKey options.seed, .ok verkey⟩ :: ⟨.fetch request, other⟩ :: later) result := by
  obtain ⟨url, found, urlWeb⟩ := Registrar.exists_endpointUrl usable web "did-document"
  have onward : ∀ {answered replaced : Delivery}, Drafts answered draft → Drafts replaced draft →
      (create services options).Traces
        (⟨.createKey options.seed, .ok verkey⟩ :: ⟨.fetch request, answered⟩ :: later) result →
      (create services options).Traces
        (⟨.createKey options.seed, .ok verkey⟩ :: ⟨.fetch request, replaced⟩ :: later) result := by
    intro answered replaced brings bringsToo trace
    rw [create_eq allowed found urlWeb, Program.createKey_eq] at trace ⊢
    obtain ⟨_, _, same, drafting⟩ := trace
    cases same
    obtain ⟨_, _, sameToo, following⟩ := drafting
    cases sameToo
    change ((Program.ofExcept (drafted url answered)).bind _).Traces later result at following
    rw [drafted_eq_ok_iff.mpr brings, ← drafted_eq_ok_iff.mpr bringsToo] at following
    exact ⟨.ok verkey, _, rfl, replaced, later, rfl, following⟩
  exact ⟨onward drafts draftsToo, onward draftsToo drafts⟩

/-- A creation that is allowed asks for one key. Without it, it fails; with it, it asks for one
draft, under the key in hexadecimal and the network chosen. Without a draft it fails, as an error in
the construction of the document exactly if the registrar has answered, for a status other than 200
is no answer but an error of the transport; with a draft it submits this draft unchanged, and key
and network stay the same to the end (`Creates`). A draft without member `didDoc` may as well come
wrapped in one: the same can follow, with the same result. -/
theorem create_consistent (options : CreateOptions)
    (usable : Services.ofSettings settings = .ok services)
    (web : services.registrar.isWeb = true)
    (allowed : ¬ (options.seed.isSome = true ∧ services.settings.allowInsecureSeed = false)) :
    (∀ (σ : Type) (surroundings : Surroundings σ) (state : σ),
      Creates services options ((create services options).run surroundings state).exchanges
        ((create services options).run surroundings state).result) ∧
    ∀ (verkey : Bytes) (request : HttpRequest) (bare wrapped : HttpReply) (document body : Value)
      (members : List (String × Json)) (did : String),
      bare.status = 200 → Value.ofBytes? bare.body = some document →
      document.json = .obj members → members.lookup "id" = some (.str did) →
      members.lookup "didDoc" = none →
      wrapped.status = 200 → Value.ofBytes? wrapped.body = some body →
      body.json = .obj [("didDoc", document.json)] →
      ∀ later result,
        (create services options).Traces (⟨.createKey options.seed, .ok verkey⟩ ::
          ⟨.fetch request, .replied bare⟩ :: later) result ↔
        (create services options).Traces (⟨.createKey options.seed, .ok verkey⟩ ::
          ⟨.fetch request, .replied wrapped⟩ :: later) result := by
  constructor
  · intro σ surroundings state
    exact creates_of_traces usable web allowed (Program.run_traces ..)
  · intro verkey request bare wrapped document body members did accepted read object named plain
      acceptedToo readToo wrapper later result
    have names : NamesDid document did := ⟨members, object, named⟩
    have one : Drafts (.replied bare) ⟨document, did⟩ := by
      refine ⟨document, ⟨bare, rfl, accepted, read⟩, .bare ?_, names⟩
      intro others also
      rw [object] at also
      cases also
      exact plain
    have other : Drafts (.replied wrapped) ⟨document, did⟩ :=
      ⟨body, ⟨wrapped, rfl, acceptedToo, readToo⟩, .wrapped wrapper List.lookup_cons_self, names⟩
    exact traces_of_drafts usable web allowed one other

def named : Value := .object [("id", .text "did:cheqd:testnet:a")]

def replying (document : Json) : HttpReply := ⟨200, Bytes.ofText document.render⟩

/-- A registrar that drafts this document, asks for one signature under the key ID `k`, and reports
the new DID without naming it. -/
def enrolling : Script where
  reachable := true
  deliveries := [named.json, JobResponse.toJson ⟨some "j", .action [⟨"k", "a"⟩] none⟩,
    JobResponse.toJson ⟨some "j", .finished ⟨none, none, none, none, none⟩⟩].map fun document =>
      .replied (replying document)
  createKey := [.ok [7, 171]]
  assignKid := []
  sign := []
  now := 0

/-- A new DID gets the name that its draft has, and may as well have been drafted wrapped. -/
theorem create_consistent_enrolling :
    Services.ofSettings .standard = .ok .standard ∧
    ((create .standard ⟨none, none⟩).run Script.surroundings enrolling).result =
      .ok ⟨"did:cheqd:testnet:a", some "07ab", none, some "j"⟩ ∧
    Creates .standard ⟨none, none⟩
      ((create .standard ⟨none, none⟩).run Script.surroundings enrolling).exchanges
      ((create .standard ⟨none, none⟩).run Script.surroundings enrolling).result ∧
    ∀ request later result,
      (create .standard ⟨none, none⟩).Traces (⟨.createKey none, .ok [7, 171]⟩ ::
        ⟨.fetch request, .replied (replying named.json)⟩ :: later) result ↔
      (create .standard ⟨none, none⟩).Traces (⟨.createKey none, .ok [7, 171]⟩ ::
        ⟨.fetch request, .replied (replying (.obj [("didDoc", named.json)]))⟩ :: later) result := by
  have created : ((create .standard ⟨none, none⟩).run Script.surroundings enrolling).result =
      .ok ⟨"did:cheqd:testnet:a", some "07ab", none, some "j"⟩ := by
    decide +kernel
  obtain ⟨creates, wraps⟩ := create_consistent ⟨none, none⟩ Services.ofSettings_standard rfl
    (by decide)
  have bare : Value.ofBytes? (replying named.json).body = some named := by decide +kernel
  have wrapped : Value.ofBytes? (replying (.obj [("didDoc", named.json)])).body =
      some (.object [("didDoc", named)]) := by
    decide +kernel
  refine ⟨Services.ofSettings_standard, created, creates Script Script.surroundings enrolling, ?_⟩
  intro request
  exact wraps [7, 171] request _ _ named _ _ "did:cheqd:testnet:a" rfl bare rfl rfl rfl rfl wrapped
    rfl

end Did
end DidRegistry
