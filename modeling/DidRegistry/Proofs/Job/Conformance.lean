import DidRegistry.Interaction.Script
import DidRegistry.Json.Writer
import DidRegistry.Proofs.Did.Draft
import DidRegistry.Proofs.Did.Guard
import DidRegistry.Proofs.Job.Opening

/-!
The operations that drive jobs, and the protocol that each keeps with its registrar.

An operation opens with preliminary exchanges. `Operation.Opens` says which of them lead to a
conversation, and to which one; `Operation.Stops` says which do not. Both are said of the exchanges
alone and agree with the openings of the programs (`opens_iff`, `stops_of_traces`).

Main statement: whatever registrar, resolver and wallet answer, an operation submits something
exactly if it has opened a conversation, and then it keeps the protocol of this conversation to the
end (`Operation.conforms`). What the five operations have in common is proved about dialogues
(`Job.Dialogue.kept`); here they differ in how they open, and in what their submissions repeat.
-/

namespace DidRegistry.Operation

/-- The envelope that carries signatures for a job, with the members that the operation repeats. -/
def resubmission (repeated : List (String × Json)) (jobId : String)
    (responses : List SigningResponse) : Json :=
  .obj ([("jobId", .str jobId)] ++ repeated ++
    [("secret", .obj [("signingResponse", .arr (responses.map SigningResponse.toJson))])])

/-- The envelope that begins the publication of a resource. -/
def resourceOpening (did network : String) (payload : ResourcePayload) : Json :=
  .obj [("did", .str did), ("name", .str payload.name), ("type", .str payload.resourceType),
    ("version", .str payload.version), ("data", payload.data.json),
    ("options", .obj [("network", .str network)])]

/-- The members that a publication repeats. -/
def resourceMembers (did network : String) : List (String × Json) :=
  [("did", .str did), ("options", .obj [("network", .str network)])]

/-- How an operation comes to converse with the registrar: what is exchanged before, and the
protocol from then on. -/
inductive Opens (services : Services) : Operation → List Exchange → Protocol → Prop where
  /-- The settings allow the seed, if one is given; a key is created, and the registrar has drafted
  a document for it. -/
  | create {options : CreateOptions} {network : String} {draftUrl url : Url} {verkey : Bytes}
      {delivery : Delivery} {draft : Did.Draft}
      (allowed : ¬ (options.seed.isSome = true ∧ services.settings.allowInsecureSeed = false))
      (network_eq : network = options.network.getD services.settings.network)
      (drafts : Registrar.endpointUrl services.registrar "did-document" = .ok draftUrl)
      (place : Registrar.endpointUrl services.registrar "create" = .ok url)
      (drafted : Did.Drafts delivery draft) :
      Opens services (.create options)
        [⟨.createKey options.seed, .ok verkey⟩,
          ⟨.fetch (Registrar.draftRequest draftUrl network (Hex.encode verkey)
            services.settings.verificationMethod), delivery⟩]
        ⟨url, [200, 201], services.settings.maxRounds, some verkey,
          .obj [("didDocument", draft.document.json), ("network", .str network)],
          resubmission [("network", .str network)]⟩
  /-- The resolver reports the DID as active. -/
  | update {did : String} {document : Value} {url : Url} {before : List Exchange}
      (admitted : Did.Admits services did before)
      (place : Registrar.endpointUrl services.registrar "update" = .ok url) :
      Opens services (.update did document) before
        ⟨url, [200], services.settings.maxRounds, none,
          .obj [("did", .str did), ("didDocumentOperation", .arr [.str "setDidDocument"]),
            ("didDocument", .arr [document.json])],
          resubmission []⟩
  /-- The resolver reports the DID as active. -/
  | deactivate {did : String} {url : Url} {before : List Exchange}
      (admitted : Did.Admits services did before)
      (place : Registrar.endpointUrl services.registrar "deactivate" = .ok url) :
      Opens services (.deactivate did) before
        ⟨url, [200], services.settings.maxRounds, none, .obj [("did", .str did)],
          resubmission []⟩
  /-- Nothing is exchanged before; the network is that of the DID. -/
  | createResource {did network : String} {payload : ResourcePayload} {url : Url}
      (named : Identifier.network did = .ok network)
      (place : Registrar.endpointUrl services.registrar "createResource" = .ok url) :
      Opens services (.createResource did payload) []
        ⟨url, [200, 201], services.settings.maxRounds, none, resourceOpening did network payload,
          resubmission (resourceMembers did network)⟩
  /-- Nothing is exchanged before; the network is that of the DID. -/
  | updateResource {did network : String} {payload : ResourcePayload} {url : Url}
      (named : Identifier.network did = .ok network)
      (place : Registrar.endpointUrl services.registrar "updateResource" = .ok url) :
      Opens services (.updateResource did payload) []
        ⟨url, [200], services.settings.maxRounds, none, resourceOpening did network payload,
          resubmission (resourceMembers did network)⟩

/-- What is exchanged by an operation that does not come to converse with the registrar, and the
error that it ends with: there is no draft, the DID is not active, or it names no network. -/
def Stops (services : Services) : Operation → List Exchange → Error → Prop
  | .create options => Did.Undrafted services options
  | .update did _ | .deactivate did => Did.Refuses services did
  | .createResource did _ | .updateResource did _ => fun exchanges error =>
      exchanges = [] ∧ Identifier.network did = .error error

/-- What an operation exchanges, and how it ends. -/
inductive Conforms (services : Services) (operation : Operation) :
    List Exchange → Except Error Unit → Prop where
  /-- It does not come to converse with the registrar. -/
  | stopped {exchanges : List Exchange} {error : Error}
      (stops : operation.Stops services exchanges error) :
      Conforms services operation exchanges (.error error)
  /-- It opens a conversation, in one round or more, and keeps the protocol. -/
  | conversed {before : List Exchange} {protocol : Protocol} {rounds : List Round}
      {result : Except Error Unit} (opens : operation.Opens services before protocol)
      (begun : rounds ≠ []) (kept : protocol.Kept rounds) :
      Conforms services operation (before ++ rounds.flatMap Round.exchanges) result

variable {settings : Settings} {services : Services} {operation : Operation}
variable {exchanges before : List Exchange} {protocol : Protocol}

/-! ### Openings -/

section Openings

-- What the programs ask for is said by their traces.
attribute [local irreducible] Did.ensureActive

/-- A creation opens with a draft, or ends without one. -/
theorem create_opening_traces {options : CreateOptions} {result : Except Error Opening}
    (usable : Services.ofSettings settings = .ok services)
    (web : services.registrar.isWeb = true)
    (trace : ((create options).opening services).Traces exchanges result) :
    (∃ error, Did.Undrafted services options exchanges error ∧ result = .error error) ∨
    ∃ verkey draftUrl draft, ∃ delivery : Delivery,
      ¬ (options.seed.isSome = true ∧ services.settings.allowInsecureSeed = false) ∧
      Registrar.endpointUrl services.registrar "did-document" = .ok draftUrl ∧
      Did.Drafts delivery draft ∧
      exchanges = [⟨.createKey options.seed, .ok verkey⟩,
        ⟨.fetch (Did.creationDraft services options draftUrl verkey), delivery⟩] ∧
      result = .ok ⟨⟨some (options.network.getD services.settings.network), none, none⟩,
        some verkey,
        Envelope.create draft.document (options.network.getD services.settings.network)⟩ := by
  by_cases refused : options.seed.isSome ∧ services.settings.allowInsecureSeed = false
  · simp only [opening, if_pos refused] at trace
    obtain ⟨rfl, rfl⟩ := trace
    exact Or.inl ⟨_, .seeded refused.1 refused.2, rfl⟩
  obtain ⟨draftUrl, found, draftWeb⟩ :=
    Registrar.exists_endpointUrl usable web "did-document"
  simp only [opening, if_neg refused, Did.draft_bind_eq found draftWeb,
    Program.createKey_eq] at trace
  obtain ⟨answer, rest, rfl, following⟩ := trace
  cases answer with
  | error reason =>
      obtain ⟨rfl, rfl⟩ := following
      exact Or.inl ⟨_, .keyless refused, rfl⟩
  | ok verkey =>
      obtain ⟨delivery, others, rfl, drafting⟩ := following
      rcases Program.ofExcept_bind_traces.mp drafting with
        ⟨error, failed, rfl, rfl⟩ | ⟨draft, brought, rfl, rfl⟩
      · refine Or.inl ⟨error, .draftless refused found ?_ (Did.drafted_eq_error failed), rfl⟩
        rintro ⟨draft, drafts⟩
        rw [Did.drafted_eq_ok_iff.mpr drafts] at failed
        cases failed
      · exact Or.inr ⟨verkey, draftUrl, draft, delivery, refused, found,
          Did.drafted_eq_ok_iff.mp brought, rfl, rfl⟩

/-- With a draft, a creation has opened. -/
theorem create_opening_traces_ok {options : CreateOptions} {verkey : Bytes} {draftUrl : Url}
    {delivery : Delivery} {draft : Did.Draft}
    (usable : Services.ofSettings settings = .ok services)
    (web : services.registrar.isWeb = true)
    (allowed : ¬ (options.seed.isSome = true ∧ services.settings.allowInsecureSeed = false))
    (found : Registrar.endpointUrl services.registrar "did-document" = .ok draftUrl)
    (drafts : Did.Drafts delivery draft) :
    ((create options).opening services).Traces
      [⟨.createKey options.seed, .ok verkey⟩,
        ⟨.fetch (Did.creationDraft services options draftUrl verkey), delivery⟩]
      (.ok ⟨⟨some (options.network.getD services.settings.network), none, none⟩, some verkey,
        Envelope.create draft.document (options.network.getD services.settings.network)⟩) := by
  obtain ⟨_, also, draftWeb⟩ := Registrar.exists_endpointUrl usable web "did-document"
  cases found.symm.trans also
  simp only [opening, if_neg allowed, Did.draft_bind_eq found draftWeb, Program.createKey_eq]
  refine ⟨.ok verkey, _, rfl, delivery, [], rfl, ?_⟩
  exact Program.ofExcept_bind_traces.mpr
    (Or.inr ⟨draft, Did.drafted_eq_ok_iff.mpr drafts, rfl, rfl⟩)

/-- A change opens once its DID is admitted, and ends where it is refused. -/
theorem change_opening_traces {did : String} {opening : Opening}
    {result : Except Error Opening}
    (trace : ((Did.ensureActive services did).bind fun _ => .done opening).Traces exchanges
      result) :
    (∃ error, Did.Refuses services did exchanges error ∧ result = .error error) ∨
      (Did.Admits services did exchanges ∧ result = .ok opening) := by
  rcases Program.bind_traces.mp trace with
    ⟨error, refused, rfl⟩ | ⟨before, _, _, rfl, admitted, rfl, rfl⟩
  · exact Or.inl ⟨error, Did.refuses_of_traces refused, rfl⟩
  · rw [List.append_nil]
    exact Or.inr ⟨Did.ensureActive_traces_ok.mp admitted, rfl⟩

theorem change_opening_traces_ok {did : String} {opening : Opening}
    (admitted : Did.Admits services did exchanges) :
    ((Did.ensureActive services did).bind fun _ => .done opening).Traces exchanges
      (.ok opening) :=
  Program.bind_traces_ok.mpr ⟨exchanges, [], (), (List.append_nil _).symm,
    Did.ensureActive_traces_ok.mpr admitted, rfl, rfl⟩

/-- An opening that fails is one that stops the operation. -/
theorem stops_of_traces {error : Error} (usable : Services.ofSettings settings = .ok services)
    (web : services.registrar.isWeb = true)
    (trace : (operation.opening services).Traces exchanges (.error error)) :
    operation.Stops services exchanges error := by
  have unnamed : ∀ {did : String} {opens : String → Opening},
      ((Program.ofExcept (Identifier.network did)).bind fun network =>
        .done (opens network)).Traces exchanges (.error error) →
      exchanges = [] ∧ Identifier.network did = .error error := by
    intro did opens trace
    rcases Program.ofExcept_bind_traces.mp trace with ⟨_, failed, rfl, ⟨⟩⟩ | ⟨_, -, -, ⟨⟩⟩
    exact ⟨rfl, failed⟩
  cases operation with
  | create options =>
      rcases create_opening_traces usable web trace with
        ⟨_, undrafted, ⟨⟩⟩ | ⟨_, _, _, _, -, -, -, -, ⟨⟩⟩
      exact undrafted
  | update did document =>
      rcases change_opening_traces trace with ⟨_, refuses, ⟨⟩⟩ | ⟨-, ⟨⟩⟩
      exact refuses
  | deactivate did =>
      rcases change_opening_traces trace with ⟨_, refuses, ⟨⟩⟩ | ⟨-, ⟨⟩⟩
      exact refuses
  | createResource did payload => exact unnamed trace
  | updateResource did payload => exact unnamed trace

/-- What opens a conversation is an opening that succeeds. The protocol is that of the job which is
then performed. -/
theorem opens_iff (usable : Services.ofSettings settings = .ok services)
    (web : services.registrar.isWeb = true) :
    operation.Opens services before protocol ↔
      ∃ opening url, (operation.opening services).Traces before (.ok opening) ∧
        Registrar.endpointUrl services.registrar operation.endpoint.path = .ok url ∧
        protocol = (operation.job opening).protocol url services.settings.maxRounds
          opening.envelope := by
  constructor
  · intro opens
    cases opens with
    | create allowed network_eq drafts place drafted =>
        subst network_eq
        exact ⟨_, _, create_opening_traces_ok usable web allowed drafts drafted, place, rfl⟩
    | update admitted place =>
        exact ⟨_, _, change_opening_traces_ok admitted, place, rfl⟩
    | deactivate admitted place =>
        exact ⟨_, _, change_opening_traces_ok admitted, place, rfl⟩
    | createResource named place =>
        exact ⟨_, _, Program.ofExcept_bind_traces_ok.mpr ⟨_, named, rfl, rfl⟩, place, rfl⟩
    | updateResource named place =>
        exact ⟨_, _, Program.ofExcept_bind_traces_ok.mpr ⟨_, named, rfl, rfl⟩, place, rfl⟩
  · rintro ⟨opening, url, trace, place, rfl⟩
    cases operation with
    | create options =>
        rcases create_opening_traces usable web trace with
          ⟨_, -, ⟨⟩⟩ | ⟨_, _, _, _, allowed, drafts, drafted, rfl, ⟨⟩⟩
        exact .create allowed rfl drafts place drafted
    | update did document =>
        rcases change_opening_traces trace with ⟨_, -, ⟨⟩⟩ | ⟨admitted, ⟨⟩⟩
        exact .update admitted place
    | deactivate did =>
        rcases change_opening_traces trace with ⟨_, -, ⟨⟩⟩ | ⟨admitted, ⟨⟩⟩
        exact .deactivate admitted place
    | createResource did payload =>
        obtain ⟨network, named, rfl, ⟨⟩⟩ := Program.ofExcept_bind_traces_ok.mp trace
        exact .createResource named place
    | updateResource did payload =>
        obtain ⟨network, named, rfl, ⟨⟩⟩ := Program.ofExcept_bind_traces_ok.mp trace
        exact .updateResource named place

end Openings

/-- No conversation is opened on the way of an operation that stops. -/
theorem Stops.not_opens {error : Error} (stops : operation.Stops services exchanges error)
    (begins : before <+: exchanges) : ¬ operation.Opens services before protocol := by
  intro opens
  cases opens with
  | create allowed network_eq drafts place drafted =>
      cases (stops : Did.Undrafted services _ exchanges error) with
      | seeded given strict => exact allowed ⟨given, strict⟩
      | keyless => exact absurd begins.length_le (by simp)
      | draftless _ place none reason =>
          subst network_eq
          cases drafts.symm.trans place
          cases begins.eq_of_length rfl
          exact none ⟨_, drafted⟩
  | update admitted place => exact stops.not_admits begins admitted
  | deactivate admitted place => exact stops.not_admits begins admitted
  | createResource named place => cases named.symm.trans stops.2
  | updateResource named place => cases named.symm.trans stops.2

/-- An operation submits nothing before it stops. -/
theorem Stops.not_submits {error : Error}
    (stops : operation.Stops services exchanges error) : ¬ Submits exchanges := by
  have refused : ∀ {did : String}, Did.Refuses services did exchanges error →
      ¬ Submits exchanges := by
    rintro did (_ | _ | _ | _) <;> simp [Submits, Exchange.isSubmission, Exchange.document?,
      Resolver.inquiry]
  cases operation with
  | create options =>
      cases (stops : Did.Undrafted services options exchanges error) <;>
        simp [Submits, Exchange.isSubmission, Exchange.document?, Did.creationDraft,
          Registrar.draftRequest]
  | update did document => exact refused stops
  | deactivate did => exact refused stops
  | createResource did payload => simp [stops.1, Submits]
  | updateResource did payload => simp [stops.1, Submits]

/-! ### Conversations -/

/-- An operation stops, or it opens a dialogue, which it concludes. -/
theorem program_traces {result : Except Error Unit}
    (usable : Services.ofSettings settings = .ok services)
    (web : services.registrar.isWeb = true)
    (trace : (operation.program services).Traces exchanges result) :
    (∃ error, operation.Stops services exchanges error ∧ result = .error error) ∨
    ∃ before opening url rounds ending,
      operation.Opens services before ((operation.job opening).protocol url
        services.settings.maxRounds opening.envelope) ∧
      exchanges = before ++ rounds.flatMap Round.exchanges ∧
      (operation.job opening).Dialogue url services.settings.maxRounds services.settings.maxRounds
        opening.envelope rounds ending ∧
      result = ending.bind operation.conclude := by
  rw [program_eq] at trace
  rcases Program.bind_traces.mp trace with
    ⟨error, opened, rfl⟩ | ⟨before, after, opening, rfl, opened, driven⟩
  · exact Or.inl ⟨error, stops_of_traces usable web opened, rfl⟩
  · obtain ⟨ending, performed, rfl⟩ := Program.bind_ofExcept_traces.mp driven
    obtain ⟨url, place, placeWeb⟩ :=
      Registrar.exists_endpointUrl usable web operation.endpoint.path
    obtain ⟨rounds, rfl, dialogue⟩ := Job.perform_dialogue place placeWeb performed
    exact Or.inr ⟨before, opening, url, rounds, ending,
      (opens_iff usable web).mpr ⟨opening, url, opened, place, rfl⟩, rfl, dialogue, rfl⟩

/-- A conversation that keeps its protocol submits something. -/
theorem submits_of_kept {rounds : List Round} (begun : rounds ≠ [])
    (kept : protocol.Kept rounds) : Submits (before ++ rounds.flatMap Round.exchanges) := by
  obtain ⟨round, later, rfl⟩ := List.exists_cons_of_ne_nil begun
  refine ⟨⟨.fetch round.request, round.delivery⟩, ?_, ?_⟩
  · simp [Round.exchanges]
  · rw [kept.opening round rfl]
    rfl

/-- Whatever the registrar, the resolver and the wallet answer, an operation keeps to its protocol.
It submits something exactly if it has come to open a conversation: a creation with a draft for its
new key, a change with a DID that the resolver reports as active, and a publication with a DID that
names a network. From then on everything is submitted at the endpoint of the operation, beginning
with its envelope. Another submission follows just where the registrar has asked for signatures in
time and has got them, in one batch for the requests as they came, behind the bindings of all their
key IDs if this is a creation; and it carries these signatures for the job that was named. -/
theorem conforms {σ : Type} (usable : Services.ofSettings settings = .ok services)
    (web : services.registrar.isWeb = true) (operation : Operation)
    (surroundings : Surroundings σ) (state : σ) :
    operation.Conforms services
      ((operation.program services).run surroundings state).exchanges
      ((operation.program services).run surroundings state).result ∧
    (Submits ((operation.program services).run surroundings state).exchanges ↔
      ∃ before protocol,
        before <+: ((operation.program services).run surroundings state).exchanges ∧
        operation.Opens services before protocol) := by
  have trace := Program.run_traces surroundings (operation.program services) state
  rcases program_traces usable web trace with
    ⟨error, stops, failed⟩ | ⟨before, opening, url, rounds, ending, opens, made, dialogue, -⟩
  · rw [failed]
    refine ⟨.stopped stops, iff_of_false (stops.not_submits) ?_⟩
    rintro ⟨before, protocol, begins, opens⟩
    exact stops.not_opens begins opens
  · rw [made]
    exact ⟨.conversed opens dialogue.ne_nil dialogue.kept,
      iff_of_true (submits_of_kept dialogue.ne_nil dialogue.kept)
        ⟨before, _, List.prefix_append _ _, opens⟩⟩

/-- A registrar that drafts a document and asks for signatures in two rounds before it reports the
new DID, and a wallet that returns the first batch with the last signature first. -/
def twoRounds : Script where
  reachable := true
  deliveries := [.obj [("id", .str "did:cheqd:testnet:a")],
    JobResponse.toJson ⟨some "i", .action [⟨"k", "a"⟩, ⟨"l", "b"⟩] none⟩,
    JobResponse.toJson ⟨some "j", .action [⟨"k", "c"⟩] none⟩,
    JobResponse.toJson ⟨some "j", .finished ⟨none, none, none, none, none⟩⟩].map fun document =>
      .replied ⟨200, Bytes.ofText document.render⟩
  createKey := [.ok [7, 171]]
  assignKid := []
  sign := [.reversed, .inOrder]
  now := 0

/-- A creation without seed against this script. -/
def creationInTwoRounds : Run Script Unit :=
  ((create ⟨none, none⟩).program .standard).run Script.surroundings twoRounds

/-- It submits the draft and the signatures of both rounds. -/
theorem documents_creationInTwoRounds :
    creationInTwoRounds.exchanges.filterMap Exchange.document? =
      [.obj [("didDocument", .obj [("id", .str "did:cheqd:testnet:a")]),
          ("network", .str "testnet")],
        resubmission [("network", .str "testnet")] "i" [⟨"l", "sig(b)"⟩, ⟨"k", "sig(a)"⟩],
        resubmission [("network", .str "testnet")] "j" [⟨"k", "sig(c)"⟩]] := by
  decide +kernel

/-- A new DID is created in three submissions, behind what opens its conversation. -/
theorem conforms_twoRounds :
    Services.ofSettings .standard = .ok .standard ∧ Services.standard.registrar.isWeb = true ∧
      (creationInTwoRounds.exchanges.filterMap Exchange.document?).length = 3 ∧
      (create ⟨none, none⟩).Conforms .standard creationInTwoRounds.exchanges
        creationInTwoRounds.result ∧
      ∃ before protocol, before <+: creationInTwoRounds.exchanges ∧
        (create ⟨none, none⟩).Opens .standard before protocol := by
  obtain ⟨conforms, submits⟩ := conforms Services.ofSettings_standard rfl (create ⟨none, none⟩)
    Script.surroundings twoRounds
  have documents := documents_creationInTwoRounds
  refine ⟨Services.ofSettings_standard, rfl, by rw [documents]; rfl, conforms, submits.mp ?_⟩
  have first := documents ▸ List.mem_cons_self ..
  obtain ⟨exchange, member, sent⟩ := List.mem_filterMap.mp first
  exact ⟨exchange, member, by rw [Exchange.isSubmission, sent]; rfl⟩

end DidRegistry.Operation
