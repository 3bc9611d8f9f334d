import DidRegistry.Did.Lifecycle
import DidRegistry.Proofs.Did.Resolution
import DidRegistry.Proofs.Job.Dialogue
import DidRegistry.Proofs.Url.Endpoint

/-!
What the creation of a DID does: a call for a key, a request for a draft and a dialogue. Every stage
may be the last, and then nothing follows it (`create_traces`).
-/

namespace DidRegistry

namespace Registrar

def draftRequest (url : Url) (network publicKeyHex verificationMethod : String) : HttpRequest :=
  ⟨url.withQuery (draftQuery network publicKeyHex verificationMethod), accept, none⟩

/-- Reads the reply to a request for a draft. -/
def readDraft (url : Url) (reply : HttpReply) : Except Error Value :=
  if reply.status ≠ 200 then .error (.transport url.render reply.status)
  else match Value.ofBytes? reply.body with
    | some document => .ok document
    | none => .error .request

/-- A request for a draft as a sequence. -/
theorem draft_eq_bind (base : Url) (network publicKeyHex verificationMethod : String) :
    draft base network publicKeyHex verificationMethod =
      (Program.ofExcept (endpointUrl base "did-document")).bind fun url =>
        (Program.fetch (draftRequest url network publicKeyHex verificationMethod)).bind
          fun reply => .ofExcept (readDraft url reply) := by
  unfold draft
  change (Program.ofExcept _).bind _ = _
  congr 1
  funext url
  change (Program.fetch _).bind _ = _
  congr 1
  funext reply
  simp only [readDraft]
  split
  · rfl
  · cases Value.ofBytes? reply.body <;> rfl

theorem draft_eq {base url : Url} (network publicKeyHex verificationMethod : String)
    (found : endpointUrl base "did-document" = .ok url) (web : url.isWeb = true) :
    draft base network publicKeyHex verificationMethod =
      .ask (.fetch (draftRequest url network publicKeyHex verificationMethod)) fun delivery =>
        .ofExcept (Delivery.read delivery (readDraft url)) := by
  rw [draft_eq_bind, found, Program.ofExcept_ok_bind]
  exact Program.fetch_read_eq web (readDraft url)

end Registrar

namespace Did

variable {settings : Settings} {services : Services}

/-- The draft that the delivery of one brings. -/
def drafted (url : Url) (delivery : Delivery) : Except Error Draft :=
  match delivery.read (Registrar.readDraft url) with
  | .error error => .error error
  | .ok body =>
      match Draft.ofBody? body with
      | none => .error .documentConstruction
      | some draft => .ok draft

/-- A draft that is brought comes with status 200, in a body that can be read. -/
theorem drafted_eq_ok {url : Url} {delivery : Delivery} {draft : Draft}
    (brought : drafted url delivery = .ok draft) :
    ∃ reply body, delivery = .replied reply ∧ reply.status = 200 ∧
      Value.ofBytes? reply.body = some body ∧ Draft.ofBody? body = some draft := by
  cases delivery with
  | dropped => cases brought
  | refused => cases brought
  | replied reply =>
      simp only [drafted, Delivery.read, Registrar.readDraft] at brought
      by_cases accepted : reply.status = 200
      · rw [if_neg (fun refused => refused accepted)] at brought
        cases read : Value.ofBytes? reply.body with
        | none =>
            rw [read] at brought
            cases brought
        | some body =>
            cases found : Draft.ofBody? body with
            | none =>
                simp only [read, found] at brought
                cases brought
            | some other =>
                simp only [read, found] at brought
                cases brought
                exact ⟨reply, body, rfl, accepted, read, found⟩
      · rw [if_pos accepted] at brought
        cases brought

def creation (network : String) (verkey : Bytes) : Job :=
  ⟨.create, ⟨some network, none, none⟩, some verkey⟩

def createdResult (draft : Draft) (verkey : Bytes) (completed : CompletedJob) : DidResult :=
  ⟨completed.outcome.did.getD draft.did, some (Hex.encode verkey), completed.outcome.didDocument,
    completed.jobId⟩

/-- The request for the draft of a DID that is created with these options. -/
def creationDraft (services : Services) (options : CreateOptions) (url : Url) (verkey : Bytes) :
    HttpRequest :=
  Registrar.draftRequest url (options.network.getD services.settings.network) (Hex.encode verkey)
    services.settings.verificationMethod

/-- A draft that is asked for and looked at is one request. -/
theorem draft_bind_eq {α : Type} {base url : Url} {network publicKeyHex verificationMethod : String}
    (found : Registrar.endpointUrl base "did-document" = .ok url) (web : url.isWeb = true)
    (next : Draft → Program α) :
    ((Registrar.draft base network publicKeyHex verificationMethod).bind fun body =>
      (Draft.ofBody? body).elim (.fail .documentConstruction) next) =
      .ask (.fetch (Registrar.draftRequest url network publicKeyHex verificationMethod))
        fun delivery => (Program.ofExcept (drafted url delivery)).bind next := by
  rw [Registrar.draft_eq _ _ _ found web]
  simp only [Program.bind, Program.ask.injEq, heq_eq_eq, true_and]
  funext delivery
  unfold drafted
  cases Delivery.read delivery (Registrar.readDraft url) with
  | error error => rfl
  | ok body =>
      simp only [Program.ofExcept_ok_bind]
      cases Draft.ofBody? body <;> rfl

/-- A creation that is allowed, as a sequence. -/
theorem create_eq {options : CreateOptions} {url : Url}
    (allowed : ¬ (options.seed.isSome ∧ services.settings.allowInsecureSeed = false))
    (found : Registrar.endpointUrl services.registrar "did-document" = .ok url)
    (web : url.isWeb = true) :
    create services options = (Program.createKey options.seed).bind fun verkey =>
      .ask (.fetch (creationDraft services options url verkey)) fun delivery =>
        (Program.ofExcept (drafted url delivery)).bind fun draft =>
          ((creation (options.network.getD services.settings.network) verkey).perform
            services.registrar services.settings.maxRounds
            (Envelope.create draft.document
              (options.network.getD services.settings.network))).bind fun completed =>
                .done (createdResult draft verkey completed) := by
  unfold create
  rw [if_neg allowed]
  change (Program.createKey options.seed).bind _ = _
  congr 1
  funext verkey
  rw [creationDraft, ← draft_bind_eq found web]
  change (Registrar.draft _ _ _ _).bind _ = _
  congr 1
  funext body
  cases Draft.ofBody? body <;> rfl

/-- What a creation can come to. -/
theorem create_traces {options : CreateOptions} {exchanges : List Exchange}
    {result : Except Error DidResult}
    (usable : Services.ofSettings settings = .ok services)
    (web : services.registrar.isWeb = true)
    (trace : (create services options).Traces exchanges result) :
    (exchanges = [] ∧ options.seed.isSome = true ∧
      services.settings.allowInsecureSeed = false ∧ result = .error .keyPolicy) ∨
    ∃ answer : Except String Bytes, ∃ rest,
      exchanges = ⟨.createKey options.seed, answer⟩ :: rest ∧
      ((∃ reason, answer = .error reason ∧ rest = [] ∧ result = .error (.wallet reason)) ∨
      ∃ verkey url, ∃ delivery : Delivery, ∃ others, answer = .ok verkey ∧
        Registrar.endpointUrl services.registrar "did-document" = .ok url ∧
        rest = ⟨.fetch (creationDraft services options url verkey), delivery⟩ :: others ∧
        ((∃ error, drafted url delivery = .error error ∧ others = [] ∧ result = .error error) ∨
        ∃ draft place rounds ending, drafted url delivery = .ok draft ∧
          Registrar.endpointUrl services.registrar "create" = .ok place ∧
          others = rounds.flatMap Round.exchanges ∧
          (creation (options.network.getD services.settings.network) verkey).Dialogue place
            services.settings.maxRounds services.settings.maxRounds
            (Envelope.create draft.document (options.network.getD services.settings.network))
            rounds ending ∧
          result = ending.map (createdResult draft verkey))) := by
  by_cases refused : options.seed.isSome ∧ services.settings.allowInsecureSeed = false
  · unfold create at trace
    rw [if_pos refused] at trace
    exact Or.inl ⟨trace.1, refused.1, refused.2, trace.2⟩
  refine Or.inr ?_
  obtain ⟨url, found, urlWeb⟩ := Registrar.exists_endpointUrl usable web "did-document"
  obtain ⟨place, foundPlace, placeWeb⟩ := Registrar.exists_endpointUrl usable web "create"
  rw [create_eq refused found urlWeb] at trace
  rcases Program.bind_traces.mp trace with
    ⟨error, asked, rfl⟩ | ⟨before, rest, verkey, rfl, asked, drafting⟩
  · rw [Program.createKey_eq] at asked
    obtain ⟨answer, rfl, failed⟩ := Program.ask_traces.mp asked
    cases answer with
    | ok verkey => cases failed
    | error reason =>
        cases failed
        exact ⟨.error reason, [], rfl, Or.inl ⟨reason, rfl, rfl, rfl⟩⟩
  · rw [Program.createKey_eq] at asked
    obtain ⟨answer, rfl, made⟩ := Program.ask_traces.mp asked
    cases answer with
    | error reason => cases made
    | ok key =>
        cases made
        refine ⟨.ok verkey, rest, rfl, Or.inr ?_⟩
        obtain ⟨delivery, others, rfl, performing⟩ := drafting
        refine ⟨verkey, url, delivery, others, rfl, found, rfl, ?_⟩
        rcases Program.ofExcept_bind_traces.mp performing with
          ⟨error, brought, rfl, rfl⟩ | ⟨draft, brought, performed⟩
        · exact Or.inl ⟨error, brought, rfl, rfl⟩
        refine Or.inr ⟨draft, place, ?_⟩
        rcases Program.bind_traces.mp performed with
          ⟨error, driven, rfl⟩ | ⟨exchanges, _, completed, rfl, driven, rfl, rfl⟩
        · obtain ⟨rounds, rfl, dialogue⟩ := Job.perform_dialogue foundPlace placeWeb driven
          exact ⟨rounds, _, brought, foundPlace, rfl, dialogue, rfl⟩
        · obtain ⟨rounds, rfl, dialogue⟩ := Job.perform_dialogue foundPlace placeWeb driven
          exact ⟨rounds, _, brought, foundPlace, List.append_nil _, dialogue, rfl⟩

end Did
end DidRegistry
