import DidRegistry.Proofs.Fault.Steps

/-!
What a failure says about who is at fault. A task is any operation on DIDs, resources or AnonCreds
objects (`Task`); each attributes its errors along all its runs (`Task.attributes`), whatever the
base URLs are.

Main statement: over HTTP, the caller is at fault exactly if the policy on seeds stops a task before
anything is logged, or if the last event is a call on the wallet; and nothing follows a fault, so
nothing is tried again or undone (`Task.attributed`).
-/

namespace DidRegistry

/-! ### Creation and publication -/

section Parts

variable {services : Services} {expects : Nat → Reading} {place : Place}

namespace Did

theorem readDraft_foreign (url : Url) (reply : HttpReply) :
    Except.Foreign (Registrar.readDraft url reply) := by
  unfold Registrar.readDraft
  split
  · exact .of_error trivial
  · split
    · exact .of_ok _
    · exact .of_error trivial

/-- A draft that is read comes with status 200. -/
theorem accepted_of_readDraft {url : Url} {reply : HttpReply} {body : Value}
    (read : Registrar.readDraft url reply = .ok body) :
    reply.status = 200 ∧ Value.ofBytes? reply.body = some body := by
  unfold Registrar.readDraft at read
  split at read
  · cases read
  · split at read
    · cases read
      exact ⟨not_not.mp ‹_›, ‹_›⟩
    · cases read

/-- What follows once a new key is there: the request for a draft, then the job. -/
theorem enrol_attributes (drafts : expects place.requests = .draft)
    (reports : ∀ requests, place.requests + 1 ≤ requests → expects requests = .report .create)
    (network : String) (verkey : Bytes) :
    (enrol services network verkey).Attributes services expects place fun _ => True := by
  unfold enrol
  rw [Registrar.draft_eq_bind]
  simp only [Program.bind_assoc]
  refine Registrar.request_attributes (fun _ => rfl) ?_ ?_
  · intro url reply fails
    cases read : Registrar.readDraft url reply with
    | error error => exact ⟨error, rfl⟩
    | ok body =>
        obtain ⟨accepted, written⟩ := accepted_of_readDraft read
        cases drafted : Draft.ofBody? body with
        | none => exact ⟨.documentConstruction, by rw [Program.ofExcept_ok_bind, drafted]; rfl⟩
        | some draft =>
            rw [drafts] at fails
            cases fails with
            | unaccepted status => exact absurd accepted status
            | undecodable unread => exact absurd ⟨body, draft, written, drafted⟩ unread
            | abandoned report => cases report
  · intro url reply
    refine .foreign_bind (readDraft_foreign url reply) rfl fun body _ => ?_
    cases Draft.ofBody? body with
    | none => exact .fail rfl
    | some draft => exact .bind (Job.perform_attributes reports) fun _ _ _ => .done trivial

theorem create_attributes (drafts : expects 0 = .draft)
    (reports : ∀ requests, 1 ≤ requests → expects requests = .report .create)
    (options : CreateOptions) :
    (create services options).Attributes services expects .start fun _ => True := by
  rw [create_eq_enrol]
  split
  · exact .fail rfl
  · refine .bind (.createKey options.seed) ?_
    rintro verkey _ rfl
    exact enrol_attributes drafts reports _ _

theorem ensureActive_attributes (quiet : place.wallet = false)
    (reading : expects place.requests = .resolution) (did : String) :
    (ensureActive services did).Attributes services expects place (· = place.asked) := by
  have sequence : ensureActive services did =
      (Program.ofExcept (Resolver.identifierUrl services.resolver did)).bind fun url =>
        (Program.fetch (Resolver.inquiry url Resolver.resolutionForm)).bind fun reply =>
          .ofExcept (Resolver.judgement did url reply) := by
    cases found : Resolver.identifierUrl services.resolver did with
    | error error =>
        unfold ensureActive Resolver.resolve
        rw [Resolver.lookup_eq, found]
        rfl
    | ok url => exact ensureActive_eq_judged found
  rw [sequence]
  refine Resolver.inquiry_attributes quiet (Resolver.judgement_foreign did) ?_
  intro url reply _ judged
  obtain ⟨status, body, resolution, written, decoded, -⟩ := Resolver.judgement_eq_ok_iff.mp judged
  rw [reading]
  exact ⟨nofun, status, body, resolution, written, decoded⟩

theorem change_attributes {endpoint : Endpoint} (reading : expects 0 = .resolution)
    (reports : ∀ requests, 1 ≤ requests → expects requests = .report endpoint) (did : String)
    (envelope : Json) :
    (change services endpoint did envelope).Attributes services expects .start fun _ => True := by
  refine .bind (ensureActive_attributes rfl reading did) ?_
  rintro _ _ rfl
  exact .bind (Job.perform_attributes reports) fun _ _ _ => .done trivial

end Did

theorem Identifier.network_foreign (did : String) : Except.Foreign (Identifier.network did) := by
  unfold network
  split
  · exact .of_error trivial
  · dsimp only
    split
    · exact .of_error trivial
    · exact .of_ok _

theorem Resource.published_foreign (completed : CompletedJob) :
    Except.Foreign (published completed) := by
  unfold published
  split
  · exact .of_ok _
  · exact .of_error trivial

theorem Resource.publish_attributes (mode : Mode) (quiet : place.wallet = false)
    (reports : ∀ requests, place.requests ≤ requests →
      expects requests = .report mode.endpoint)
    (did : String) (payload : ResourcePayload) :
    (publish services mode did payload).Attributes services expects place fun _ => True := by
  refine .foreign_bind (Identifier.network_foreign did) quiet fun network _ => ?_
  exact .bind (Job.perform_attributes reports) fun completed _ still =>
    .foreign (published_foreign completed) still trivial

namespace AnonCreds

variable {α : Type} [ResourceContent α]

theorem publish_attributes (mode : Resource.Mode) (quiet : place.wallet = false)
    (reports : ∀ requests, place.requests ≤ requests →
      expects requests = .report mode.endpoint)
    (name version : String) (value : α) :
    (publish services mode name version value).Attributes services expects place fun _ => True :=
  .bind (Resource.publish_attributes mode quiet reports _ _) fun _ _ _ => .done trivial

theorem RevocationStatusList.revoke_foreign (list : RevocationStatusList)
    (indexes : List UInt32) : Except.Foreign (list.revoke indexes) := by
  unfold revoke
  dsimp only
  split
  · exact .of_error trivial
  · exact .of_ok _

theorem RevocationStatusList.nextTimestamp_foreign (list : RevocationStatusList) (now : Int64) :
    Except.Foreign (list.nextTimestamp now) := by
  unfold nextTimestamp
  split
  · exact .of_ok _
  · split
    · exact .of_error trivial
    · exact .of_ok _

theorem publishChange_attributes (quiet : place.wallet = false)
    (reports : ∀ requests, place.requests ≤ requests →
      expects requests = .report .updateResource)
    (name : String) (list : RevocationStatusList) (update : RevListUpdate) :
    (publishChange services name list update).Attributes services expects place
      fun _ => True := by
  refine .foreign_bind (list.revoke_foreign update.revoked) quiet fun revoked _ => ?_
  refine .bind (timeOrNow_attributes none) ?_
  rintro now _ rfl
  refine .foreign_bind (revoked.nextTimestamp_foreign now) quiet fun timestamp _ => ?_
  exact publish_attributes .update quiet reports _ _ _

end AnonCreds
end Parts

/-! ### Tasks -/

/-- The operations of a registry, with their arguments. -/
inductive Task where
  | perform (operation : Operation)
  | deactivateResource (did resourceId : String)
  | register (operation : AnonCreds.RegistryOperation)
  | getSchema (id : String)
  | getCredentialDefinition (id : String)
  | getRevocationRegistryDefinition (id : String)
  | getRevocationList (registryId : String) (timestamp : Option Int64)

namespace Task

def program (services : Services) : Task → Program Unit
  | .perform operation => operation.program services
  | .deactivateResource did resourceId => Resource.deactivate did resourceId
  | .register operation => (operation.program services).bind fun _ => .done ()
  | .getSchema id => (AnonCreds.getSchema services id).bind fun _ => .done ()
  | .getCredentialDefinition id =>
      (AnonCreds.getCredentialDefinition services id).bind fun _ => .done ()
  | .getRevocationRegistryDefinition id =>
      (AnonCreds.getRevocationRegistryDefinition services id).bind fun _ => .done ()
  | .getRevocationList registryId timestamp =>
      (AnonCreds.getRevocationList services registryId timestamp).bind fun _ => .done ()

/-- What the replies to the first requests of a task are read as. -/
def inquiries : Task → List Reading
  | .perform (.create _) => [.draft]
  | .perform (.update _ _) | .perform (.deactivate _) => [.resolution]
  | .register (.registerCredentialDefinition _) => [.object .schema]
  | .register (.registerRevocationRegistryDefinition _) => [.object .credentialDefinition]
  | .register (.registerRevocationList _) | .getRevocationList _ _ =>
      [.object .revocationRegistryDefinition]
  | .register (.updateRevocationList _ _) =>
      [.object .revocationRegistryDefinition, .object .statusList]
  | _ => []

/-- What all further replies are read as. A resource is deactivated without a request. -/
def last : Task → Reading
  | .perform operation => .report operation.endpoint
  | .register (.updateRevocationList _ _) | .deactivateResource _ _ => .report .updateResource
  | .register _ => .report .createResource
  | .getSchema _ => .object .schema
  | .getCredentialDefinition _ => .object .credentialDefinition
  | .getRevocationRegistryDefinition _ => .object .revocationRegistryDefinition
  | .getRevocationList _ _ => .object .statusList

/-- What the reply to a request is read as, by how many requests came before. -/
def reading (task : Task) (requests : Nat) : Reading := task.inquiries[requests]?.getD task.last

theorem reading_of_le {task : Task} {requests : Nat} (above : task.inquiries.length ≤ requests) :
    task.reading requests = task.last := by
  rw [reading, List.getElem?_eq_none above, Option.getD_none]

variable {services : Services}

theorem perform_attributes (operation : Operation) :
    (operation.program services).Attributes services (reading (.perform operation)) .start
      fun _ => True := by
  have reports : ∀ requests, (inquiries (.perform operation)).length ≤ requests →
      reading (.perform operation) requests = .report operation.endpoint :=
    fun _ above => reading_of_le above
  cases operation with
  | create options =>
      exact .bind (Did.create_attributes rfl reports options) fun _ _ _ => .done trivial
  | update did document =>
      exact .bind (Did.change_attributes rfl reports did _) fun _ _ _ => .done trivial
  | deactivate did =>
      exact .bind (Did.change_attributes rfl reports did _) fun _ _ _ => .done trivial
  | createResource did payload =>
      exact .bind (Resource.publish_attributes .create rfl reports did payload)
        fun _ _ _ => .done trivial
  | updateResource did payload =>
      exact .bind (Resource.publish_attributes .update rfl reports did payload)
        fun _ _ _ => .done trivial

open AnonCreds in
theorem register_attributes (operation : RegistryOperation) :
    (operation.program services).Attributes services (reading (.register operation)) .start
      fun _ => True := by
  have reports : ∀ requests, (inquiries (.register operation)).length ≤ requests →
      reading (.register operation) requests = last (.register operation) :=
    fun _ above => reading_of_le above
  cases operation with
  | registerSchema schema => exact publish_attributes .create rfl reports _ _ _
  | registerCredentialDefinition definition =>
      refine .bind (get_attributes kindHolds_schema rfl rfl _) ?_
      rintro schema _ rfl
      exact publish_attributes .create rfl reports _ _ _
  | registerRevocationRegistryDefinition definition =>
      refine .bind (get_attributes kindHolds_credentialDefinition rfl rfl _) ?_
      rintro credentials _ rfl
      refine .foreign_bind (resourceName_foreign _ _) rfl fun name _ => ?_
      exact publish_attributes .create rfl reports _ _ _
  | registerRevocationList list =>
      change (registerRevocationList services list).Attributes _ _ _ _
      rw [registerRevocationList_eq_registryName]
      refine .bind (registryName_attributes rfl rfl _) ?_
      rintro name _ rfl
      refine .bind (timeOrNow_attributes list.timestamp) ?_
      rintro timestamp _ rfl
      exact publish_attributes .create rfl reports _ _ _
  | updateRevocationList registryId update =>
      refine .bind (listInForce_attributes rfl rfl rfl registryId none) ?_
      rintro found _ rfl
      exact publishChange_attributes rfl reports _ _ _

-- What the programs do is said by the lemmas above; matching them must not evaluate them.
attribute [local irreducible] AnonCreds.get AnonCreds.getRevocationList

/-- Every task attributes its errors, whatever the base URLs are. -/
theorem attributes (task : Task) :
    (task.program services).Attributes services task.reading .start fun _ => True := by
  cases task with
  | perform operation => exact perform_attributes operation
  | deactivateResource did resourceId => exact .fail rfl
  | register operation => exact .bind (register_attributes operation) fun _ _ _ => .done trivial
  | getSchema id =>
      exact .bind (AnonCreds.get_attributes AnonCreds.kindHolds_schema rfl rfl id)
        fun _ _ _ => .done trivial
  | getCredentialDefinition id =>
      exact .bind (AnonCreds.get_attributes AnonCreds.kindHolds_credentialDefinition rfl rfl id)
        fun _ _ _ => .done trivial
  | getRevocationRegistryDefinition id =>
      exact .bind
        (AnonCreds.get_attributes AnonCreds.kindHolds_revocationRegistryDefinition rfl rfl id)
        fun _ _ _ => .done trivial
  | getRevocationList registryId timestamp =>
      exact .bind
        (AnonCreds.getRevocationList_attributes rfl rfl rfl registryId timestamp)
        fun _ _ _ => .done trivial

end Task

/-! ### Who is at fault -/

/-- What a run says about who is at fault, given what the replies to its requests are read as. -/
structure Run.Attributed {σ α : Type} (run : Run σ α) (reading : Nat → Reading) : Prop where
  /-- The caller is at fault exactly if the policy on seeds stops the run before anything is logged,
  or if the last event is a call on the wallet. -/
  caller : ∀ error, run.result = .error error →
    (error.isClientError = true ↔
      (error = .keyPolicy ∧ logged run.exchanges = []) ∨
        ∃ event, (logged run.exchanges).getLast? = some event ∧ event.isWallet = true)
  /-- Nothing follows a fault, and the run fails. -/
  stops : ∀ before exchange after, run.exchanges = before ++ exchange :: after →
    exchange.Fails (reading (before.countP Exchange.isRequest)) →
    after = [] ∧ ∃ error, run.result = .error error
  /-- Where every request finds its peer, the log is what an observer sees. -/
  seen : (∀ request, (⟨.fetch request, Delivery.refused⟩ : Exchange) ∉ run.exchanges) →
    run.events = logged run.exchanges

/-- Over HTTP, where an error arises tells whether the caller is at fault. -/
theorem Error.Arises.isClientError_iff {settings : Settings} {services : Services} {place : Place}
    {error : Error} (usable : Services.ofSettings settings = .ok services)
    (web : services.registrar.isWeb = true) (arises : error.Arises services place) :
    error.isClientError = true ↔ (error = .keyPolicy ∧ place = .start) ∨ place.wallet = true := by
  have unblamed (quiet : place.wallet = false) (other : error ≠ .keyPolicy) :
      ¬ ((error = .keyPolicy ∧ place = .start) ∨ place.wallet = true) := by
    rintro (⟨same, -⟩ | last)
    · exact other same
    · rw [quiet] at last
      cases last
  cases error with
  | keyPolicy => exact iff_of_true rfl (Or.inl ⟨rfl, arises⟩)
  | signing reason => exact iff_of_true rfl (Or.inr arises)
  | wallet reason => exact iff_of_true rfl (Or.inr arises)
  | config reason =>
      obtain ⟨name, missing⟩ := arises
      obtain ⟨url, found, -⟩ := Registrar.exists_endpointUrl usable web name
      rw [found] at missing
      cases missing
  | request =>
      refine iff_of_false Bool.false_ne_true (unblamed ?_ nofun)
      rw [← Bool.not_eq_true]
      intro last
      rw [arises last] at web
      cases web
  | _ => exact iff_of_false Bool.false_ne_true (unblamed arises nofun)

/-- Over HTTP, every failure of a task says who is at fault. The caller is, if seeds are given that
the settings do not allow, or if the last that was logged is a call on the wallet; otherwise a peer
is, or what it has answered. Nothing follows a fault: the wallet or a peer that fails, also by an
answer that cannot be used, is not asked again, and nothing is undone. -/
theorem Task.attributed {σ : Type} {settings : Settings} {services : Services}
    (usable : Services.ofSettings settings = .ok services)
    (web : services.registrar.isWeb = true) (task : Task) (surroundings : Surroundings σ)
    (state : σ) :
    ((task.program services).run surroundings state).Attributed task.reading := by
  have trace := Program.run_traces surroundings (task.program services) state
  obtain ⟨arises, stops⟩ := task.attributes.of_traces trace
  constructor
  · intro error failed
    rw [← Place.following_start_eq_iff, ← Place.following_start_wallet_iff]
    exact (arises error failed).isClientError_iff usable web
  · intro before exchange after split fails
    refine stops before exchange after split ?_
    rw [Place.requests_following]
    exact (Nat.zero_add _).symm ▸ fails
  · exact filterMap_event?_eq_logged

/-- The reply of a registrar that drafts a document and asks for a signature at once. -/
def askingReply : HttpReply :=
  ⟨200, Bytes.ofText (Json.obj [("id", .str "did:cheqd:testnet:a"), ("jobId", .str "1"),
    ("didState", (JobState.action [⟨"key", "payload"⟩] none).toJson)]).render⟩

/-- A registrar that replies so to everything, and a wallet that creates keys but does not sign. -/
def Surroundings.locked : Surroundings Unit where
  answer
    | .fetch _, _ => (.replied askingReply, ())
    | .createKey _, _ => (.ok [], ())
    | .assignKid _ _, _ => (.ok (), ())
    | .sign _, _ => (.error "locked", ())
    | .clock, _ => ((0 : Int64), ())

/-- A wallet that does not sign is at fault, and it is what the log ends with. -/
theorem Task.attributed_locked :
    Services.ofSettings .standard = .ok .standard ∧ Services.standard.registrar.isWeb = true ∧
      (((perform (.create ⟨none, none⟩)).program .standard).run .locked ()).result =
        .error (.signing "locked") ∧
      ∃ event, (logged (((perform (.create ⟨none, none⟩)).program .standard).run
        .locked ()).exchanges).getLast? = some event ∧ event.isWallet = true := by
  have failed : (((perform (.create ⟨none, none⟩)).program .standard).run .locked ()).result =
      .error (.signing "locked") := by
    decide +kernel
  refine ⟨Services.ofSettings_standard, rfl, failed, ?_⟩
  have attributed := attributed Services.ofSettings_standard rfl (perform (.create ⟨none, none⟩))
    .locked ()
  rcases (attributed.caller _ failed).mp rfl with ⟨⟨⟩, -⟩ | ended
  exact ended

end DidRegistry
