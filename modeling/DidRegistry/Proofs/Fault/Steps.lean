import DidRegistry.Proofs.AnonCreds.Coordinates
import DidRegistry.Proofs.Did.Creation
import DidRegistry.Proofs.Did.Guard
import DidRegistry.Proofs.Fault.Basic

/-!
The parts of operations, as programs that attribute their errors: lookups, jobs, publications and the
creation of DIDs. A part asks for its requests to be read as what it reads them as, and no more is
known of the place where it begins than what its own errors need.

Main statement: a job attributes its errors, wherever it begins (`Job.perform_attributes`). The
induction is on the rounds of signing that are left.
-/

namespace DidRegistry

/-- Errors that tell of peers or arguments: not of the wallet, the policy on seeds or the settings. -/
def Error.IsForeign : Error → Prop
  | .keyPolicy | .signing _ | .wallet _ | .config _ => False
  | _ => True

/-- A value that is had unless there is a foreign error. -/
def Except.Foreign {α : Type} (value : Except Error α) : Prop :=
  ∀ error, value = .error error → error.IsForeign

/-- Foreign errors arise wherever the last event is none of the wallet. -/
theorem Error.IsForeign.arises {error : Error} (foreign : error.IsForeign) {services : Services}
    {place : Place} (quiet : place.wallet = false) : error.Arises services place := by
  cases error with
  | keyPolicy | signing | wallet | config => exact foreign.elim
  | request =>
      intro last
      rw [quiet] at last
      cases last
  | _ => exact quiet

namespace Except.Foreign

variable {α β : Type}

theorem of_ok (value : α) : Foreign (.ok value) := nofun

theorem of_error {error : Error} (foreign : error.IsForeign) :
    Foreign (.error error : Except Error α) := by
  rintro _ ⟨⟩
  exact foreign

theorem bind {value : Except Error α} {next : α → Except Error β} (first : Foreign value)
    (second : ∀ present, Foreign (next present)) : Foreign (value.bind next) := by
  cases value with
  | error error => exact of_error (first error rfl)
  | ok present => exact second present

end Except.Foreign

namespace Program.Attributes

variable {α β : Type} {services : Services} {expects : Nat → Reading} {place : Place}
variable {ends : Place → Prop} {value : Except Error α}

theorem foreign (errors : Except.Foreign value) (quiet : place.wallet = false)
    (reached : ends place) : (Program.ofExcept value).Attributes services expects place ends :=
  .ofExcept reached fun error failed => (errors error failed).arises quiet

theorem foreign_bind {next : α → Program β} (errors : Except.Foreign value)
    (quiet : place.wallet = false)
    (second : ∀ present, value = .ok present →
      (next present).Attributes services expects place ends) :
    ((Program.ofExcept value).bind next).Attributes services expects place ends :=
  .ofExcept_bind (fun error failed => (errors error failed).arises quiet) second

end Program.Attributes

/-! ### The resolver -/

namespace Resolver

theorem identifierUrl_foreign (base : Url) (id : String) :
    Except.Foreign (identifierUrl base id) := by
  intro error failed
  unfold identifierUrl at failed
  split at failed <;> cases failed
  trivial

theorem body?_foreign (url : Url) (reply : HttpReply) : Except.Foreign (body? url reply) := by
  unfold body?
  split
  · exact .of_ok _
  · split
    · split
      · exact .of_ok _
      · exact .of_error trivial
    · exact .of_error trivial

theorem resolution_foreign (body : Value) : Except.Foreign (resolution body) := by
  unfold resolution
  split
  · exact .of_ok _
  · exact .of_error trivial

theorem judgement_foreign (did : String) (url : Url) (reply : HttpReply) :
    Except.Foreign (judgement did url reply) := by
  refine (body?_foreign url reply).bind ?_
  intro body
  cases body with
  | none => exact .of_error trivial
  | some body =>
      refine (resolution_foreign body).bind ?_
      intro resolution
      split
      · exact .of_ok _
      · exact .of_error trivial

/-- A reply with a body has a status that is accepted. -/
theorem accepted_of_body? {url : Url} {reply : HttpReply} {body : Value}
    (read : body? url reply = .ok (some body)) :
    (200 ≤ reply.status ∧ reply.status < 300) ∧ Value.ofBytes? reply.body = some body := by
  unfold body? at read
  split at read
  · cases read
  · split at read
    · split at read
      · cases read
        exact ⟨‹_›, ‹_›⟩
      · cases read
    · cases read

/-- What is looked up at the resolver, as one request whose reply is read: the reply to a faulty
answer may be read to nothing. -/
theorem inquiry_attributes {α : Type} {services : Services} {expects : Nat → Reading}
    {place : Place} {base : Url} {form id : String} {read : Url → HttpReply → Except Error α}
    (quiet : place.wallet = false)
    (errors : ∀ url reply, Except.Foreign (read url reply))
    (reads : ∀ url reply value, read url reply = .ok value →
      (∀ endpoint, expects place.requests ≠ .report endpoint) ∧
        (expects place.requests).Accepts reply.status ∧
        (expects place.requests).Decodes reply.body) :
    ((Program.ofExcept (identifierUrl base id)).bind fun url =>
      (Program.fetch (inquiry url form)).bind fun reply =>
        .ofExcept (read url reply)).Attributes services expects place (· = place.asked) := by
  refine .foreign_bind (identifierUrl_foreign base id) quiet fun url _ => .fetch_bind ?_ ?_ ?_
  · intro _ last
    rw [quiet] at last
    cases last
  · intro reply fails
    cases brought : read url reply with
    | error error => exact ⟨error, rfl⟩
    | ok value =>
        obtain ⟨other, accepted, decoded⟩ := reads url reply value brought
        cases fails with
        | unaccepted status => exact absurd accepted status
        | undecodable body => exact absurd decoded body
        | abandoned report => exact absurd report (other _)
  · intro reply
    exact .foreign (errors url reply) rfl rfl

end Resolver

/-! ### Objects -/

theorem Identifier.split_foreign (id : String) : Except.Foreign (Identifier.split id) := by
  unfold split
  split
  · dsimp only
    split
    · exact .of_error trivial
    · exact .of_ok _
  · exact .of_error trivial

namespace AnonCreds

variable {α : Type} [ResourceContent α] {services : Services} {expects : Nat → Reading}
variable {place : Place}

theorem ofResource_foreign (didUrl issuer : String) (resource : Option ResolvedResource) :
    Except.Foreign (ofResource didUrl issuer resource : Except Error (Resolved α)) := by
  cases resource with
  | none => exact .of_error trivial
  | some resolved =>
      unfold ofResource
      dsimp only
      split
      · exact .of_error trivial
      · refine .bind ?_ fun _ => .of_ok _
        unfold ResourceContent.read
        split
        · exact .of_ok _
        · exact .of_error trivial

/-- Whatever is read as an object of its kind holds one. -/
def KindHolds (α : Type) [ResourceContent α] : Prop :=
  ∀ issuer content, ∀ object : α, ResourceContent.read issuer content = .ok object →
    (ResourceContent.resourceType α).Holds content

theorem kindHolds_schema : KindHolds Schema :=
  fun issuer _ object read => ⟨issuer, object, read⟩

theorem kindHolds_credentialDefinition : KindHolds CredentialDefinition :=
  fun issuer _ object read => ⟨issuer, object, read⟩

theorem kindHolds_revocationRegistryDefinition : KindHolds RevocationRegistryDefinition :=
  fun issuer _ object read => ⟨issuer, object, read⟩

theorem kindHolds_revocationStatusList : KindHolds RevocationStatusList :=
  fun issuer _ object read => ⟨issuer, object, read⟩

theorem resolve_attributes (holds : KindHolds α) (quiet : place.wallet = false)
    (reading : expects place.requests = .object (ResourceContent.resourceType α))
    (didUrl issuer : String) :
    (resolve services didUrl issuer : Program (Resolved α)).Attributes services expects place
      (· = place.asked) := by
  have sequence : (resolve services didUrl issuer : Program (Resolved α)) =
      (Program.ofExcept (Resolver.identifierUrl services.resolver didUrl)).bind fun url =>
        (Program.fetch (Resolver.inquiry url Resolver.dereferencingForm)).bind fun reply =>
          .ofExcept ((Resolver.body? url reply).bind fun body =>
            ofResource didUrl issuer (body.map ResolvedResource.ofBody)) := by
    unfold resolve Resolver.dereference
    rw [Resolver.lookup_eq]
    simp only [Program.bind_eq, Program.bind_assoc]
    congr 1
    funext url
    congr 1
    funext reply
    cases Resolver.body? url reply <;> rfl
  rw [sequence]
  refine Resolver.inquiry_attributes quiet ?_ ?_
  · intro url reply
    exact (Resolver.body?_foreign url reply).bind fun _ => ofResource_foreign _ _ _
  · intro url reply object read
    obtain ⟨body, known, found⟩ := exists_of_bind_eq_ok read
    cases body with
    | none => cases found
    | some body =>
        obtain ⟨status, written⟩ := Resolver.accepted_of_body? known
        rw [reading]
        refine ⟨nofun, status, body, written, ?_⟩
        unfold ofResource at found
        dsimp only [Option.map_some] at found
        split at found
        · cases found
        · obtain ⟨value, taken, -⟩ := exists_of_bind_eq_ok found
          exact holds _ _ _ taken

theorem get_attributes (holds : KindHolds α) (quiet : place.wallet = false)
    (reading : expects place.requests = .object (ResourceContent.resourceType α)) (id : String) :
    (AnonCreds.get services id : Program (Resolved α)).Attributes services expects place
      (· = place.asked) := by
  unfold AnonCreds.get
  exact .foreign_bind (Identifier.split_foreign id) quiet fun parts _ =>
    resolve_attributes holds quiet reading _ _

theorem resourceName_foreign (metadata : Metadata) (id : String) :
    Except.Foreign (resourceName metadata id) := by
  unfold resourceName
  split
  · exact .of_error trivial
  · exact .of_error trivial
  · exact .of_ok _

theorem statusListUrl_foreign (issuer name : String) (epoch : Int64) :
    Except.Foreign (statusListUrl issuer name epoch) := by
  unfold statusListUrl
  split
  · exact .of_ok _
  · exact .of_error trivial

theorem registryName_attributes (quiet : place.wallet = false)
    (reading : expects place.requests = .object .revocationRegistryDefinition)
    (registryId : String) :
    (registryName services registryId).Attributes services expects place (· = place.asked) := by
  refine .bind (get_attributes kindHolds_revocationRegistryDefinition quiet reading _) ?_
  rintro definition after rfl
  exact .foreign (resourceName_foreign _ _) rfl rfl

theorem timeOrNow_attributes (timestamp : Option Int64) :
    (timeOrNow timestamp).Attributes services expects place (· = place) := by
  cases timestamp with
  | some timestamp => exact .done rfl
  | none => exact .ask (fun _ fails => by cases fails) fun _ => .done rfl

theorem listInForce_attributes (quiet : place.wallet = false)
    (first : expects place.requests = .object .revocationRegistryDefinition)
    (second : expects (place.requests + 1) = .object .statusList) (registryId : String)
    (timestamp : Option Int64) :
    (listInForce services registryId timestamp).Attributes services expects place
      (· = place.asked.asked) := by
  rw [listInForce_eq_registryName]
  refine .bind (registryName_attributes quiet first registryId) ?_
  rintro name _ rfl
  refine .foreign_bind (Identifier.split_foreign registryId) rfl fun parts _ => ?_
  refine .bind (timeOrNow_attributes timestamp) ?_
  rintro epoch _ rfl
  refine .foreign_bind (statusListUrl_foreign _ _ _) rfl fun didUrl _ => ?_
  refine .bind (resolve_attributes kindHolds_revocationStatusList rfl second _ _) ?_
  rintro resolved _ rfl
  exact .done rfl

theorem getRevocationList_attributes (quiet : place.wallet = false)
    (first : expects place.requests = .object .revocationRegistryDefinition)
    (second : expects (place.requests + 1) = .object .statusList) (registryId : String)
    (timestamp : Option Int64) :
    (getRevocationList services registryId timestamp).Attributes services expects place
      (· = place.asked.asked) :=
  .bind (listInForce_attributes quiet first second registryId timestamp)
    fun _ _ reached => .done reached

end AnonCreds

/-! ### Jobs -/

namespace Registrar

theorem config_of_endpointUrl {base : Url} {name : String} {error : Error}
    (missing : endpointUrl base name = .error error) : ∃ reason, error = .config reason := by
  unfold endpointUrl at missing
  split at missing
  · cases missing
  · cases missing
    exact ⟨_, rfl⟩

variable {α : Type} {services : Services} {expects : Nat → Reading} {place : Place}
variable {ends : Place → Prop} {name : String}

/-- A request to an endpoint, with all that is made of its reply. Errors of the endpoint's URL and of
an unsent request arise anywhere. -/
theorem request_attributes {request : Url → HttpRequest} {next : Url → HttpReply → Program α}
    (asked : ∀ url, (request url).url.isWeb = url.isWeb)
    (stops : ∀ url reply,
      Exchange.Fails (expects place.requests) ⟨.fetch (request url), Delivery.replied reply⟩ →
      ∃ error, next url reply = .fail error)
    (rest : ∀ url reply, (next url reply).Attributes services expects place.asked ends) :
    ((Program.ofExcept (endpointUrl services.registrar name)).bind fun url =>
      (Program.fetch (request url)).bind (next url)).Attributes services expects place ends := by
  refine .ofExcept_bind ?_ fun url found => .fetch_bind ?_ (stops url) (rest url)
  · intro error missing
    obtain ⟨reason, rfl⟩ := config_of_endpointUrl missing
    exact ⟨name, missing⟩
  · intro other _
    rw [← isWeb_of_endpointUrl found, ← asked url]
    exact other

theorem report_foreign (url : Url) (endpoint : Endpoint) (reply : HttpReply) :
    Except.Foreign (report url endpoint reply) := by
  intro error failed
  have received : received url endpoint (.replied reply) = .error error := failed
  rcases Job.received_error_cases received with rfl | ⟨_, _, rfl⟩ | ⟨_, rfl⟩ <;> trivial

/-- A report that is read comes with a status that is accepted. -/
theorem accepted_of_report {url : Url} {endpoint : Endpoint} {reply : HttpReply}
    {response : JobResponse} (read : report url endpoint reply = .ok response) :
    (Reading.report endpoint).Accepts reply.status ∧
      JobResponse.record.decoder.ofBytes reply.body = .ok response := by
  have received : received url endpoint (.replied reply) = .ok response := read
  obtain ⟨_, ⟨⟩, accepted, decoded⟩ := received_eq_ok_iff.mp received
  exact ⟨accepted, decoded⟩

end Registrar

namespace Job

variable {services : Services} {expects : Nat → Reading} {place : Place} {job : Job}

theorem pending_foreign {response : JobResponse} {ending : Except Error CompletedJob}
    (ended : job.pending response = .error ending) : Except.Foreign ending := by
  unfold pending at ended
  split at ended
  · cases ended
    exact .of_ok _
  · cases ended
    exact .of_error trivial
  · cases ended
    exact .of_error trivial
  · split at ended
    · cases ended
      exact .of_error trivial
    · cases ended

theorem bindKeys_attributes (requests : List SigningRequest) :
    (job.bindKeys requests).Attributes services expects place
      (·.requests = place.requests) := by
  unfold bindKeys
  cases job.bindKey with
  | none => exact .done rfl
  | some verkey => exact .assignKids verkey _

/-- A submission and what follows the report on it. A registrar that gives the job up is noticed
only by what follows, so the two are looked at together. -/
theorem submit_bind_attributes {next : JobResponse → Program CompletedJob}
    {ends : Place → Prop} {envelope : Json}
    (reading : expects place.requests = .report job.endpoint)
    (stops : ∀ response reason, response.state = .error reason →
      ∃ error, next response = .fail error)
    (rest : ∀ response, (next response).Attributes services expects place.asked ends) :
    ((Registrar.submit services.registrar job.endpoint envelope).bind next).Attributes services
      expects place ends := by
  unfold Registrar.submit
  simp only [Program.bind_eq, Program.bind_assoc, Program.monadLift_eq]
  refine Registrar.request_attributes (fun _ => rfl) ?_ ?_
  · intro url reply fails
    cases read : Registrar.report url job.endpoint reply with
    | error error => exact ⟨error, rfl⟩
    | ok response =>
        obtain ⟨accepted, decoded⟩ := Registrar.accepted_of_report read
        rw [reading] at fails
        cases fails with
        | unaccepted status => exact absurd accepted status
        | undecodable body => exact absurd ⟨response, decoded⟩ body
        | abandoned report also state =>
            rw [decoded] at also
            cases also
            exact stops _ _ state
  · intro url reply
    exact .foreign_bind (Registrar.report_foreign url job.endpoint reply) rfl
      fun response _ => rest response

/-- A job that the registrar gives up is over. -/
theorem drive_of_abandoned {base : Url} {maxRounds remaining : Nat} (response : JobResponse)
    (reason : Option String) (state : response.state = .error reason) :
    ∃ error, job.drive base maxRounds remaining response = .fail error := by
  rw [drive, pending, state]
  exact ⟨_, rfl⟩

/-- Answers to reports, begun right after a request. The recursion is on the rounds of signing that
are left. -/
theorem drive_attributes {maxRounds : Nat}
    (reading : ∀ requests, place.requests ≤ requests → expects requests = .report job.endpoint)
    (quiet : place.wallet = false) (remaining : Nat) (response : JobResponse) :
    (job.drive services.registrar maxRounds remaining response).Attributes services expects place
      (·.wallet = false) := by
  induction remaining generalizing place response with
  | zero =>
      rw [drive]
      cases waits : job.pending response with
      | error ending => exact .foreign (pending_foreign waits) quiet quiet
      | ok batch => exact .fail quiet
  | succ remaining ih =>
      rw [drive]
      cases waits : job.pending response with
      | error ending => exact .foreign (pending_foreign waits) quiet quiet
      | ok batch =>
          obtain ⟨jobId, requests⟩ := batch
          dsimp only
          rw [answer_eq]
          simp only [Program.bind_assoc]
          refine .bind (bindKeys_attributes requests) ?_
          intro _ bound same
          refine .bind (.sign requests) ?_
          rintro responses _ rfl
          have later : ∀ requests, bound.requests ≤ requests →
              expects requests = .report job.endpoint := by
            intro requests above
            exact reading requests (same ▸ above)
          refine submit_bind_attributes (later _ le_rfl) drive_of_abandoned ?_
          intro response
          refine ih ?_ rfl response
          intro requests above
          exact later requests (Nat.le_of_succ_le above)

/-- A job, from its submission to its end. -/
theorem perform_attributes {maxRounds : Nat} {envelope : Json}
    (reading : ∀ requests, place.requests ≤ requests → expects requests = .report job.endpoint) :
    (job.perform services.registrar maxRounds envelope).Attributes services expects place
      (·.wallet = false) := by
  refine submit_bind_attributes (reading _ le_rfl) drive_of_abandoned ?_
  intro response
  refine drive_attributes ?_ rfl maxRounds response
  intro requests above
  exact reading requests (Nat.le_of_succ_le above)

end Job
end DidRegistry
