import DidRegistry.Proofs.Did.Lifecycle
import DidRegistry.Proofs.Job.Exhaustion
import DidRegistry.Proofs.Resource.Publishing

/-!
How an operation is built around its job. It opens with calls that submit nothing and have the
wallet neither bind nor sign (`Operation.opening`), it drives one job at its own endpoint, and it
ends with what it makes of the finished job (`Operation.identified_eq`, `Operation.program_eq`).
What holds of jobs then holds of operations, whatever the opening asks for.
-/

namespace DidRegistry

/-- The operations that drive jobs, with their arguments. -/
inductive Operation where
  | create (options : CreateOptions)
  | update (did : String) (document : Value)
  | deactivate (did : String)
  | createResource (did : String) (payload : ResourcePayload)
  | updateResource (did : String) (payload : ResourcePayload)

theorem Job.endpointUrl_not_isExhaustion {base : Url} {name : String} {error : Error}
    (missing : Registrar.endpointUrl base name = .error error) : error.isExhaustion = false := by
  unfold Registrar.endpointUrl at missing
  split at missing
  · cases missing
  · cases missing
    rfl

/-- A request for a draft is one inquiry, and its failures are none of a job. -/
theorem Registrar.draft_within {calls : Call → Prop} {errors : Error → Prop} {base : Url}
    {network publicKeyHex verificationMethod : String}
    (asks : ∀ url, endpointUrl base "did-document" = .ok url →
      calls (.fetch ⟨url.withQuery (draftQuery network publicKeyHex verificationMethod), accept,
        none⟩))
    (fails : ∀ error, error.isExhaustion = false → errors error) :
    (draft base network publicKeyHex verificationMethod).Within calls errors := by
  unfold draft
  simp only [Program.bind_eq, Program.monadLift_eq]
  refine .ofExcept_bind ?_ ?_
  · intro error missing
    exact fails error (Job.endpointUrl_not_isExhaustion missing)
  intro url found
  refine .bind (.fetch (asks url found) (fails _ rfl)) ?_
  intro reply
  split
  · exact .fail (fails _ rfl)
  · split
    · exact .done _
    · exact .fail (fails _ rfl)

namespace Job

section Within

variable {calls : Call → Prop} {errors : Error → Prop} {job : Job} {base : Url}

theorem submit_within {endpoint : Endpoint} {envelope : Json}
    (sends : ∀ url envelope, Registrar.endpointUrl base endpoint.path = .ok url →
      calls (.fetch ⟨url, Registrar.accept, some envelope⟩))
    (fails : ∀ error, errors error) :
    (Registrar.submit base endpoint envelope).Within calls errors := by
  unfold Registrar.submit
  simp only [Program.bind_eq, Program.monadLift_eq]
  exact .ofExcept_bind (fun error _ => fails error) fun url found =>
    .bind (.fetch (sends url envelope found) (fails _)) fun reply =>
      .ofExcept fun error _ => fails error

variable
  (sends : ∀ url envelope, Registrar.endpointUrl base job.endpoint.path = .ok url →
    calls (.fetch ⟨url, Registrar.accept, some envelope⟩))
  (binds : ∀ verkey kid, job.bindKey = some verkey → calls (.assignKid verkey kid))
  (signs : ∀ batch, calls (.sign batch)) (fails : ∀ error, errors error)

include sends binds signs fails

/-- A round binds keys, signs and submits. -/
theorem answer_within {jobId : String} {requests : List SigningRequest} :
    (job.answer base jobId requests).Within calls errors := by
  rw [answer_eq]
  refine .bind ?_ fun _ => .bind (.sign (signs _) fun _ => fails _) fun _ =>
    submit_within sends fails
  unfold bindKeys
  cases key : job.bindKey with
  | none => exact .done ()
  | some verkey => exact .assignKids (fun kid => binds verkey kid key) (fun _ => fails _) _

/-- A job sends requests, binds keys and signs, whatever it is told. The recursion is on the rounds
of signing that are left. -/
theorem drive_within {maxRounds : Nat} (remaining : Nat) {response : JobResponse} :
    (job.drive base maxRounds remaining response).Within calls errors := by
  rw [drive]
  cases job.pending response with
  | error ending => exact .ofExcept fun error _ => fails error
  | ok batch =>
      cases remaining with
      | zero => exact .fail (fails _)
      | succ remaining =>
          exact .bind (answer_within sends binds signs fails) fun _ => drive_within remaining

theorem perform_within {maxRounds : Nat} {envelope : Json} :
    (job.perform base maxRounds envelope).Within calls errors :=
  .bind (submit_within sends fails) fun _ => drive_within sends binds signs fails maxRounds

end Within

end Job

namespace Operation

def endpoint : Operation → Endpoint
  | .create _ => .create
  | .update _ _ => .update
  | .deactivate _ => .deactivate
  | .createResource _ _ => .createResource
  | .updateResource _ _ => .updateResource

def program (services : Services) : Operation → Program Unit
  | .create options => (Did.create services options).bind fun _ => .done ()
  | .update did document => (Did.update services did document).bind fun _ => .done ()
  | .deactivate did => (Did.deactivate services did).bind fun _ => .done ()
  | .createResource did payload =>
      (Resource.publish services .create did payload).bind fun _ => .done ()
  | .updateResource did payload =>
      (Resource.publish services .update did payload).bind fun _ => .done ()

/-- An operation, of whose result only the job is kept. -/
def identified (services : Services) : Operation → Program (Option String)
  | .create options => (Did.create services options).bind fun result => .done result.jobId
  | .update did document => (Did.update services did document).bind fun result => .done result.jobId
  | .deactivate did => (Did.deactivate services did).bind fun result => .done result.jobId
  | .createResource did payload =>
      (Resource.publish services .create did payload).bind fun published => .done published.jobId
  | .updateResource did payload =>
      (Resource.publish services .update did payload).bind fun published => .done published.jobId

/-- The job that an operation names in its result: one on a resource has to name the resource. -/
def identify : Operation → CompletedJob → Except Error (Option String)
  | .create _, completed | .update _ _, completed | .deactivate _, completed =>
      .ok completed.jobId
  | .createResource _ _, completed | .updateResource _ _, completed =>
      (Resource.published completed).map (·.jobId)

/-- What an operation makes of its finished job: one on a resource has to name the resource. -/
def conclude : Operation → CompletedJob → Except Error Unit
  | .create _, _ | .update _ _, _ | .deactivate _, _ => .ok ()
  | .createResource _ _, completed | .updateResource _ _, completed =>
      (Resource.published completed).map fun _ => ()

/-- What an operation has once it has opened. -/
structure Opening where
  /-- What every submission of signatures repeats. -/
  context : Envelope.Context
  /-- The key to which key IDs are bound. -/
  bindKey : Option Bytes
  /-- The envelope that is submitted first. -/
  envelope : Json

/-- How an operation opens: all that it does before it submits anything. -/
def opening (services : Services) : Operation → Program Opening
  | .create options =>
      let network := options.network.getD services.settings.network
      if options.seed.isSome ∧ services.settings.allowInsecureSeed = false then .fail .keyPolicy
      else (Program.createKey options.seed).bind fun verkey =>
        (Registrar.draft services.registrar network (Hex.encode verkey)
          services.settings.verificationMethod).bind fun body =>
            (Did.Draft.ofBody? body).elim (.fail .documentConstruction) fun draft =>
              .done ⟨⟨some network, none, none⟩, some verkey,
                Envelope.create draft.document network⟩
  | .update did document =>
      (Did.ensureActive services did).bind fun _ =>
        .done ⟨.none, none, Envelope.update did document⟩
  | .deactivate did =>
      (Did.ensureActive services did).bind fun _ => .done ⟨.none, none, Envelope.deactivate did⟩
  | .createResource did payload | .updateResource did payload =>
      (Program.ofExcept (Identifier.network did)).bind fun network =>
        .done ⟨⟨none, some did, some (Envelope.options network)⟩, none,
          payload.envelope did network⟩

/-- The job that is performed once the operation has opened. -/
def job (operation : Operation) (opening : Opening) : Job :=
  ⟨operation.endpoint, opening.context, opening.bindKey⟩

/-- All that an operation does from its first submission on. -/
def drive {α : Type} (services : Services) (operation : Operation)
    (conclude : CompletedJob → Except Error α) (opening : Opening) : Program α :=
  ((operation.job opening).perform services.registrar services.settings.maxRounds
    opening.envelope).bind fun completed => .ofExcept (conclude completed)

/-- A program is quiet: it submits nothing, has the wallet neither bind nor sign, and is never
exhausted. -/
def Quiet {α : Type} (program : Program α) : Prop :=
  program.Within (fun call => call.isQuiet = true) (fun error => error.isExhaustion = false)

variable {services : Services}

theorem draft_quiet (base : Url) (network publicKeyHex verificationMethod : String) :
    Quiet (Registrar.draft base network publicKeyHex verificationMethod) :=
  Registrar.draft_within (fun _ _ => rfl) fun _ fails => fails

theorem ensureActive_within {calls : Call → Prop} {errors : Error → Prop} {did : String}
    (asks : ∀ url, Resolver.identifierUrl services.resolver did = .ok url →
      calls (.fetch (Resolver.inquiry url Resolver.resolutionForm)))
    (fails : ∀ error, error.isExhaustion = false → errors error) :
    (Did.ensureActive services did).Within calls errors := by
  unfold Did.ensureActive Resolver.resolve
  simp only [Program.bind_eq]
  refine .bind (.bind (Resolver.lookup_within asks (fun _ => fails _ rfl) (fails _ rfl)
    fun _ _ => fails _ rfl) ?_) ?_
  · intro body
    cases body with
    | none => exact .done _
    | some body =>
        refine .bind (.ofExcept ?_) fun _ => .done _
        intro error unread
        unfold Resolver.resolution at unread
        split at unread
        · cases unread
        · cases unread
          exact fails _ rfl
  · intro resolution
    change Program.Within _ _ (if _ then _ else _)
    split
    · exact .done _
    · exact .fail (fails _ rfl)

theorem ensureActive_quiet (services : Services) (did : String) :
    Quiet (Did.ensureActive services did) :=
  ensureActive_within (fun _ _ => rfl) fun _ fails => fails

theorem network_not_isExhaustion {did : String} {error : Error}
    (unnamed : Identifier.network did = .error error) : error.isExhaustion = false := by
  unfold Identifier.network at unnamed
  split at unnamed
  · cases unnamed
    rfl
  · simp only at unnamed
    split at unnamed
    · cases unnamed
      rfl
    · cases unnamed

/-! ### The operations -/

theorem create_eq_opening (options : CreateOptions) :
    (create options).identified services = ((create options).opening services).bind
      ((create options).drive services (create options).identify) := by
  by_cases refused : options.seed.isSome ∧ services.settings.allowInsecureSeed = false
  · simp only [identified, opening, Did.create, if_pos refused]
    rfl
  · simp only [identified, opening, Did.create, if_neg refused, Program.bind_eq,
      Program.bind_assoc]
    congr 1
    funext verkey
    congr 1
    funext body
    cases Did.Draft.ofBody? body with
    | none => rfl
    | some draft =>
        change ((Job.perform _ _ _ _).bind _).bind _ = _
        rw [Program.bind_assoc]
        rfl

theorem change_eq_opening (endpoint : Endpoint) (did : String) (envelope : Json) :
    ((Did.change services endpoint did envelope).bind fun result => .done result.jobId) =
      (Did.ensureActive services did).bind fun _ =>
        ((Job.plain endpoint).perform services.registrar services.settings.maxRounds
          envelope).bind fun completed => .ofExcept (.ok completed.jobId) := by
  simp only [Did.change, Program.bind_eq, Program.bind_assoc]
  rfl

theorem publish_eq_opening (mode : Resource.Mode) (did : String) (payload : ResourcePayload) :
    ((Resource.publish services mode did payload).bind fun published => .done published.jobId) =
      (Program.ofExcept (Identifier.network did)).bind fun network =>
        ((Resource.publication mode did network).perform services.registrar
          services.settings.maxRounds (payload.envelope did network)).bind fun completed =>
            .ofExcept ((Resource.published completed).map (·.jobId)) := by
  cases named : Identifier.network did with
  | error error =>
      rw [Resource.publish_of_no_network named]
      rfl
  | ok network =>
      rw [Resource.publish_eq named, Program.bind_assoc, Program.ofExcept_ok_bind]
      congr 1
      funext completed
      cases Resource.published completed <;> rfl

-- What the programs do is said by the lemmas above; matching them must not evaluate them.
attribute [local irreducible] Did.create Did.change Resource.publish

/-- Every operation opens, performs its job, and reads what it names off the finished job. -/
theorem identified_eq (services : Services) (operation : Operation) :
    operation.identified services =
      (operation.opening services).bind (operation.drive services operation.identify) := by
  cases operation with
  | create options => exact create_eq_opening options
  | update did document =>
      rw [opening, Program.bind_assoc]
      exact change_eq_opening .update did _
  | deactivate did =>
      rw [opening, Program.bind_assoc]
      exact change_eq_opening .deactivate did _
  | createResource did payload =>
      rw [opening, Program.bind_assoc]
      exact publish_eq_opening .create did payload
  | updateResource did payload =>
      rw [opening, Program.bind_assoc]
      exact publish_eq_opening .update did payload

/-- Every operation opens, performs its job, and concludes it. -/
theorem program_eq (services : Services) (operation : Operation) :
    operation.program services =
      (operation.opening services).bind (operation.drive services operation.conclude) := by
  have named : operation.program services =
      (operation.identified services).bind fun _ => .done () := by
    cases operation <;> simp only [program, identified, Program.bind_assoc] <;> rfl
  rw [named, identified_eq, Program.bind_assoc]
  congr 1
  funext opening
  rw [drive, drive, Program.bind_assoc]
  congr 1
  funext completed
  cases operation <;> simp only [identify, conclude] <;>
    cases Resource.published completed <;> rfl

/-- An opening is quiet. -/
theorem opening_quiet (services : Services) (operation : Operation) :
    Quiet (operation.opening services) := by
  have published : ∀ did payload, Quiet ((Program.ofExcept (Identifier.network did)).bind
      fun network => .done (⟨⟨none, some did, some (Envelope.options network)⟩, none,
        ResourcePayload.envelope payload did network⟩ : Opening)) := fun did payload =>
    .ofExcept_bind (fun _ unnamed => network_not_isExhaustion unnamed) fun _ _ => .done _
  cases operation with
  | create options =>
      by_cases refused : options.seed.isSome ∧ services.settings.allowInsecureSeed = false
      · simp only [opening, if_pos refused]
        exact .fail rfl
      · simp only [opening, if_neg refused]
        refine .bind (.createKey rfl fun _ => rfl) ?_
        intro verkey
        refine .bind (draft_quiet _ _ _ _) ?_
        intro body
        cases Did.Draft.ofBody? body with
        | none => exact .fail rfl
        | some draft => exact .done _
  | update did document => exact .bind (ensureActive_quiet services did) fun _ => .done _
  | deactivate did => exact .bind (ensureActive_quiet services did) fun _ => .done _
  | createResource did payload => exact published did payload
  | updateResource did payload => exact published did payload

end Operation
end DidRegistry
