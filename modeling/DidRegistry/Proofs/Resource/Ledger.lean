import DidRegistry.Proofs.Interaction.Ensures
import DidRegistry.Proofs.Job.Dialogue
import DidRegistry.Proofs.Resource.Publishing
import Mathlib.Logic.Function.Basic

/-!
A ledger behind the registrar. `Ledger` is a view of the states of the surroundings: which resource
has been published last in each place, and what each waiting job would publish. `KeptBy` says of a
registrar that it stores what it reports as finished, and nothing else.

Main statement: over such a ledger a publication succeeds exactly if its resource is stored
(`publish_ensures`).
-/

namespace DidRegistry

/-- Where the versions of a resource are kept. -/
structure Slot where
  did : String
  name : String
  resourceType : String
  deriving DecidableEq, Repr

/-- A resource that is to be published under a DID. -/
structure Posting where
  did : String
  payload : ResourcePayload
  deriving DecidableEq, Repr

def Posting.slot (posting : Posting) : Slot :=
  ⟨posting.did, posting.payload.name, posting.payload.resourceType⟩

/-- What a registrar keeps, as a view of the states of the surroundings. -/
structure Ledger (σ : Type) where
  /-- The resource that was published last. -/
  stored : σ → Slot → Option ResourcePayload
  /-- What a job that waits for signatures is about. -/
  waiting : σ → String → Option Posting

namespace Ledger

variable {σ : Type}

/-- What an envelope is about: the resource that it describes, or that of the job that it carries
signatures for. -/
inductive Concerns (ledger : Ledger σ) (state : σ) : Json → Posting → Prop where
  | resource (did network : String) (payload : ResourcePayload) :
      Concerns ledger state (payload.envelope did network) ⟨did, payload⟩
  | signatures {jobId : String} {posting : Posting} (context : Envelope.Context)
      (responses : List SigningResponse) (waits : ledger.waiting state jobId = some posting) :
      Concerns ledger state (Envelope.signatures jobId context responses) posting

/-- What a report leaves behind. A job that has finished has stored its resource and names it; one
that waits is kept under the job ID that it is reported with; in all other cases nothing changes. -/
def Settles (ledger : Ledger σ) (posting : Posting) (before : σ) :
    Except Error JobResponse → σ → Prop
  | .ok ⟨_, .finished outcome⟩, after => outcome.publishedId?.isSome = true ∧
      ledger.stored after =
        Function.update (ledger.stored before) posting.slot (some posting.payload)
  | .ok ⟨jobId, .action _ _⟩, after => ledger.stored after = ledger.stored before ∧
      ∀ id, jobId = some id → ledger.waiting after id = some posting
  | .ok ⟨_, .error _⟩, after => ledger.stored after = ledger.stored before
  | .error _, after => ledger.stored after = ledger.stored before

/-- The registrar keeps the ledger: only submissions change it, and they as their reports say. It is
free to refuse a resource or to ask for signatures as often as it likes, but what it reports as
finished has been stored, and what it does not has not. -/
structure KeptBy (ledger : Ledger σ) (surroundings : Surroundings σ) (services : Services) :
    Prop where
  quiet : ∀ call state, (∀ request, call = .fetch request → request.body = none) →
    ledger.stored (surroundings.answer call state).2 = ledger.stored state ∧
      ledger.waiting (surroundings.answer call state).2 = ledger.waiting state
  settles : ∀ (mode : Resource.Mode) url envelope posting state,
    Registrar.endpointUrl services.registrar mode.endpoint.path = .ok url →
    ledger.Concerns state envelope posting →
    ledger.Settles posting state
      (Registrar.received url mode.endpoint
        (surroundings.answer (.fetch (Registrar.submission url envelope)) state).1)
      (surroundings.answer (.fetch (Registrar.submission url envelope)) state).2

/-- A publication has stored its resource if it succeeds, and nothing if it fails. -/
def Published {α : Type} (ledger : Ledger σ) (posting : Posting) (before : σ) :
    Except Error α → σ → Prop
  | .ok _, after => ledger.stored after =
      Function.update (ledger.stored before) posting.slot (some posting.payload)
  | .error _, after => ledger.stored after = ledger.stored before

/-- A job has stored its resource and can name it if it succeeds, and stored nothing if it fails. -/
def Driven (ledger : Ledger σ) (posting : Posting) (before : σ)
    (result : Except Error CompletedJob) (after : σ) : Prop :=
  ledger.Published posting before result after ∧
    ∀ completed, result = .ok completed → completed.outcome.publishedId?.isSome = true

variable {ledger : Ledger σ} {surroundings : Surroundings σ} {services : Services}
  {posting : Posting} {state : σ}

theorem Driven.of_error {error : Error} {after : σ}
    (same : ledger.stored after = ledger.stored state) :
    ledger.Driven posting state (.error error) after :=
  ⟨same, by rintro _ ⟨⟩⟩

/-- A report that leaves a batch pending has stored nothing, and its job waits. -/
theorem Settles.of_pending {response : JobResponse} {after : σ} {job : Job} {jobId : String}
    {requests : List SigningRequest} (settles : ledger.Settles posting state (.ok response) after)
    (pending : job.pending response = .ok (jobId, requests)) :
    ledger.stored after = ledger.stored state ∧ ledger.waiting after jobId = some posting := by
  obtain ⟨id, reported⟩ := response
  cases reported with
  | finished outcome => cases pending
  | error reason => cases pending
  | action batch description =>
      cases batch with
      | nil => cases pending
      | cons first others =>
          cases id with
          | none => cases pending
          | some id =>
              cases pending
              exact ⟨settles.1, settles.2 _ rfl⟩

/-- A report that ends its job has stored the resource if it is a success. -/
theorem Settles.of_ended {response : JobResponse} {after : σ} {job : Job}
    {ending : Except Error CompletedJob}
    (settles : ledger.Settles posting state (.ok response) after)
    (pending : job.pending response = .error ending) :
    ledger.Driven posting state ending after := by
  obtain ⟨id, reported⟩ := response
  cases reported with
  | finished outcome =>
      cases pending
      refine ⟨settles.2, ?_⟩
      rintro _ ⟨⟩
      exact settles.1
  | error reason =>
      cases pending
      exact .of_error settles
  | action batch description =>
      cases batch with
      | nil =>
          cases pending
          exact .of_error settles.1
      | cons first others =>
          cases id with
          | none =>
              cases pending
              exact .of_error settles.1
          | some id => cases pending

theorem Published.of_stored_eq {α : Type} {earlier after : σ} {result : Except Error α}
    (published : ledger.Published posting state result after)
    (same : ledger.stored state = ledger.stored earlier) :
    ledger.Published posting earlier result after := by
  cases result with
  | error error => exact Eq.trans published same
  | ok value =>
      have stored : ledger.stored after =
        Function.update (ledger.stored state) posting.slot (some posting.payload) := published
      rw [same] at stored
      exact stored

/-- A submission is settled as the registrar reports; if it is not sent, nothing has changed. -/
theorem submit_ensures (kept : ledger.KeptBy surroundings services) (mode : Resource.Mode)
    {envelope : Json} (concerns : ledger.Concerns state envelope posting) :
    Program.Ensures surroundings
      (Registrar.submit services.registrar mode.endpoint envelope) state
      (ledger.Settles posting state) := by
  cases found : Registrar.endpointUrl services.registrar mode.endpoint.path with
  | error error =>
      unfold Registrar.submit
      rw [found]
      exact .fail rfl
  | ok url =>
      unfold Registrar.submit
      rw [found]
      exact .fetch rfl (kept.settles mode url envelope posting state found concerns)

/-- A signed batch leaves the ledger as it was. -/
theorem sign_ensures (kept : ledger.KeptBy surroundings services)
    (requests : List SigningRequest) :
    Program.Ensures surroundings (.sign requests) state fun _ after =>
      ledger.stored after = ledger.stored state ∧ ledger.waiting after = ledger.waiting state := by
  rw [Program.sign_eq]
  refine .ask (.ofExcept (kept.quiet _ state ?_))
  rintro request ⟨⟩

/-- A submission, and what follows its report: a job that the report ends, or one that waits for
signatures. -/
theorem submit_bind_ensures (kept : ledger.KeptBy surroundings services) {mode : Resource.Mode}
    (job : Job) {envelope : Json} {next : JobResponse → Program CompletedJob}
    (concerns : ledger.Concerns state envelope posting)
    (ends : ∀ response ending, job.pending response = .error ending →
      next response = .ofExcept ending)
    (waits : ∀ response jobId requests after,
      job.pending response = .ok (jobId, requests) →
      ledger.stored after = ledger.stored state → ledger.waiting after jobId = some posting →
      Program.Ensures surroundings (next response) after (ledger.Driven posting state)) :
    Program.Ensures surroundings
      ((Registrar.submit services.registrar mode.endpoint envelope).bind next) state
      (ledger.Driven posting state) := by
  refine .bind (submit_ensures kept mode concerns) ?_ ?_
  · intro error after settles
    exact .of_error settles
  · intro response after settles
    cases pending : job.pending response with
    | error ending =>
        rw [ends response ending pending]
        exact .ofExcept (settles.of_ended pending)
    | ok batch =>
        obtain ⟨jobId, requests⟩ := batch
        obtain ⟨unchanged, waiting⟩ := settles.of_pending pending
        exact waits response jobId requests after pending unchanged waiting

/-- A submission is driven to a success that has stored its resource, or to an error that has
stored nothing. The induction is on the rounds of signing that are left. -/
theorem drive_ensures (kept : ledger.KeptBy surroundings services) {mode : Resource.Mode}
    {did network : String} (maxRounds remaining : Nat) {envelope : Json}
    (concerns : ledger.Concerns state envelope posting) :
    Program.Ensures surroundings
      ((Registrar.submit services.registrar mode.endpoint envelope).bind
        ((Resource.publication mode did network).drive services.registrar maxRounds remaining))
      state (ledger.Driven posting state) := by
  induction remaining generalizing state envelope with
  | zero =>
      refine submit_bind_ensures kept (Resource.publication mode did network) concerns ?_ ?_
      · intro response ending pending
        rw [Job.drive, pending]
      · intro response jobId requests after pending unchanged waiting
        rw [Job.drive, pending]
        exact .fail (.of_error unchanged)
  | succ remaining ih =>
      refine submit_bind_ensures kept (Resource.publication mode did network) concerns ?_ ?_
      · intro response ending pending
        rw [Job.drive, pending]
      · intro response jobId requests after pending unchanged waiting
        rw [Job.drive, pending]
        simp only [Job.answer_eq, Program.bind_assoc]
        change Program.Ensures surroundings ((Program.sign requests).bind _) after _
        refine .bind (sign_ensures kept requests) ?_ ?_
        · intro error later still
          exact .of_error (still.1.trans unchanged)
        · intro responses later still
          have waits : ledger.waiting later jobId = some posting := by
            rw [still.2]
            exact waiting
          refine (ih (.signatures _ responses waits)).imp ?_
          rintro result final ⟨published, named⟩
          exact ⟨published.of_stored_eq (still.1.trans unchanged), named⟩

/-- A publication succeeds exactly if its resource is stored. -/
theorem publish_ensures (kept : ledger.KeptBy surroundings services) (mode : Resource.Mode)
    (did : String) (payload : ResourcePayload) :
    Program.Ensures surroundings (Resource.publish services mode did payload) state
      (ledger.Published ⟨did, payload⟩ state) := by
  cases named : Identifier.network did with
  | error error =>
      rw [Resource.publish_of_no_network named]
      exact .fail rfl
  | ok network =>
      rw [Resource.publish_eq named]
      refine .bind (drive_ensures kept _ _ (.resource did network payload)) ?_ ?_
      · intro error after driven
        exact driven.1
      · rintro completed after ⟨stored, identified⟩
        obtain ⟨id, found⟩ := Option.isSome_iff_exists.mp (identified completed rfl)
        refine .ofExcept ?_
        rw [Resource.published, found]
        exact stored

end Ledger
end DidRegistry
