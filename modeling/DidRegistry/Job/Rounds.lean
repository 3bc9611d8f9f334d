import DidRegistry.Job.Envelope
import DidRegistry.Job.Registrar

/-!
Driving a job to its end. A job begins with the submission of its envelope; as long as the registrar
waits for signatures, each round binds the keys that are to be bound, has the batch signed, and
submits the signatures, up to the number of rounds that the settings allow.
-/

namespace DidRegistry

/-- A job to be driven. -/
structure Job where
  endpoint : Endpoint
  /-- What every submission of signatures repeats. -/
  context : Envelope.Context
  /-- The key to which the key IDs of every batch are bound before it is signed. -/
  bindKey : Option Bytes

structure CompletedJob where
  jobId : Option String
  outcome : Outcome
  deriving DecidableEq, Repr

namespace Job

/-- A job whose submissions repeat nothing and which binds no keys. -/
def plain (endpoint : Endpoint) : Job := ⟨endpoint, .none, none⟩

def operation (job : Job) : String := job.endpoint.path

/-- What is reported for a failed job that gives no reason. -/
def noReason : String := "no reason given"

/-- The job ID and the batch of a report that waits for signatures; what to end with otherwise. -/
def pending (job : Job) (response : JobResponse) :
    Except (Except Error CompletedJob) (String × List SigningRequest) :=
  match response.state with
  | .finished outcome => .error (.ok ⟨response.jobId, outcome⟩)
  | .error reason =>
    .error (.error (.registration job.operation response.jobId (reason.getD noReason)))
  | .action [] _ => .error (.error (.noSigningRequests job.operation))
  | .action requests _ =>
    match response.jobId with
    | none => .error (.error (.invalidResponse "action state without a job ID"))
    | some jobId => .ok (jobId, requests)

/-- One round: binds keys, signs the batch and submits the signatures. -/
def answer (job : Job) (base : Url) (jobId : String) (requests : List SigningRequest) :
    Program JobResponse := do
  match job.bindKey with
  | some verkey => Program.assignKids verkey (requests.map (·.kid))
  | none => pure ()
  let responses ← Program.sign requests
  Registrar.submit base job.endpoint (Envelope.signatures jobId job.context responses)

/-- Answers reports until the job ends, with at most `remaining` more rounds. -/
def drive (job : Job) (base : Url) (maxRounds : Nat) : Nat → JobResponse → Program CompletedJob
  | remaining, response =>
    match job.pending response with
    | .error ending => .ofExcept ending
    | .ok (jobId, requests) =>
      match remaining with
      | 0 => .fail (.protocolExhausted jobId maxRounds)
      | remaining + 1 =>
        (job.answer base jobId requests).bind (job.drive base maxRounds remaining)

/-- Submits an envelope and drives the job to its end. -/
def perform (job : Job) (base : Url) (maxRounds : Nat) (envelope : Json) :
    Program CompletedJob := do
  let response ← Registrar.submit base job.endpoint envelope
  job.drive base maxRounds maxRounds response

end Job
end DidRegistry
