import DidRegistry.Job.Rounds
import DidRegistry.Proofs.Interaction.Trace

/-!
What a job can come to, said once. A dialogue is a sequence of rounds: a submission, what became of
it, and what the wallet was asked before the next. `Job.Dialogue` has one constructor for each way
in which a round ends the job, and one for a round that is answered and leads to the next.

Main statement: the exchanges of a job are those of a dialogue (`perform_dialogue`). Facts about all
rounds of a job are inductions over dialogues.
-/

namespace DidRegistry

namespace Registrar

def submission (url : Url) (envelope : Json) : HttpRequest := ⟨url, accept, some envelope⟩

/-- The report that the delivery of a submission brings. -/
def received (url : Url) (endpoint : Endpoint) (delivery : Delivery) : Except Error JobResponse :=
  delivery.read (report url endpoint)

/-- A submission to a URL of HTTP is one request. -/
theorem submit_eq {base url : Url} {endpoint : Endpoint} (envelope : Json)
    (found : endpointUrl base endpoint.path = .ok url) (web : url.isWeb = true) :
    submit base endpoint envelope =
      .ask (.fetch (submission url envelope)) fun delivery =>
        .ofExcept (received url endpoint delivery) := by
  have sent : submit base endpoint envelope =
      (Program.fetch (submission url envelope)).bind fun reply =>
        .ofExcept (report url endpoint reply) := by
    unfold submit
    rw [found]
    rfl
  rw [sent]
  exact Program.fetch_read_eq web (report url endpoint)

theorem submit_traces {base url : Url} {endpoint : Endpoint} {envelope : Json}
    {exchanges : List Exchange} {result : Except Error JobResponse}
    (found : endpointUrl base endpoint.path = .ok url) (web : url.isWeb = true) :
    (submit base endpoint envelope).Traces exchanges result ↔
      ∃ delivery : Delivery, exchanges = [⟨.fetch (submission url envelope), delivery⟩] ∧
        result = received url endpoint delivery := by
  rw [submit_eq envelope found web]
  exact Program.ask_traces

end Registrar

/-- A submission, what became of it, and the calls on the wallet that follow it. -/
structure Round where
  request : HttpRequest
  delivery : Delivery
  wallet : List Exchange

def Round.exchanges (round : Round) : List Exchange :=
  ⟨.fetch round.request, round.delivery⟩ :: round.wallet

namespace Job

/-- The bindings that a job makes before a batch is signed, all of them accepted. -/
def bindings (job : Job) (requests : List SigningRequest) : List Exchange :=
  match job.bindKey with
  | some verkey => Program.bindings verkey (requests.map (·.kid))
  | none => []

/-- Binds the keys of a batch, where the job binds any. -/
def bindKeys (job : Job) (requests : List SigningRequest) : Program Unit :=
  match job.bindKey with
  | some verkey => Program.assignKids verkey (requests.map (·.kid))
  | none => .done ()

/-- A round as a sequence. -/
theorem answer_eq (job : Job) (base : Url) (jobId : String) (requests : List SigningRequest) :
    job.answer base jobId requests =
      (job.bindKeys requests).bind fun _ => (Program.sign requests).bind fun responses =>
        Registrar.submit base job.endpoint (Envelope.signatures jobId job.context responses) := by
  unfold answer bindKeys
  cases job.bindKey <;> rfl

/-- These exchanges bind the keys of a batch up to one that the wallet refuses, for this reason. -/
def BindingRefused (job : Job) (requests : List SigningRequest) (exchanges : List Exchange)
    (reason : String) : Prop :=
  ∃ verkey before kid after, job.bindKey = some verkey ∧
    requests.map (·.kid) = before ++ kid :: after ∧
    exchanges = Program.bindings verkey before ++ [⟨.assignKid verkey kid, .error reason⟩]

/-- Either all keys of a batch are bound, or the wallet refuses one. -/
theorem bindKeys_traces {job : Job} {requests : List SigningRequest} {exchanges : List Exchange}
    {result : Except Error Unit} (trace : (job.bindKeys requests).Traces exchanges result) :
    (exchanges = job.bindings requests ∧ result = .ok ()) ∨
      ∃ reason, job.BindingRefused requests exchanges reason ∧
        result = .error (.wallet reason) := by
  unfold bindKeys at trace
  unfold bindings
  cases key : job.bindKey with
  | none =>
      rw [key] at trace
      exact Or.inl trace
  | some verkey =>
      rw [key] at trace
      rcases Program.assignKids_traces.mp trace with
        done | ⟨before, kid, after, reason, split, refused, error⟩
      · exact Or.inl done
      · exact Or.inr ⟨reason, ⟨verkey, before, kid, after, key, split, refused⟩, error⟩

/-- A round of signing is cut short when the wallet refuses to bind a key ID or answers with no
batch of signatures; else the signatures are submitted. -/
theorem answer_traces {job : Job} {base : Url} {jobId : String} {requests : List SigningRequest}
    {next : JobResponse → Program CompletedJob} {exchanges : List Exchange}
    {result : Except Error CompletedJob}
    (trace : ((job.answer base jobId requests).bind next).Traces exchanges result) :
    (∃ reason, job.BindingRefused requests exchanges reason ∧ result = .error (.wallet reason)) ∨
    ∃ answer : Except String (List SigningResponse), ∃ rest,
      exchanges = job.bindings requests ++ ⟨.sign requests, answer⟩ :: rest ∧
      ((∃ error, Program.signed requests answer = .error error ∧ rest = [] ∧
          result = .error error) ∨
        ∃ responses, Program.signed requests answer = .ok responses ∧
          ((Registrar.submit base job.endpoint
            (Envelope.signatures jobId job.context responses)).bind next).Traces rest result) := by
  simp only [answer_eq, Program.bind_assoc] at trace
  rcases Program.bind_traces.mp trace with
    ⟨error, binding, rfl⟩ | ⟨bound, others, _, rfl, binding, signing⟩
  · rcases bindKeys_traces binding with ⟨-, h⟩ | ⟨reason, refused, h⟩
    · cases h
    · cases h
      exact Or.inl ⟨reason, refused, rfl⟩
  · rcases bindKeys_traces binding with ⟨rfl, -⟩ | ⟨_, -, h⟩
    · refine Or.inr ?_
      rcases Program.bind_traces.mp signing with
        ⟨error, signs, rfl⟩ | ⟨one, rest, responses, rfl, signs, resubmitted⟩
      · obtain ⟨answer, rfl, signed⟩ := Program.sign_traces.mp signs
        exact ⟨answer, [], rfl, Or.inl ⟨error, signed.symm, rfl, rfl⟩⟩
      · obtain ⟨answer, rfl, signed⟩ := Program.sign_traces.mp signs
        exact ⟨answer, rest, rfl, Or.inr ⟨responses, signed.symm, resubmitted⟩⟩
    · cases h

/-- The rounds of a job that submits `envelope`, with at most `remaining` rounds of signing to come,
and how it ends. -/
inductive Dialogue (job : Job) (url : Url) (maxRounds : Nat) :
    Nat → Json → List Round → Except Error CompletedJob → Prop where
  /-- The submission brings no report. -/
  | unreported {remaining : Nat} {envelope : Json} {delivery : Delivery} {error : Error}
      (report : Registrar.received url job.endpoint delivery = .error error) :
      Dialogue job url maxRounds remaining envelope
        [⟨Registrar.submission url envelope, delivery, []⟩] (.error error)
  /-- The report asks for no signatures. -/
  | ended {remaining : Nat} {envelope : Json} {delivery : Delivery} {response : JobResponse}
      {ending : Except Error CompletedJob}
      (report : Registrar.received url job.endpoint delivery = .ok response)
      (pending : job.pending response = .error ending) :
      Dialogue job url maxRounds remaining envelope
        [⟨Registrar.submission url envelope, delivery, []⟩] ending
  /-- No round is left for the signatures asked for. -/
  | exhausted {envelope : Json} {delivery : Delivery} {response : JobResponse} {jobId : String}
      {requests : List SigningRequest}
      (report : Registrar.received url job.endpoint delivery = .ok response)
      (pending : job.pending response = .ok (jobId, requests)) :
      Dialogue job url maxRounds 0 envelope
        [⟨Registrar.submission url envelope, delivery, []⟩]
        (.error (.protocolExhausted jobId maxRounds))
  /-- The wallet refuses to bind a key ID. -/
  | unbound {remaining : Nat} {envelope : Json} {delivery : Delivery} {response : JobResponse}
      {jobId : String} {requests : List SigningRequest} {wallet : List Exchange} {reason : String}
      (report : Registrar.received url job.endpoint delivery = .ok response)
      (pending : job.pending response = .ok (jobId, requests))
      (refused : job.BindingRefused requests wallet reason) :
      Dialogue job url maxRounds (remaining + 1) envelope
        [⟨Registrar.submission url envelope, delivery, wallet⟩]
        (.error (.wallet reason))
  /-- The wallet's answer to the batch is no batch of signatures for it. -/
  | unsigned {remaining : Nat} {envelope : Json} {delivery : Delivery} {response : JobResponse}
      {jobId : String} {requests : List SigningRequest}
      {answer : Except String (List SigningResponse)} {error : Error}
      (report : Registrar.received url job.endpoint delivery = .ok response)
      (pending : job.pending response = .ok (jobId, requests))
      (signed : Program.signed requests answer = .error error) :
      Dialogue job url maxRounds (remaining + 1) envelope
        [⟨Registrar.submission url envelope, delivery,
          job.bindings requests ++ [⟨.sign requests, answer⟩]⟩]
        (.error error)
  /-- The batch is signed, and its signatures are submitted next. -/
  | answered {remaining : Nat} {envelope : Json} {delivery : Delivery} {response : JobResponse}
      {jobId : String} {requests : List SigningRequest}
      {answer : Except String (List SigningResponse)} {responses : List SigningResponse}
      {rounds : List Round} {result : Except Error CompletedJob}
      (report : Registrar.received url job.endpoint delivery = .ok response)
      (pending : job.pending response = .ok (jobId, requests))
      (signed : Program.signed requests answer = .ok responses)
      (next : Dialogue job url maxRounds remaining
        (Envelope.signatures jobId job.context responses) rounds result) :
      Dialogue job url maxRounds (remaining + 1) envelope
        (⟨Registrar.submission url envelope, delivery,
          job.bindings requests ++ [⟨.sign requests, answer⟩]⟩ :: rounds)
        result

variable {job : Job} {base url : Url} {maxRounds : Nat}

/-- A submission that is driven on makes the exchanges of a dialogue. The recursion is on the rounds
of signing that are left. -/
theorem drive_dialogue (found : Registrar.endpointUrl base job.endpoint.path = .ok url)
    (web : url.isWeb = true) (remaining : Nat) {envelope : Json} {exchanges : List Exchange}
    {result : Except Error CompletedJob}
    (trace : ((Registrar.submit base job.endpoint envelope).bind
      (job.drive base maxRounds remaining)).Traces exchanges result) :
    ∃ rounds, exchanges = rounds.flatMap Round.exchanges ∧
      job.Dialogue url maxRounds remaining envelope rounds result := by
  rcases Program.bind_traces.mp trace with
    ⟨error, submitted, rfl⟩ | ⟨before, after, response, rfl, submitted, driven⟩
  · obtain ⟨delivery, rfl, report⟩ := (Registrar.submit_traces found web).mp submitted
    exact ⟨[_], rfl, .unreported report.symm⟩
  obtain ⟨delivery, rfl, report⟩ := (Registrar.submit_traces found web).mp submitted
  rw [drive] at driven
  cases pending : job.pending response with
  | error ending =>
      rw [pending] at driven
      obtain ⟨rfl, rfl⟩ := Program.ofExcept_traces.mp driven
      exact ⟨[_], rfl, .ended report.symm pending⟩
  | ok batch =>
      obtain ⟨jobId, requests⟩ := batch
      cases remaining with
      | zero =>
          rw [pending] at driven
          obtain ⟨rfl, rfl⟩ := driven
          exact ⟨[_], rfl, .exhausted report.symm pending⟩
      | succ remaining =>
          rw [pending] at driven
          rcases answer_traces driven with ⟨reason, refused, rfl⟩ |
            ⟨answer, rest, rfl, ⟨error, signed, rfl, rfl⟩ | ⟨responses, signed, resubmitted⟩⟩
          · exact ⟨[_], by simp [Round.exchanges], .unbound report.symm pending refused⟩
          · exact ⟨[_], by simp [Round.exchanges], .unsigned report.symm pending signed⟩
          · obtain ⟨rounds, rfl, dialogue⟩ := drive_dialogue found web remaining resubmitted
            exact ⟨_ :: rounds, by simp [Round.exchanges],
              .answered report.symm pending signed dialogue⟩

/-- The exchanges of a job are those of a dialogue that begins with its envelope. -/
theorem perform_dialogue (found : Registrar.endpointUrl base job.endpoint.path = .ok url)
    (web : url.isWeb = true) {envelope : Json} {exchanges : List Exchange}
    {result : Except Error CompletedJob}
    (trace : (job.perform base maxRounds envelope).Traces exchanges result) :
    ∃ rounds, exchanges = rounds.flatMap Round.exchanges ∧
      job.Dialogue url maxRounds maxRounds envelope rounds result :=
  drive_dialogue found web maxRounds trace

/-- Whatever its endpoint, a job makes no exchange or those of a dialogue. -/
theorem perform_traces {envelope : Json} {exchanges : List Exchange}
    {result : Except Error CompletedJob}
    (trace : (job.perform base maxRounds envelope).Traces exchanges result) :
    (exchanges = [] ∧ ∃ error, result = .error error ∧
      (Registrar.endpointUrl base job.endpoint.path = .error error ∨ error = .request)) ∨
    ∃ url rounds, Registrar.endpointUrl base job.endpoint.path = .ok url ∧ url.isWeb = true ∧
      exchanges = rounds.flatMap Round.exchanges ∧
      job.Dialogue url maxRounds maxRounds envelope rounds result := by
  cases found : Registrar.endpointUrl base job.endpoint.path with
  | error error =>
      have unsent : job.perform base maxRounds envelope = .fail error := by
        unfold perform Registrar.submit
        rw [found]
        rfl
      rw [unsent] at trace
      exact Or.inl ⟨trace.1, error, trace.2, Or.inl rfl⟩
  | ok url =>
      by_cases web : url.isWeb = true
      · obtain ⟨rounds, made, dialogue⟩ := perform_dialogue found web trace
        exact Or.inr ⟨url, rounds, rfl, web, made, dialogue⟩
      · have unsent : job.perform base maxRounds envelope = .fail .request := by
          unfold perform Registrar.submit
          rw [found]
          simp only [Program.bind_eq, Program.monadLift_eq, Program.ofExcept_ok_bind]
          rw [Program.fetch_of_not_web (Bool.eq_false_iff.mpr web)]
          rfl
        rw [unsent] at trace
        exact Or.inl ⟨trace.1, .request, trace.2, Or.inr rfl⟩

end Job
end DidRegistry
