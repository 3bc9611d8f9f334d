import DidRegistry.Proofs.Job.Dialogue
import DidRegistry.Proofs.Signing.Check

/-!
The protocol between an operation and its registrar, said over the rounds that an observer sees:
which submission comes first, when another one follows, and what it carries. `Protocol.Kept` refers
to positions in the list of rounds and to nothing that the operation computes on its way.

Main statement: every dialogue keeps the protocol of its job (`Dialogue.kept`).
-/

namespace DidRegistry

/-- The statuses with which a registrar takes a submission. -/
def Endpoint.statuses : Endpoint → List Nat
  | .create | .createResource => [200, 201]
  | .update | .deactivate | .updateResource => [200]

theorem Endpoint.accepts_iff {endpoint : Endpoint} {status : Nat} :
    endpoint.accepts status = true ↔ status ∈ endpoint.statuses := by
  cases endpoint <;> simp [accepts, statuses]

/-- A submission to the endpoint is taken, and its reply reads as this report. -/
def Endpoint.Reports (endpoint : Endpoint) (delivery : Delivery) (response : JobResponse) : Prop :=
  ∃ reply, delivery = .replied reply ∧ reply.status ∈ endpoint.statuses ∧
    JobResponse.record.decoder.ofBytes reply.body = .ok response

theorem Registrar.received_eq_ok_iff {url : Url} {endpoint : Endpoint} {delivery : Delivery}
    {response : JobResponse} :
    received url endpoint delivery = .ok response ↔ endpoint.Reports delivery response := by
  cases delivery with
  | dropped => simp [received, Delivery.read, Endpoint.Reports]
  | refused => simp [received, Delivery.read, Endpoint.Reports]
  | replied reply =>
      simp only [received, Delivery.read, report, Endpoint.Reports, ← Endpoint.accepts_iff,
        Delivery.replied.injEq, exists_eq_left']
      cases endpoint.accepts reply.status with
      | false => simp
      | true =>
          simp only [if_true, true_and]
          cases JobResponse.record.decoder.ofBytes reply.body <;> simp

/-- What tells the conversation of one operation with its registrar from that of another. -/
structure Protocol where
  /-- Where everything is submitted. -/
  url : Url
  /-- The statuses with which the registrar takes a submission. -/
  statuses : List Nat
  /-- The most rounds of signing. -/
  maxRounds : Nat
  /-- The key to which the key IDs of a batch are bound before it is signed, if they are bound. -/
  bindKey : Option Bytes
  /-- The envelope that is submitted first. -/
  opening : Json
  /-- The envelope that carries signatures for a job. -/
  resubmission : String → List SigningResponse → Json

namespace Protocol

/-- The registrar takes a submission and asks for signatures: the reply has an accepted status and
reads as a job that waits, with a job ID and at least one request. -/
def Asks (protocol : Protocol) (delivery : Delivery) (jobId : String)
    (requests : List SigningRequest) : Prop :=
  ∃ reply description, delivery = .replied reply ∧ reply.status ∈ protocol.statuses ∧
    JobResponse.record.decoder.ofBytes reply.body =
      .ok ⟨some jobId, .action requests description⟩ ∧
    requests ≠ []

/-- The registrar asks for signatures in reply to submission `k`, and a round is left for them. -/
def AsksAt (protocol : Protocol) (k : Nat) (round : Round) (jobId : String)
    (requests : List SigningRequest) : Prop :=
  k < protocol.maxRounds ∧ protocol.Asks round.delivery jobId requests

/-- The bindings of a batch, one for each request in the order of requests, all accepted. -/
def bindings (protocol : Protocol) (requests : List SigningRequest) : List Exchange :=
  match protocol.bindKey with
  | some verkey => Program.bindings verkey (requests.map (·.kid))
  | none => []

/-- The bindings of a batch up to the first that the wallet refuses. -/
def BindingRefused (protocol : Protocol) (requests : List SigningRequest)
    (wallet : List Exchange) : Prop :=
  ∃ verkey before kid after reason, protocol.bindKey = some verkey ∧
    requests.map (·.kid) = before ++ kid :: after ∧
    wallet = Program.bindings verkey before ++ [⟨.assignKid verkey kid, .error reason⟩]

/-- The registrar asks for signatures, every binding succeeds, and the wallet returns signatures
with the key IDs of the requests. -/
def Answered (protocol : Protocol) (round : Round) (jobId : String)
    (responses : List SigningResponse) : Prop :=
  ∃ requests, protocol.Asks round.delivery jobId requests ∧
    round.wallet = protocol.bindings requests ++ [⟨.sign requests, .ok responses⟩] ∧
    (responses.map (·.kid)).Perm (requests.map (·.kid))

/-- What the wallet is asked about a batch: to bind its key IDs in order, up to one that it refuses,
or all of them and then once for the signatures. -/
def AsksWallet (protocol : Protocol) (requests : List SigningRequest)
    (wallet : List Exchange) : Prop :=
  (∃ answer : Except String (List SigningResponse),
    wallet = protocol.bindings requests ++ [⟨.sign requests, answer⟩]) ∨
  protocol.BindingRefused requests wallet

/-- The wallet is asked for what the registrar asks for, and for nothing else. -/
def WalletKept (protocol : Protocol) (k : Nat) (round : Round) : Prop :=
  (∃ jobId requests, protocol.AsksAt k round jobId requests ∧
    protocol.AsksWallet requests round.wallet) ∨
  ((∀ jobId requests, ¬ protocol.AsksAt k round jobId requests) ∧ round.wallet = [])

/-- The rounds follow the protocol. What is submitted and when is said by the replies and the
answers of the wallet in the rounds before: there is another round just where there has to be one,
and no document other than the opening and the signatures for a named job. -/
structure Kept (protocol : Protocol) (rounds : List Round) : Prop where
  /-- Everything is submitted to one place. -/
  place : ∀ round ∈ rounds, round.request.url = protocol.url
  /-- The first submission is the opening. -/
  opening : ∀ round, rounds[0]? = some round →
    round.request = Registrar.submission protocol.url protocol.opening
  /-- Another submission follows exactly if rounds are left and this one is answered. -/
  continues : ∀ k round, rounds[k]? = some round →
    (k + 1 < rounds.length ↔
      k < protocol.maxRounds ∧ ∃ jobId responses, protocol.Answered round jobId responses)
  /-- It carries the signatures for the job that the reply has named. -/
  resubmits : ∀ k round next, rounds[k]? = some round → rounds[k + 1]? = some next →
    ∃ jobId responses, protocol.Answered round jobId responses ∧
      next.request = Registrar.submission protocol.url (protocol.resubmission jobId responses)
  /-- Between two submissions, and behind the last, the wallet is asked for one batch at most. -/
  wallet : ∀ k round, rounds[k]? = some round → protocol.WalletKept k round

variable {protocol : Protocol} {round : Round} {rounds : List Round}

/-- What a reply asks for is determined by it. -/
theorem Asks.unique {delivery : Delivery} {jobId otherId : String}
    {requests others : List SigningRequest} (asks : protocol.Asks delivery jobId requests)
    (also : protocol.Asks delivery otherId others) : otherId = jobId ∧ others = requests := by
  obtain ⟨reply, description, rfl, -, read, -⟩ := asks
  obtain ⟨_, _, same, -, again, -⟩ := also
  cases same
  rw [read] at again
  cases again
  exact ⟨rfl, rfl⟩

/-- A single round keeps the protocol if it is not answered or no rounds are left. -/
theorem Kept.single
    (opened : round.request = Registrar.submission protocol.url protocol.opening)
    (unanswered : ¬ (0 < protocol.maxRounds ∧
      ∃ jobId responses, protocol.Answered round jobId responses))
    (wallet : protocol.WalletKept 0 round) :
    protocol.Kept [round] where
  place := by
    intro other member
    rw [List.mem_singleton.mp member, opened]
    rfl
  opening := by
    intro first found
    cases found
    exact opened
  continues := by
    intro k other found
    cases k with
    | zero =>
        cases found
        simpa using unanswered
    | succ k => cases found
  resubmits := by
    intro k other next _ following
    cases following
  wallet := by
    intro k other found
    cases k with
    | zero =>
        cases found
        exact wallet
    | succ k => cases found

/-- A single round keeps the protocol if nothing is asked for, or not in time. -/
theorem Kept.silent
    (opened : round.request = Registrar.submission protocol.url protocol.opening)
    (silent : ∀ jobId requests, ¬ protocol.AsksAt 0 round jobId requests)
    (wallet : round.wallet = []) : protocol.Kept [round] := by
  refine .single opened ?_ (Or.inr ⟨silent, wallet⟩)
  rintro ⟨left, jobId, responses, requests, asks, -⟩
  exact silent jobId requests ⟨left, asks⟩

/-- An answered round in front of rounds that go on from there. -/
theorem Kept.cons {remaining : Nat} {jobId : String} {responses : List SigningResponse}
    (opened : round.request = Registrar.submission protocol.url protocol.opening)
    (left : protocol.maxRounds = remaining + 1)
    (answered : protocol.Answered round jobId responses)
    (continued : rounds ≠ [])
    (rest : Kept { protocol with
      maxRounds := remaining, opening := protocol.resubmission jobId responses } rounds) :
    protocol.Kept (round :: rounds) where
  place := by
    intro other member
    rcases List.mem_cons.mp member with rfl | later
    · rw [opened]
      rfl
    · exact rest.place other later
  opening := by
    intro first found
    cases found
    exact opened
  continues := by
    intro k other found
    cases k with
    | zero =>
        cases found
        have more := List.length_pos_iff.mpr continued
        constructor
        · intro _
          exact ⟨by omega, jobId, responses, answered⟩
        · intro _
          simpa using more
    | succ k =>
        rw [List.getElem?_cons_succ] at found
        have later := rest.continues k other found
        rw [List.length_cons, left, Nat.add_lt_add_iff_right, Nat.add_lt_add_iff_right]
        exact later
  resubmits := by
    intro k other next found following
    cases k with
    | zero =>
        cases found
        rw [List.getElem?_cons_succ] at following
        exact ⟨jobId, responses, answered, rest.opening next following⟩
    | succ k =>
        rw [List.getElem?_cons_succ] at found following
        exact rest.resubmits k other next found following
  wallet := by
    intro k other found
    cases k with
    | zero =>
        cases found
        obtain ⟨requests, asks, wallet, -⟩ := answered
        exact Or.inl ⟨jobId, requests, ⟨by omega, asks⟩, Or.inl ⟨_, wallet⟩⟩
    | succ k =>
        rw [List.getElem?_cons_succ] at found
        have later := rest.wallet k other found
        simp only [WalletKept, AsksAt, left, Nat.add_lt_add_iff_right]
        exact later

end Protocol

namespace Job

/-- The protocol of a job that submits `envelope` and may have `remaining` rounds of signing. -/
def protocol (job : Job) (url : Url) (remaining : Nat) (envelope : Json) : Protocol :=
  ⟨url, job.endpoint.statuses, remaining, job.bindKey, envelope,
    fun jobId responses => Envelope.signatures jobId job.context responses⟩

variable {job : Job} {url : Url} {remaining maxRounds : Nat} {envelope : Json}

/-- A batch is left pending by an action with requests and a job ID, and by nothing else. -/
theorem pending_eq_ok_iff {response : JobResponse} {jobId : String}
    {requests : List SigningRequest} :
    job.pending response = .ok (jobId, requests) ↔
      requests ≠ [] ∧ ∃ description, response = ⟨some jobId, .action requests description⟩ := by
  obtain ⟨id, state⟩ := response
  cases state with
  | finished outcome => simp [pending]
  | error reason => simp [pending]
  | action batch description =>
      cases batch with
      | nil =>
          simp only [pending, reduceCtorEq, false_iff, not_and]
          rintro nonempty ⟨_, same⟩
          cases same
          exact nonempty rfl
      | cons first others =>
          cases id with
          | none => simp [pending]
          | some id =>
              simp only [pending, Except.ok.injEq, Prod.mk.injEq, JobResponse.mk.injEq,
                Option.some.injEq, JobState.action.injEq]
              constructor
              · rintro ⟨rfl, rfl⟩
                exact ⟨List.cons_ne_nil _ _, description, rfl, rfl, rfl⟩
              · rintro ⟨-, _, rfl, rfl, -⟩
                exact ⟨rfl, rfl⟩

/-- A registrar asks for signatures exactly if its report leaves a batch pending. -/
theorem asks_iff {delivery : Delivery} {jobId : String} {requests : List SigningRequest} :
    (job.protocol url remaining envelope).Asks delivery jobId requests ↔
      ∃ response, Registrar.received url job.endpoint delivery = .ok response ∧
        job.pending response = .ok (jobId, requests) := by
  simp only [Registrar.received_eq_ok_iff, Endpoint.Reports, pending_eq_ok_iff]
  constructor
  · rintro ⟨reply, description, sent, taken, read, nonempty⟩
    exact ⟨_, ⟨reply, sent, taken, read⟩, nonempty, description, rfl⟩
  · rintro ⟨_, ⟨reply, sent, taken, read⟩, nonempty, description, rfl⟩
    exact ⟨reply, description, sent, taken, read, nonempty⟩

/-- A batch of signatures is accepted exactly if it is returned and has the requested key IDs. -/
theorem signed_eq_ok_iff {requests : List SigningRequest}
    {answer : Except String (List SigningResponse)} {responses : List SigningResponse} :
    Program.signed requests answer = .ok responses ↔
      answer = .ok responses ∧ (responses.map (·.kid)).Perm (requests.map (·.kid)) := by
  cases answer with
  | error reason => simp [Program.signed]
  | ok returned =>
      simp only [Program.signed, Except.ok.injEq]
      cases checked : Signing.check requests returned with
      | error mismatch =>
          simp only [reduceCtorEq, false_iff, not_and]
          rintro rfl permuted
          rw [Signing.check_eq_ok_iff.mpr ⟨permuted, rfl⟩] at checked
          cases checked
      | ok accepted =>
          obtain ⟨permuted, rfl⟩ := Signing.check_eq_ok_iff.mp checked
          simp only [Except.ok.injEq]
          constructor
          · rintro rfl
            exact ⟨rfl, permuted⟩
          · exact And.left

theorem Dialogue.ne_nil {rounds : List Round} {result : Except Error CompletedJob}
    (dialogue : job.Dialogue url maxRounds remaining envelope rounds result) : rounds ≠ [] := by
  cases dialogue <;> exact List.cons_ne_nil _ _

/-- Bindings that are cut short do not end with a batch of signatures. -/
theorem BindingRefused.not_signed {requests : List SigningRequest} {wallet bound : List Exchange}
    {reason : String} (refused : job.BindingRefused requests wallet reason)
    {batch : List SigningRequest} {answer : Except String (List SigningResponse)} :
    wallet ≠ bound ++ [⟨.sign batch, answer⟩] := by
  obtain ⟨verkey, before, kid, after, -, -, rfl⟩ := refused
  intro same
  have last := congrArg (fun list => list.getLast?.map Exchange.call) same
  simp at last

/-- Every dialogue keeps the protocol of its job. -/
theorem Dialogue.kept {rounds : List Round} {result : Except Error CompletedJob}
    (dialogue : job.Dialogue url maxRounds remaining envelope rounds result) :
    (job.protocol url remaining envelope).Kept rounds := by
  induction dialogue with
  | unreported report =>
      refine .silent rfl ?_ rfl
      rintro jobId requests ⟨-, asks⟩
      obtain ⟨response, received, -⟩ := asks_iff.mp asks
      rw [report] at received
      cases received
  | ended report pending =>
      refine .silent rfl ?_ rfl
      rintro jobId requests ⟨-, asks⟩
      obtain ⟨response, received, waits⟩ := asks_iff.mp asks
      rw [report] at received
      cases received
      rw [pending] at waits
      cases waits
  | exhausted report pending =>
      refine .silent rfl ?_ rfl
      rintro jobId requests ⟨left, -⟩
      exact absurd left (Nat.lt_irrefl 0)
  | @unbound _ _ _ _ jobId requests wallet reason report pending refused =>
      obtain ⟨verkey, before, kid, after, bound⟩ := refused
      refine .single rfl ?_ (Or.inl ⟨jobId, requests, ⟨Nat.succ_pos _,
        asks_iff.mpr ⟨_, report, pending⟩⟩, Or.inr ⟨verkey, before, kid, after, reason, bound⟩⟩)
      rintro ⟨-, jobId, responses, others, -, wallet, -⟩
      exact BindingRefused.not_signed ⟨verkey, before, kid, after, bound⟩ wallet
  | @unsigned remaining envelope delivery response jobId requests answer error report pending
      signed =>
      have asks : (job.protocol url (remaining + 1) envelope).Asks delivery jobId requests :=
        asks_iff.mpr ⟨response, report, pending⟩
      refine .single rfl ?_ (Or.inl ⟨jobId, requests, ⟨Nat.succ_pos _, asks⟩,
        Or.inl ⟨answer, rfl⟩⟩)
      rintro ⟨-, otherId, responses, others, also, wallet, permuted⟩
      obtain ⟨rfl, rfl⟩ := asks.unique also
      have same : [(⟨.sign others, answer⟩ : Exchange)] = [⟨.sign others, .ok responses⟩] :=
        List.append_cancel_left wallet
      cases same
      rw [signed_eq_ok_iff.mpr ⟨rfl, permuted⟩] at signed
      cases signed
  | @answered remaining envelope delivery response jobId requests answer responses rounds result
      report pending signed next ih =>
      obtain ⟨rfl, permuted⟩ := signed_eq_ok_iff.mp signed
      have asks : (job.protocol url (remaining + 1) envelope).Asks delivery jobId requests :=
        asks_iff.mpr ⟨response, report, pending⟩
      exact .cons rfl rfl ⟨requests, asks, rfl, permuted⟩ next.ne_nil ih

end Job
end DidRegistry
