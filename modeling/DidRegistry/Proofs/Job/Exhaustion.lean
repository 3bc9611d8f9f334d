import DidRegistry.Proofs.Interaction.Submission
import DidRegistry.Proofs.Job.Protocol

/-!
Jobs that are given up because they still wait for signatures after the last round allowed. The
rounds of a run are read off its exchanges (`Round.ofExchanges`): each begins with a submission.

* A job asks for signatures at most once a round and submits at most one document more
  (`Dialogue.signings_le`, `Dialogue.length_le`).
* It is given up exactly if all rounds allowed have been signed and the registrar still asks for
  signatures (`Dialogue.exhausted_iff`).
* A job has finished exactly if the registrar reports it as finished, in the last round allowed too
  (`Dialogue.finished`, `Dialogue.reported`).
-/

namespace DidRegistry

/-- Whether an error says that a job is given up after the last round. -/
def Error.isExhaustion : Error → Bool
  | .protocolExhausted _ _ => true
  | _ => false

/-- A submission to the endpoint is taken, and its reply is a job that waits, with a job ID and at
least one request. -/
def Endpoint.Asks (endpoint : Endpoint) (delivery : Delivery) (jobId : String)
    (requests : List SigningRequest) : Prop :=
  ∃ description, endpoint.Reports delivery ⟨some jobId, .action requests description⟩ ∧
    requests ≠ []

namespace Round

/-- The rounds of a run. Each begins with a submission and has the exchanges up to the next one. -/
def ofExchanges : List Exchange → List Round
  | [] => []
  | ⟨.fetch request, delivery⟩ :: rest =>
      if request.body.isSome then
        ⟨request, delivery, rest.takeWhile fun exchange => !exchange.isSubmission⟩ ::
          ofExchanges rest
      else ofExchanges rest
  | _ :: rest => ofExchanges rest

/-- A round sends one document, with its only request. -/
structure IsWhole (round : Round) : Prop where
  submits : round.request.body.isSome = true
  apart : ∀ exchange ∈ round.wallet, exchange.isRequest = false

theorem IsWhole.silent {round : Round} (whole : round.IsWhole) :
    ∀ exchange ∈ round.wallet, exchange.isSubmission = false :=
  fun exchange member => Exchange.isSubmission_of_not_isRequest (whole.apart exchange member)

/-- What is exchanged before the next submission does not begin a round. -/
theorem ofExchanges_append {before : List Exchange} (rest : List Exchange)
    (silent : ∀ exchange ∈ before, exchange.isSubmission = false) :
    ofExchanges (before ++ rest) = ofExchanges rest := by
  induction before with
  | nil => rfl
  | cons exchange before ih =>
      have others := ih fun other member => silent other (List.mem_cons_of_mem _ member)
      have first := silent exchange (List.mem_cons_self ..)
      obtain ⟨call, answer⟩ := exchange
      cases call with
      | fetch request =>
          have bare : ¬ request.body.isSome = true := Bool.eq_false_iff.mp first
          simp only [List.cons_append, ofExchanges, if_neg bare]
          exact others
      | _ => exact others

/-- The exchanges of whole rounds are read back as these rounds. -/
theorem ofExchanges_flatMap {rounds : List Round} (whole : ∀ round ∈ rounds, round.IsWhole) :
    ofExchanges (rounds.flatMap exchanges) = rounds := by
  induction rounds with
  | nil => rfl
  | cons round rounds ih =>
      have first := whole round (List.mem_cons_self ..)
      have others := ih fun other member => whole other (List.mem_cons_of_mem _ member)
      -- The next round begins with a submission, where the wallet's exchanges of this one end.
      have cut : (rounds.flatMap exchanges).takeWhile (fun e => !e.isSubmission) = [] := by
        cases rounds with
        | nil => rfl
        | cons next later =>
            have second := whole next (List.mem_cons_of_mem _ (List.mem_cons_self ..))
            have submits : Exchange.isSubmission ⟨.fetch next.request, next.delivery⟩ = true :=
              second.submits
            simp [exchanges, submits]
      have wallet : (round.wallet ++ rounds.flatMap exchanges).takeWhile
          (fun e => !e.isSubmission) = round.wallet := by
        rw [List.takeWhile_append_of_pos (by simpa using first.silent), cut, List.append_nil]
      simp only [List.flatMap_cons, exchanges, List.cons_append, ofExchanges, first.submits,
        if_true, wallet]
      rw [ofExchanges_append _ first.silent, others]

/-- Signatures are asked for in the wallet's part of a round. -/
theorem countP_isSigning (round : Round) :
    round.exchanges.countP Exchange.isSigning = round.wallet.countP Exchange.isSigning :=
  List.countP_cons_of_neg Bool.false_ne_true

/-- Whole rounds submit as many documents as they are. -/
theorem countP_isSubmission_flatMap {rounds : List Round}
    (whole : ∀ round ∈ rounds, round.IsWhole) :
    (rounds.flatMap exchanges).countP Exchange.isSubmission = rounds.length := by
  induction rounds with
  | nil => rfl
  | cons round rounds ih =>
      have first := whole round (List.mem_cons_self ..)
      have others := ih fun other member => whole other (List.mem_cons_of_mem _ member)
      have submits : Exchange.isSubmission ⟨.fetch round.request, round.delivery⟩ = true :=
        first.submits
      have silent : round.wallet.countP Exchange.isSubmission = 0 := by
        rw [List.countP_eq_zero]
        intro exchange member
        rw [first.silent exchange member]
        exact Bool.false_ne_true
      rw [List.flatMap_cons, List.countP_append, exchanges, List.countP_cons_of_pos submits, silent,
        others, List.length_cons]
      omega

end Round

/-- In whole rounds nothing is asked for without a document. -/
theorem inquiries_flatMap {rounds : List Round} (whole : ∀ round ∈ rounds, round.IsWhole) :
    inquiries (rounds.flatMap Round.exchanges) = [] := by
  rw [inquiries, List.filterMap_eq_nil_iff]
  intro exchange member
  obtain ⟨round, among, within⟩ := List.mem_flatMap.mp member
  rcases List.mem_cons.mp within with rfl | wallet
  · have submits := (whole round among).submits
    simp only [Exchange.inquiry?, Option.isNone_iff_eq_none, Option.isSome_iff_ne_none.mp submits,
      if_false]
  · have other := (whole round among).apart exchange wallet
    obtain ⟨call, answer⟩ := exchange
    cases call with
    | fetch request => cases other
    | _ => rfl

namespace Job

variable {job : Job} {base url : Url} {maxRounds remaining : Nat} {envelope : Json}
variable {rounds : List Round} {result : Except Error CompletedJob}

/-! ### The wallet -/

/-- Exchanges that bind key IDs, submit nothing and ask for no signature. -/
theorem mem_bindings {requests : List SigningRequest} {exchange : Exchange}
    (member : exchange ∈ job.bindings requests) :
    ∃ verkey kid, exchange = ⟨.assignKid verkey kid, .ok ()⟩ := by
  unfold bindings at member
  split at member
  · rename_i verkey _
    obtain ⟨kid, -, rfl⟩ := List.mem_map.mp member
    exact ⟨verkey, kid, rfl⟩
  · cases member

theorem BindingRefused.mem {requests : List SigningRequest} {wallet : List Exchange}
    {reason : String} (refused : job.BindingRefused requests wallet reason) {exchange : Exchange}
    (member : exchange ∈ wallet) :
    ∃ verkey kid, ∃ answer : Except String Unit, exchange = ⟨.assignKid verkey kid, answer⟩ := by
  obtain ⟨verkey, before, kid, after, -, -, rfl⟩ := refused
  rcases List.mem_append.mp member with bound | last
  · obtain ⟨earlier, -, rfl⟩ := List.mem_map.mp bound
    exact ⟨verkey, earlier, .ok (), rfl⟩
  · exact ⟨verkey, kid, .error reason, List.mem_singleton.mp last⟩

theorem BindingRefused.countP_isSigning {requests : List SigningRequest} {wallet : List Exchange}
    {reason : String} (refused : job.BindingRefused requests wallet reason) :
    wallet.countP Exchange.isSigning = 0 := by
  rw [List.countP_eq_zero]
  intro exchange member
  obtain ⟨verkey, kid, answer, rfl⟩ := refused.mem member
  exact Bool.false_ne_true

/-- A batch asks for signatures once, at its end. -/
theorem countP_isSigning_bindings (requests batch : List SigningRequest)
    (answer : Except String (List SigningResponse)) :
    (job.bindings requests ++ [(⟨.sign batch, answer⟩ : Exchange)]).countP Exchange.isSigning =
      1 := by
  have unsigned : (job.bindings requests).countP Exchange.isSigning = 0 := by
    rw [List.countP_eq_zero]
    intro exchange member
    obtain ⟨verkey, kid, rfl⟩ := mem_bindings member
    exact Bool.false_ne_true
  rw [List.countP_append, unsigned]
  rfl

theorem isRequest_of_mem_signing {requests batch : List SigningRequest}
    {answer : Except String (List SigningResponse)} {exchange : Exchange}
    (member : exchange ∈ job.bindings requests ++ [⟨.sign batch, answer⟩]) :
    exchange.isRequest = false := by
  rcases List.mem_append.mp member with bound | last
  · obtain ⟨verkey, kid, rfl⟩ := mem_bindings bound
    rfl
  · rw [List.mem_singleton.mp last]
    rfl

/-! ### Errors -/

/-- A submission fails because no reply comes, or because of the status of the reply, or because
the reply cannot be read. -/
theorem received_error_cases {endpoint : Endpoint} {delivery : Delivery} {error : Error}
    (failed : Registrar.received url endpoint delivery = .error error) :
    error = .request ∨ (∃ place status, error = .transport place status) ∨
      ∃ reason, error = .invalidResponse reason := by
  cases delivery with
  | dropped =>
      cases failed
      exact Or.inl rfl
  | refused =>
      cases failed
      exact Or.inl rfl
  | replied reply =>
      simp only [Registrar.received, Delivery.read, Registrar.report] at failed
      split at failed
      · split at failed
        · cases failed
        · cases failed
          exact Or.inr (Or.inr ⟨_, rfl⟩)
      · cases failed
        exact Or.inr (Or.inl ⟨_, _, rfl⟩)

theorem received_not_isExhaustion {endpoint : Endpoint} {delivery : Delivery} {error : Error}
    (failed : Registrar.received url endpoint delivery = .error error) :
    error.isExhaustion = false := by
  rcases received_error_cases failed with rfl | ⟨_, _, rfl⟩ | ⟨_, rfl⟩ <;> rfl

theorem pending_not_isExhaustion {response : JobResponse} {error : Error}
    (ended : job.pending response = .error (.error error)) : error.isExhaustion = false := by
  unfold pending at ended
  split at ended
  · cases ended
  · cases ended
    rfl
  · cases ended
    rfl
  · split at ended
    · cases ended
      rfl
    · cases ended

theorem signed_not_isExhaustion {requests : List SigningRequest}
    {answer : Except String (List SigningResponse)} {error : Error}
    (failed : Program.signed requests answer = .error error) : error.isExhaustion = false := by
  obtain ⟨reason, rfl⟩ := Program.signed_error failed
  rfl

/-- An error that is no exhaustion is not this one. -/
theorem ne_protocolExhausted {α : Type} {error : Error} (other : error.isExhaustion = false)
    {jobId : String} {limit : Nat} :
    (.error error : Except Error α) ≠ .error (.protocolExhausted jobId limit) := by
  rintro ⟨⟩
  cases other

/-! ### Dialogues -/

/-- Only a report of a finished job ends its job well. -/
theorem pending_eq_finished {response : JobResponse} {completed : CompletedJob}
    (ended : job.pending response = .error (.ok completed)) :
    response = ⟨completed.jobId, .finished completed.outcome⟩ := by
  obtain ⟨id, state⟩ := response
  cases state with
  | finished outcome =>
      cases ended
      rfl
  | error reason => cases ended
  | action requests description =>
      cases requests with
      | nil => cases ended
      | cons first others => cases id <;> cases ended

/-- An endpoint asks for signatures exactly if its report leaves a batch pending. -/
theorem endpoint_asks_iff {delivery : Delivery} {jobId : String}
    {requests : List SigningRequest} :
    job.endpoint.Asks delivery jobId requests ↔
      ∃ response, Registrar.received url job.endpoint delivery = .ok response ∧
        job.pending response = .ok (jobId, requests) := by
  simp only [Registrar.received_eq_ok_iff, pending_eq_ok_iff, Endpoint.Asks]
  constructor
  · rintro ⟨description, reports, nonempty⟩
    exact ⟨_, reports, nonempty, description, rfl⟩
  · rintro ⟨_, reports, nonempty, description, rfl⟩
    exact ⟨description, reports, nonempty⟩

namespace Dialogue

theorem isWhole (dialogue : job.Dialogue url maxRounds remaining envelope rounds result) :
    ∀ round ∈ rounds, round.IsWhole := by
  induction dialogue with
  | unreported report =>
      simp only [List.forall_mem_singleton]
      exact ⟨rfl, by simp⟩
  | ended report pending =>
      simp only [List.forall_mem_singleton]
      exact ⟨rfl, by simp⟩
  | exhausted report pending =>
      simp only [List.forall_mem_singleton]
      exact ⟨rfl, by simp⟩
  | unbound report pending refused =>
      simp only [List.forall_mem_singleton]
      refine ⟨rfl, ?_⟩
      intro exchange member
      obtain ⟨verkey, kid, answer, rfl⟩ := refused.mem member
      rfl
  | unsigned report pending signed =>
      simp only [List.forall_mem_singleton]
      exact ⟨rfl, fun _ member => isRequest_of_mem_signing member⟩
  | answered report pending signed next ih =>
      rw [List.forall_mem_cons]
      exact ⟨⟨rfl, fun _ member => isRequest_of_mem_signing member⟩, ih⟩

/-- There is one submission more than rounds of signing, at most. -/
theorem length_le (dialogue : job.Dialogue url maxRounds remaining envelope rounds result) :
    rounds.length ≤ remaining + 1 := by
  induction dialogue with
  | answered report pending signed next ih =>
      rw [List.length_cons]
      omega
  | _ => simp

/-- Signatures are asked for once a round, at most. -/
theorem signings_le (dialogue : job.Dialogue url maxRounds remaining envelope rounds result) :
    (rounds.flatMap Round.exchanges).countP Exchange.isSigning ≤ remaining := by
  induction dialogue with
  | unreported report => exact Nat.zero_le _
  | ended report pending => exact Nat.zero_le _
  | exhausted report pending => exact Nat.zero_le _
  | unbound report pending refused =>
      rw [List.flatMap_singleton, Round.countP_isSigning, refused.countP_isSigning]
      exact Nat.zero_le _
  | unsigned report pending signed =>
      rw [List.flatMap_singleton, Round.countP_isSigning, countP_isSigning_bindings]
      exact Nat.le_add_left 1 _
  | answered report pending signed next ih =>
      rw [List.flatMap_cons, List.countP_append, Round.countP_isSigning, countP_isSigning_bindings]
      omega

/-- A job is given up exactly if it is asked for signatures once all rounds allowed are signed; the
error names the job as this last report does, and the rounds allowed. -/
theorem exhausted_iff (dialogue : job.Dialogue url maxRounds remaining envelope rounds result)
    {jobId : String} {limit : Nat} :
    result = .error (.protocolExhausted jobId limit) ↔
      limit = maxRounds ∧ ∃ round requests, rounds[remaining]? = some round ∧
        job.endpoint.Asks round.delivery jobId requests := by
  induction dialogue with
  | unreported report =>
      refine iff_of_false (ne_protocolExhausted (received_not_isExhaustion report)) ?_
      rintro ⟨-, round, requests, found, asks⟩
      cases List.mem_singleton.mp (List.mem_of_getElem? found)
      obtain ⟨response, received, -⟩ := endpoint_asks_iff.mp asks
      rw [report] at received
      cases received
  | @ended _ _ _ _ ending report pending =>
      refine iff_of_false ?_ ?_
      · cases ending with
        | ok completed => exact nofun
        | error error => exact ne_protocolExhausted (pending_not_isExhaustion pending)
      · rintro ⟨-, round, requests, found, asks⟩
        cases List.mem_singleton.mp (List.mem_of_getElem? found)
        obtain ⟨response, received, waits⟩ := endpoint_asks_iff.mp asks
        rw [report] at received
        cases received
        rw [pending] at waits
        cases waits
  | @exhausted _ _ response last requests report pending =>
      constructor
      · rintro ⟨⟩
        exact ⟨rfl, _, requests, rfl, endpoint_asks_iff.mpr ⟨response, report, pending⟩⟩
      · rintro ⟨rfl, _, batch, ⟨⟩, asks⟩
        obtain ⟨other, received, waits⟩ := endpoint_asks_iff.mp asks
        rw [report] at received
        cases received
        rw [pending] at waits
        cases waits
        rfl
  | unbound report pending refused =>
      refine iff_of_false nofun ?_
      rintro ⟨-, round, requests, ⟨⟩, -⟩
  | unsigned report pending failed =>
      refine iff_of_false (ne_protocolExhausted (signed_not_isExhaustion failed)) ?_
      rintro ⟨-, round, requests, ⟨⟩, -⟩
  | answered report pending signed next ih => exact ih

/-- A job that is reported as finished has finished, whatever the round. -/
theorem finished (dialogue : job.Dialogue url maxRounds remaining envelope rounds result)
    {jobId : Option String} {outcome : Outcome} {round : Round} (member : round ∈ rounds)
    (reports : job.endpoint.Reports round.delivery ⟨jobId, .finished outcome⟩) :
    result = .ok ⟨jobId, outcome⟩ := by
  -- A report that leaves a batch pending is not one of a finished job.
  have waiting : ∀ {delivery : Delivery} {response : JobResponse} {batch},
      job.endpoint.Reports delivery ⟨jobId, .finished outcome⟩ →
      Registrar.received url job.endpoint delivery = .ok response →
      job.pending response = .ok batch → False := by
    intro delivery response batch reports report pending
    rw [Registrar.received_eq_ok_iff.mpr reports] at report
    cases report
    cases pending
  induction dialogue with
  | unreported report =>
      cases List.mem_singleton.mp member
      rw [Registrar.received_eq_ok_iff.mpr reports] at report
      cases report
  | ended report pending =>
      cases List.mem_singleton.mp member
      rw [Registrar.received_eq_ok_iff.mpr reports] at report
      cases report
      cases pending
      rfl
  | exhausted report pending =>
      cases List.mem_singleton.mp member
      exact (waiting reports report pending).elim
  | unbound report pending refused =>
      cases List.mem_singleton.mp member
      exact (waiting reports report pending).elim
  | unsigned report pending signed =>
      cases List.mem_singleton.mp member
      exact (waiting reports report pending).elim
  | answered report pending signed next ih =>
      rcases List.mem_cons.mp member with rfl | later
      · exact (waiting reports report pending).elim
      · exact ih later

/-- A job that ends well ends with the report that says so, with which nothing is left to sign. -/
theorem reported {completed : CompletedJob}
    (dialogue : job.Dialogue url maxRounds remaining envelope rounds (.ok completed)) :
    ∃ earlier request, ∃ delivery : Delivery, rounds = earlier ++ [⟨request, delivery, []⟩] ∧
      job.endpoint.Reports delivery ⟨completed.jobId, .finished completed.outcome⟩ := by
  generalize ending : (.ok completed : Except Error CompletedJob) = result at dialogue
  induction dialogue with
  | unreported report => cases ending
  | @ended _ _ delivery response _ report pending =>
      subst ending
      refine ⟨[], _, delivery, rfl, ?_⟩
      rw [← pending_eq_finished pending]
      exact Registrar.received_eq_ok_iff.mp report
  | exhausted report pending => cases ending
  | unbound report pending refused => cases ending
  | unsigned report pending signed => cases ending
  | answered report pending signed next ih =>
      obtain ⟨earlier, request, delivery, rfl, reports⟩ := ih ending
      exact ⟨_ :: earlier, request, delivery, rfl, reports⟩

end Dialogue
end Job
end DidRegistry
