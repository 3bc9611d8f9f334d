import DidRegistry.Interaction.Script
import DidRegistry.Json.Writer
import DidRegistry.Proofs.Job.Opening

/-!
Which job an operation names when it ends. A registrar may name a job in each of its reports; the
result of an operation, or the error with which the registrar gives it up, names one job or none.

* The job named is the one in the last report, and no other (`Operation.names_last_report`): it is
  the job most recently named exactly if the last report names one.
* A registrar need not repeat itself in its last report. What it has named before is then lost, both
  in a result and in an error (`Operation.job_forgotten`).
-/

namespace DidRegistry

/-- The report in a reply to a submission, if the submission is taken and the reply can be read. -/
def Endpoint.report? (endpoint : Endpoint) : Delivery → Option JobResponse
  | .replied reply =>
      if reply.status ∈ endpoint.statuses then
        (JobResponse.record.decoder.ofBytes reply.body).toOption
      else none
  | .dropped | .refused => none

/-- The jobs that the registrar names in these rounds, in order. -/
def Endpoint.jobIds (endpoint : Endpoint) (rounds : List Round) : List String :=
  rounds.filterMap fun round => (endpoint.report? round.delivery).bind (·.jobId)

/-- An operation ends with the job that it names, if it names one: in its result, or in the error
with which the registrar gives it up. -/
inductive NamesJob : Except Error (Option String) → Option String → Prop where
  | done {jobId : Option String} : NamesJob (.ok jobId) jobId
  | registration {operation : String} {jobId : Option String} {reason : String} :
      NamesJob (.error (.registration operation jobId reason)) jobId

namespace Endpoint

variable {endpoint : Endpoint} {delivery : Delivery} {response : JobResponse}

theorem report?_eq_some_iff :
    endpoint.report? delivery = some response ↔ endpoint.Reports delivery response := by
  cases delivery with
  | dropped => simp [report?, Reports]
  | refused => simp [report?, Reports]
  | replied reply =>
      simp only [report?, Reports, Delivery.replied.injEq, exists_eq_left',
        Option.ite_none_right_eq_some]
      refine and_congr_right fun _ => ?_
      cases JobResponse.record.decoder.ofBytes reply.body <;> simp [Except.toOption]

theorem jobIds_append (earlier later : List Round) :
    endpoint.jobIds (earlier ++ later) = endpoint.jobIds earlier ++ endpoint.jobIds later :=
  List.filterMap_append

/-- A report is one round's share of the jobs named. -/
theorem jobIds_singleton {round : Round} (reports : endpoint.Reports round.delivery response) :
    endpoint.jobIds [round] = response.jobId.toList := by
  rw [jobIds, List.filterMap_cons, report?_eq_some_iff.mpr reports]
  cases named : response.jobId <;> simp [named]

end Endpoint

namespace Job

variable {job : Job} {url : Url} {maxRounds remaining : Nat} {envelope : Json}
variable {rounds : List Round} {result : Except Error CompletedJob}

/-- A report that ends its job is what the result names. -/
theorem NamesJob.of_pending {response : JobResponse} {ending : Except Error CompletedJob}
    {jobId : Option String} (pending : job.pending response = .error ending)
    (names : NamesJob (ending.map (·.jobId)) jobId) : response.jobId = jobId := by
  obtain ⟨id, state⟩ := response
  cases state with
  | finished outcome =>
      cases pending
      cases names
      rfl
  | error reason =>
      cases pending
      cases names
      rfl
  | action requests description =>
      cases requests with
      | nil =>
          cases pending
          cases names
      | cons first others =>
          cases id with
          | none =>
              cases pending
              cases names
          | some named => cases pending

/-- The result of a job names what the last report names. In all reports before that one the
registrar asks for signatures. -/
theorem Dialogue.last_report {jobId : Option String}
    (dialogue : job.Dialogue url maxRounds remaining envelope rounds result)
    (names : NamesJob (result.map (·.jobId)) jobId) :
    ∃ earlier last response, rounds = earlier ++ [last] ∧
      job.endpoint.Reports last.delivery response ∧ response.jobId = jobId ∧
      ∀ round ∈ earlier, ∃ named requests, job.endpoint.Asks round.delivery named requests := by
  induction dialogue with
  | unreported report =>
      rcases received_error_cases report with rfl | ⟨_, _, rfl⟩ | ⟨_, rfl⟩ <;> cases names
  | @ended _ _ _ response _ report pending =>
      exact ⟨[], _, response, rfl, Registrar.received_eq_ok_iff.mp report,
        NamesJob.of_pending pending names, by simp⟩
  | exhausted report pending => cases names
  | unbound report pending refused => cases names
  | unsigned report pending signed =>
      obtain ⟨_, rfl⟩ := Program.signed_error signed
      cases names
  | @answered _ _ _ response named requests _ _ _ _ report pending signed next ih =>
      obtain ⟨earlier, last, final, rfl, reports, same, asks⟩ := ih names
      refine ⟨_ :: earlier, last, final, rfl, reports, same, ?_⟩
      rw [List.forall_mem_cons]
      exact ⟨⟨named, requests, endpoint_asks_iff.mpr ⟨response, report, pending⟩⟩, asks⟩

end Job

namespace Operation

variable {services : Services}

/-- What an operation makes of its finished job names this job, or it is no registrar's error. -/
theorem NamesJob.of_identify {operation : Operation} {ending : Except Error CompletedJob}
    {jobId : Option String} (names : NamesJob (ending.bind operation.identify) jobId) :
    NamesJob (ending.map (·.jobId)) jobId := by
  have published : ∀ {completed : CompletedJob},
      NamesJob ((Resource.published completed).map (·.jobId)) jobId →
      NamesJob (.ok completed.jobId) jobId := by
    intro completed names
    unfold Resource.published at names
    split at names
    · exact names
    · cases names
  cases ending with
  | error error => exact names
  | ok completed =>
      cases operation with
      | create options => exact names
      | update did document => exact names
      | deactivate did => exact names
      | createResource did payload => exact published names
      | updateResource did payload => exact published names

/-- What is submitted by an operation is submitted by its job, whose result the operation reads. -/
theorem dialogue_of_identified {operation : Operation} {exchanges : List Exchange}
    {result : Except Error (Option String)}
    (trace : (operation.identified services).Traces exchanges result) :
    Round.ofExchanges exchanges = [] ∨
      ∃ job : Job, ∃ url envelope, ∃ ending : Except Error CompletedJob,
        job.endpoint = operation.endpoint ∧
        job.Dialogue url services.settings.maxRounds services.settings.maxRounds envelope
          (Round.ofExchanges exchanges) ending ∧
        result = ending.bind operation.identify := by
  have quiet := operation.opening_quiet services
  have silent : ∀ {before : List Exchange} {opened : Except Error Opening},
      (operation.opening services).Traces before opened →
      ∀ exchange ∈ before, exchange.isSubmission = false := by
    intro before opened trace exchange member
    exact Exchange.isSubmission_of_isQuiet ((quiet.of_traces trace).1 exchange member)
  rw [identified_eq] at trace
  rcases Program.bind_traces.mp trace with
    ⟨error, opened, rfl⟩ | ⟨before, after, opening, rfl, opened, driven⟩
  · have none := Round.ofExchanges_append [] (silent opened)
    rw [List.append_nil] at none
    exact Or.inl none
  · rw [Round.ofExchanges_append after (silent opened)]
    obtain ⟨ending, performed, rfl⟩ := Program.bind_ofExcept_traces.mp driven
    rcases Job.perform_traces performed with ⟨rfl, -⟩ | ⟨url, rounds, -, -, rfl, dialogue⟩
    · exact Or.inl rfl
    · rw [Round.ofExchanges_flatMap dialogue.isWhole]
      exact Or.inr ⟨operation.job opening, url, opening.envelope, ending, rfl, dialogue, rfl⟩

/-- An operation names the job of the registrar's last report, in its result and in the registrar's
error alike. If the registrar has named jobs, this is the one named most recently exactly if the
last report names one, however many rounds of signing came before. -/
theorem names_last_report (operation : Operation) {σ : Type} (surroundings : Surroundings σ)
    (state : σ) {jobId : Option String}
    (named : operation.endpoint.jobIds (Round.ofExchanges
      ((operation.identified services).run surroundings state).exchanges) ≠ [])
    (names : NamesJob ((operation.identified services).run surroundings state).result jobId) :
    ∃ earlier last response,
      Round.ofExchanges ((operation.identified services).run surroundings state).exchanges =
        earlier ++ [last] ∧
      (∀ round ∈ earlier, ∃ jobId requests,
        operation.endpoint.Asks round.delivery jobId requests) ∧
      operation.endpoint.Reports last.delivery response ∧
      jobId = response.jobId ∧
      (jobId = (operation.endpoint.jobIds (Round.ofExchanges
        ((operation.identified services).run surroundings state).exchanges)).getLast? ↔
          response.jobId.isSome = true) := by
  have trace := Program.run_traces surroundings (operation.identified services) state
  generalize ((operation.identified services).run surroundings state).exchanges = exchanges
    at trace named ⊢
  rcases dialogue_of_identified trace with
    silent | ⟨job, url, envelope, ending, same, dialogue, concluded⟩
  · rw [silent] at named
    exact absurd rfl named
  rw [concluded] at names
  obtain ⟨earlier, last, response, rounds, reports, rfl, asks⟩ :=
    dialogue.last_report (NamesJob.of_identify names)
  rw [same] at reports asks
  refine ⟨earlier, last, response, rounds, asks, reports, rfl, ?_⟩
  rw [rounds, Endpoint.jobIds_append, Endpoint.jobIds_singleton reports] at named ⊢
  cases last_named : response.jobId with
  | some jobId => simp
  | none =>
      rw [last_named, Option.toList_none, List.append_nil] at named
      rw [Option.toList_none, List.append_nil]
      refine iff_of_false ?_ Bool.false_ne_true
      intro empty
      exact named (List.getLast?_eq_none_iff.mp empty.symm)

/-- A registrar that asks for one signature for the job `j`, and then makes this report. -/
def answering (last : JobResponse) : Script where
  reachable := true
  deliveries :=
    [⟨some "j", .action [⟨"k", "a"⟩] none⟩, last].map fun report : JobResponse =>
      .replied ⟨200, Bytes.ofText report.toJson.render⟩
  createKey := []
  assignKid := []
  sign := []
  now := 0

def publishing : Operation := .createResource "did:cheqd:testnet:a" ⟨"a", "b", "c", .null⟩

/-- A registrar that gives a job up and names it again: the error names this job. -/
theorem names_last_report_repeated :
    publishing.endpoint.jobIds (Round.ofExchanges ((publishing.identified .standard).run
      Script.surroundings (answering ⟨some "j", .error none⟩)).exchanges) ≠ [] ∧
    NamesJob ((publishing.identified .standard).run Script.surroundings
      (answering ⟨some "j", .error none⟩)).result (some "j") ∧
    ∃ earlier last response,
      Round.ofExchanges ((publishing.identified .standard).run Script.surroundings
        (answering ⟨some "j", .error none⟩)).exchanges = earlier ++ [last] ∧
      (∀ round ∈ earlier, ∃ jobId requests,
        publishing.endpoint.Asks round.delivery jobId requests) ∧
      publishing.endpoint.Reports last.delivery response ∧
      some "j" = response.jobId ∧
      (some "j" = (publishing.endpoint.jobIds (Round.ofExchanges
        ((publishing.identified .standard).run Script.surroundings
          (answering ⟨some "j", .error none⟩)).exchanges)).getLast? ↔
            response.jobId.isSome = true) := by
  obtain ⟨named, given_up⟩ : publishing.endpoint.jobIds (Round.ofExchanges
      ((publishing.identified .standard).run Script.surroundings
        (answering ⟨some "j", .error none⟩)).exchanges) ≠ [] ∧
      ((publishing.identified .standard).run Script.surroundings
        (answering ⟨some "j", .error none⟩)).result =
          .error (.registration "createResource" (some "j") "no reason given") := by
    decide +kernel
  have names : NamesJob ((publishing.identified .standard).run Script.surroundings
      (answering ⟨some "j", .error none⟩)).result (some "j") := by
    rw [given_up]
    exact .registration
  exact ⟨named, names, names_last_report publishing Script.surroundings _ named names⟩

/-- A registrar names a job, and once the signatures are submitted it gives the job up without
naming it again: the error names no job. -/
theorem job_forgotten :
    ¬ ∀ (services : Services) (operation : Operation) {σ : Type} (surroundings : Surroundings σ)
      (state : σ) (jobId : Option String),
      operation.endpoint.jobIds (Round.ofExchanges
        ((operation.identified services).run surroundings state).exchanges) ≠ [] →
      NamesJob ((operation.identified services).run surroundings state).result jobId →
      jobId = (operation.endpoint.jobIds (Round.ofExchanges
        ((operation.identified services).run surroundings state).exchanges)).getLast? := by
  intro always
  obtain ⟨named, given_up⟩ : publishing.endpoint.jobIds (Round.ofExchanges
      ((publishing.identified .standard).run Script.surroundings
        (answering ⟨none, .error none⟩)).exchanges) = ["j"] ∧
      ((publishing.identified .standard).run Script.surroundings
        (answering ⟨none, .error none⟩)).result =
          .error (.registration "createResource" none "no reason given") := by
    decide +kernel
  have same := always .standard publishing Script.surroundings (answering ⟨none, .error none⟩) none
  rw [named, given_up] at same
  cases same (List.cons_ne_nil _ _) .registration

end Operation
end DidRegistry
