import DidRegistry.Proofs.Job.Conformance
import DidRegistry.Proofs.Job.Counter
import DidRegistry.Proofs.Job.Replies

/-!
The limit on rounds of signing, kept by every operation that drives a job. How an operation ends is
settled by what its surroundings answer: how it opens there, and which replies the conversation then
meets (`Operation.Meets`), whatever the operation itself makes of them.

Main statement: with settings that can be used, every operation ends within the rounds allowed. It is
given up exactly if the registrar asks for signatures throughout, and is concluded if a reply within
these rounds reports the job as finished. The count of rounds fits into any word that holds the
limit (`Operation.limited`).
-/

namespace DidRegistry

namespace Operation

variable {σ : Type} {services : Services} {settings : Settings} {operation : Operation}
variable {surroundings : Surroundings σ} {state : σ}

/-- Reply `k` of the registrar in the conversation that the operation is to have with these
surroundings. The surroundings let it open, and the replies before this one ask for signatures,
which the wallet gives. -/
def Meets (services : Services) (operation : Operation) (surroundings : Surroundings σ) (state : σ)
    (k : Nat) (delivery : Delivery) : Prop :=
  services.registrar.isWeb = true ∧ ∃ before protocol start,
    operation.Opens services before protocol ∧ surroundings.Gives state before start ∧
    protocol.Replies surroundings k protocol.opening start delivery

/-- A run of an operation keeps the limit on its rounds. The counts are of what the run exchanges;
how it ends is said by what the surroundings would answer to the conversation (`Meets`), so a run
that breaks off early does not keep the limit if it should have been given up or have finished. -/
structure KeepsLimit (services : Services) (operation : Operation)
    (surroundings : Surroundings σ) (state : σ) : Prop where
  /-- Signatures are asked for once a round allowed, at most. -/
  signings : ((operation.program services).run surroundings state).exchanges.countP
    Exchange.isSigning ≤ services.settings.maxRounds
  /-- One document is submitted to begin with, and one for each round of signing. -/
  submissions : ((operation.program services).run surroundings state).exchanges.countP
    Exchange.isSubmission ≤ services.settings.maxRounds + 1
  /-- The job is given up exactly if the registrar asks for signatures in every reply and gets
  them in every round allowed. The error names the job as the last reply does. -/
  exhausted : ∀ jobId limit, ((operation.program services).run surroundings state).result =
      .error (.protocolExhausted jobId limit) ↔
    limit = services.settings.maxRounds ∧ ∃ delivery requests,
      operation.Meets services surroundings state services.settings.maxRounds delivery ∧
      operation.endpoint.Asks delivery jobId requests
  /-- A job that is reported as finished, be it in the last reply allowed, is concluded. -/
  finished : ∀ k ≤ services.settings.maxRounds, ∀ delivery jobId outcome,
    operation.Meets services surroundings state k delivery →
    operation.endpoint.Reports delivery ⟨jobId, .finished outcome⟩ →
    ((operation.program services).run surroundings state).result =
      operation.conclude ⟨jobId, outcome⟩
  /-- No other operation ends well. -/
  succeeds : ((operation.program services).run surroundings state).result = .ok () →
    ∃ k ≤ services.settings.maxRounds, ∃ delivery jobId outcome,
      operation.Meets services surroundings state k delivery ∧
      operation.endpoint.Reports delivery ⟨jobId, .finished outcome⟩

/-- What is made of a finished job is never exhaustion. -/
theorem conclude_not_isExhaustion {completed : CompletedJob} {error : Error}
    (failed : operation.conclude completed = .error error) : error.isExhaustion = false := by
  have unnamed : ∀ {error : Error}, (Resource.published completed).map (fun _ => ()) =
      .error error → error.isExhaustion = false := by
    intro error failed
    unfold Resource.published at failed
    split at failed
    · cases failed
    · cases failed
      rfl
  cases operation with
  | create options => cases failed
  | update did document => cases failed
  | deactivate did => cases failed
  | createResource did payload => exact unnamed failed
  | updateResource did payload => exact unnamed failed

/-- Exhaustion is not concluded from a finished job. -/
theorem exhausted_of_bind {ending : Except Error CompletedJob} {jobId : String} {limit : Nat} :
    ending.bind operation.conclude = .error (.protocolExhausted jobId limit) ↔
      ending = .error (.protocolExhausted jobId limit) := by
  cases ending with
  | error error => simp [Except.bind]
  | ok completed =>
      refine iff_of_false ?_ nofun
      intro failed
      cases conclude_not_isExhaustion failed

/-! ### How a run comes about -/

theorem endpointUrl_not_isExhaustion {name : String} {error : Error}
    (missing : Registrar.endpointUrl services.registrar name = .error error ∨ error = .request) :
    error.isExhaustion = false := by
  rcases missing with missing | rfl
  · exact Job.endpointUrl_not_isExhaustion missing
  · rfl

/-- Where the opening succeeds, the replies met are those to its envelope. -/
theorem meets_iff (usable : Services.ofSettings settings = .ok services)
    (web : services.registrar.isWeb = true) {before : List Exchange} {opening : Opening}
    {start : σ} {url : Url}
    (opened : (operation.opening services).run surroundings state = ⟨before, .ok opening, start⟩)
    (place : Registrar.endpointUrl services.registrar operation.endpoint.path = .ok url) {k : Nat}
    {delivery : Delivery} :
    operation.Meets services surroundings state k delivery ↔
      ((operation.job opening).protocol url services.settings.maxRounds opening.envelope).Replies
        surroundings k opening.envelope start delivery := by
  constructor
  · rintro ⟨-, _, _, _, opens, given, replies⟩
    obtain ⟨_, _, trace, also, rfl⟩ := (opens_iff usable web).mp opens
    cases opened.symm.trans (trace.run_eq given)
    cases place.symm.trans also
    exact replies
  · intro replies
    have trace := Program.run_traces surroundings (operation.opening services) state
    have given := Program.run_gives surroundings (operation.opening services) state
    rw [opened] at trace given
    exact ⟨web, before, _, start, (opens_iff usable web).mpr ⟨opening, url, trace, place, rfl⟩,
      given, replies⟩

/-- Where the opening fails, no reply is met. -/
theorem not_meets (usable : Services.ofSettings settings = .ok services)
    {before : List Exchange} {error : Error} {after : σ}
    (opened : (operation.opening services).run surroundings state = ⟨before, .error error, after⟩)
    (k : Nat) (delivery : Delivery) :
    ¬ operation.Meets services surroundings state k delivery := by
  rintro ⟨web, _, _, _, opens, given, -⟩
  obtain ⟨_, _, trace, -, -⟩ := (opens_iff usable web).mp opens
  cases opened.symm.trans (trace.run_eq given)

/-- A run meets no reply and fails, but is not given up; or it is a dialogue that meets the replies
to its envelope. -/
theorem run_cases (usable : Services.ofSettings settings = .ok services) (operation : Operation)
    (surroundings : Surroundings σ) (state : σ) :
    (∃ error, error.isExhaustion = false ∧
      ((operation.program services).run surroundings state).result = .error error ∧
      ∀ k delivery, ¬ operation.Meets services surroundings state k delivery) ∨
    ∃ opening url start final rounds ending,
      (∀ k delivery, operation.Meets services surroundings state k delivery ↔
        ((operation.job opening).protocol url services.settings.maxRounds opening.envelope).Replies
          surroundings k opening.envelope start delivery) ∧
      (operation.job opening).Dialogue url services.settings.maxRounds services.settings.maxRounds
        opening.envelope rounds ending ∧
      surroundings.Gives start (rounds.flatMap Round.exchanges) final ∧
      ((operation.program services).run surroundings state).result =
        ending.bind operation.conclude := by
  have quiet := operation.opening_quiet services
  rw [program_eq, Program.run_bind]
  cases opened : (operation.opening services).run surroundings state with
  | mk before opening start =>
  cases opening with
  | error error =>
      have trace := Program.run_traces surroundings (operation.opening services) state
      rw [opened] at trace
      exact Or.inl ⟨error, (quiet.of_traces trace).2 error rfl, rfl, not_meets usable opened⟩
  | ok opening =>
      have trace := Program.run_traces surroundings
        (operation.drive services operation.conclude opening) start
      have given := Program.run_gives surroundings
        (operation.drive services operation.conclude opening) start
      obtain ⟨ending, performed, result⟩ := Program.bind_ofExcept_traces.mp trace
      by_cases web : services.registrar.isWeb = true
      · obtain ⟨url, place, placeWeb⟩ :=
          Registrar.exists_endpointUrl usable web operation.endpoint.path
        obtain ⟨rounds, made, dialogue⟩ := Job.perform_dialogue place placeWeb performed
        rw [made] at given
        exact Or.inr ⟨opening, url, start, _, rounds, ending,
          fun _ _ => meets_iff usable web opened place, dialogue, given, result⟩
      · rcases Job.perform_traces performed with
          ⟨-, error, rfl, missing⟩ | ⟨url, rounds, place, placeWeb, -⟩
        · exact Or.inl ⟨error, endpointUrl_not_isExhaustion missing, result,
            fun _ _ meets => web meets.1⟩
        · rw [Registrar.isWeb_of_endpointUrl place] at placeWeb
          exact absurd placeWeb web

/-- Every trace of an operation asks for signatures and submits within the limit. -/
theorem counts_of_traces {exchanges : List Exchange} {result : Except Error Unit}
    (trace : (operation.program services).Traces exchanges result) :
    exchanges.countP Exchange.isSigning ≤ services.settings.maxRounds ∧
      exchanges.countP Exchange.isSubmission ≤ services.settings.maxRounds + 1 := by
  have quiet := operation.opening_quiet services
  rw [program_eq] at trace
  rcases Program.bind_traces.mp trace with
    ⟨error, opened, -⟩ | ⟨before, after, opening, rfl, opened, driven⟩
  · have calls := (quiet.of_traces opened).1
    rw [Exchange.countP_isSigning_of_isQuiet calls, Exchange.countP_isSubmission_of_isQuiet calls]
    exact ⟨Nat.zero_le _, Nat.zero_le _⟩
  · have calls := (quiet.of_traces opened).1
    rw [List.countP_append, List.countP_append, Exchange.countP_isSigning_of_isQuiet calls,
      Exchange.countP_isSubmission_of_isQuiet calls, Nat.zero_add, Nat.zero_add]
    obtain ⟨ending, performed, -⟩ := Program.bind_ofExcept_traces.mp driven
    rcases Job.perform_traces performed with ⟨rfl, -⟩ | ⟨url, rounds, -, -, rfl, dialogue⟩
    · exact ⟨Nat.zero_le _, Nat.zero_le _⟩
    · rw [Round.countP_isSubmission_flatMap dialogue.isWhole]
      exact ⟨dialogue.signings_le, dialogue.length_le⟩

/-- Every run of an operation keeps the limit. -/
theorem keepsLimit (usable : Services.ofSettings settings = .ok services) (operation : Operation)
    (surroundings : Surroundings σ) (state : σ) :
    operation.KeepsLimit services surroundings state := by
  obtain ⟨signings, submissions⟩ := counts_of_traces
    (Program.run_traces surroundings (operation.program services) state)
  rcases run_cases usable operation surroundings state with
    ⟨error, other, failed, unmet⟩ | ⟨opening, url, start, final, rounds, ending, meets, dialogue,
      given, result⟩
  · refine ⟨signings, submissions, ?_, ?_, ?_⟩
    · intro jobId limit
      rw [failed]
      refine iff_of_false (Job.ne_protocolExhausted other) ?_
      rintro ⟨-, delivery, requests, met, -⟩
      exact unmet _ _ met
    · intro k within delivery jobId outcome met
      exact absurd met (unmet _ _)
    · rw [failed]
      rintro ⟨⟩
  · refine ⟨signings, submissions, ?_, ?_, ?_⟩
    · intro jobId limit
      simp only [result, exhausted_of_bind, meets]
      exact dialogue.exhausted_iff_replies given
    · intro k within delivery jobId outcome met reports
      have ended : ending = .ok ⟨jobId, outcome⟩ := (dialogue.finished_iff_replies given).mpr
        ⟨k, within, delivery, (meets k delivery).mp met, reports⟩
      rw [result, ended]
      rfl
    · intro succeeded
      obtain ⟨completed, rfl, -⟩ := exists_of_bind_eq_ok (result.symm.trans succeeded)
      obtain ⟨k, within, delivery, replies, reports⟩ :=
        (dialogue.finished_iff_replies given).mp rfl
      exact ⟨k, within, delivery, completed.jobId, completed.outcome,
        (meets k delivery).mpr replies, reports⟩

end Operation

/-- Settings that are accepted describe peers. -/
theorem Services.exists_of_validate {settings : Settings} (accepted : settings.validate = .ok ()) :
    ∃ services, Services.ofSettings settings = .ok services ∧ services.settings = settings := by
  unfold Services.ofSettings
  rw [accepted]
  unfold Settings.validate at accepted
  cases registrar : Settings.baseUrl settings.registrarUrl with
  | error error =>
      rw [registrar] at accepted
      cases accepted
  | ok registrarUrl =>
      cases resolver : Settings.baseUrl settings.resolverUrl with
      | error error =>
          rw [registrar, resolver] at accepted
          cases accepted
      | ok resolverUrl => exact ⟨⟨settings, registrarUrl, resolverUrl⟩, rfl, rfl⟩

/-- With settings that are accepted, every operation keeps the limit on its rounds, whatever
registrar, resolver and wallet answer. How it ends is settled by their answers: it is given up
exactly if the registrar asks for signatures once more when all rounds allowed have been signed, and
it is concluded as finished if the registrar says so before, or in this last reply. The count of
rounds fits into a word that holds the limit. -/
theorem Operation.limited {settings : Settings} (accepted : settings.validate = .ok ()) :
    ∃ services, Services.ofSettings settings = .ok services ∧ services.settings = settings ∧
      (∀ (operation : Operation) {σ : Type} (surroundings : Surroundings σ) (state : σ),
        operation.KeepsLimit services surroundings state) ∧
      ∀ {width : Nat} (limit : BitVec width), limit.toNat = settings.maxRounds →
        ∀ (job : Job) (response : JobResponse),
          job.driveCounted services.registrar limit (BitVec.ofNat width 0) response =
            (job.drive services.registrar settings.maxRounds settings.maxRounds response).bind
              fun completed => .done (some completed) := by
  obtain ⟨services, usable, rfl⟩ := Services.exists_of_validate accepted
  refine ⟨services, usable, rfl, ?_, ?_⟩
  · intro operation σ surroundings state
    exact keepsLimit usable operation surroundings state
  · intro width limit holds job response
    rw [← holds]
    exact Job.driveCounted_eq job services.registrar limit (BitVec.ofNat width 0) limit.toNat
      (by simp) response

/-- The peers of the standard settings, which are trusted with a single round of signing. -/
def Services.once : Services :=
  { Services.standard with settings := { Settings.standard with maxRounds := 1 } }

theorem Services.ofSettings_once : Services.ofSettings Services.once.settings = .ok .once := by
  decide +kernel

namespace Operation

def republishing : Operation := .updateResource "did:cheqd:testnet:a" ⟨"a", "b", "c", .null⟩

/-- A registrar that makes two reports, and a wallet that signs what it is asked to. -/
def twoReports (first last : Bytes) : Script where
  reachable := true
  deliveries := [.replied ⟨200, first⟩, .replied ⟨200, last⟩]
  createKey := []
  assignKid := []
  sign := []
  now := 0

def sent (report : JobResponse) : Bytes := Bytes.ofText report.toJson.render

/-- Where the first report asks for signatures, the last one is met behind the only round. -/
theorem meets_last {first last : Bytes} {jobId : String} {request : SigningRequest}
    (asks : JobResponse.record.decoder.ofBytes first = .ok ⟨some jobId, .action [request] none⟩) :
    republishing.Meets .once Script.surroundings (twoReports first last) 1
      (.replied ⟨200, last⟩) := by
  have named : Identifier.network "did:cheqd:testnet:a" = .ok "testnet" := by decide +kernel
  obtain ⟨url, place, -⟩ :=
    Registrar.exists_endpointUrl Services.ofSettings_once rfl "updateResource"
  refine ⟨rfl, [], _, _, .updateResource named place, rfl, ?_⟩
  have again : ∀ envelope, Protocol.Asks ⟨url, [200], 1, none, envelope, resubmission
      (resourceMembers "did:cheqd:testnet:a" "testnet")⟩ (.replied ⟨200, first⟩) jobId [request] :=
    fun _ => ⟨_, none, rfl, List.mem_singleton_self _, asks, List.cons_ne_nil _ _⟩
  exact .next ⟨rfl, rfl, rfl⟩ (again _) (.refl [(Script.signature request).kid]) (.first rfl)

theorem reports_of_read {operation : Operation} {body : Bytes} {report : JobResponse}
    (read : JobResponse.record.decoder.ofBytes body = .ok report) :
    operation.endpoint.Reports (.replied ⟨200, body⟩) report := by
  refine ⟨_, rfl, ?_, read⟩
  cases operation <;> exact List.mem_cons_self

/-- With a single round, a registrar that asks for signatures again exhausts the operation, which
names the job as it is named last. A registrar that reports a published resource instead is
believed, although no round is left. -/
theorem limited_once :
    Services.once.settings.validate = .ok () ∧
    ((republishing.program .once).run Script.surroundings
      (twoReports (sent ⟨some "i", .action [⟨"k", "a"⟩] none⟩)
        (sent ⟨some "j", .action [⟨"k", "b"⟩] none⟩))).result =
      .error (.protocolExhausted "j" 1) ∧
    ((republishing.program .once).run Script.surroundings
      (twoReports (sent ⟨some "i", .action [⟨"k", "a"⟩] none⟩)
        (sent ⟨some "j", .finished ⟨none, none, none, some "r", none⟩⟩))).result = .ok () := by
  have accepted : Services.once.settings.validate = .ok () := by decide +kernel
  obtain ⟨services, usable, -, keeps, -⟩ := limited accepted
  obtain rfl := Except.ok.inj (Services.ofSettings_once.symm.trans usable)
  have asks : JobResponse.record.decoder.ofBytes (sent ⟨some "i", .action [⟨"k", "a"⟩] none⟩) =
      .ok ⟨some "i", .action [⟨"k", "a"⟩] none⟩ := by
    decide +kernel
  have asksAgain :
      JobResponse.record.decoder.ofBytes (sent ⟨some "j", .action [⟨"k", "b"⟩] none⟩) =
        .ok ⟨some "j", .action [⟨"k", "b"⟩] none⟩ := by
    decide +kernel
  have finishes : JobResponse.record.decoder.ofBytes
      (sent ⟨some "j", .finished ⟨none, none, none, some "r", none⟩⟩) =
        .ok ⟨some "j", .finished ⟨none, none, none, some "r", none⟩⟩ := by
    decide +kernel
  refine ⟨accepted, ?_, ?_⟩
  · exact ((keeps republishing Script.surroundings _).exhausted "j" 1).mpr
      ⟨rfl, _, _, meets_last asks, none, reports_of_read asksAgain, List.cons_ne_nil _ _⟩
  · have concluded := (keeps republishing Script.surroundings _).finished 1 (Nat.le_refl 1) _ _ _
      (meets_last asks) (reports_of_read finishes)
    exact concluded.trans rfl

end Operation
end DidRegistry
