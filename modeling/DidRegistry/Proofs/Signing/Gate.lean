import DidRegistry.Proofs.Job.Conformance
import DidRegistry.Proofs.Signing.Check

/-!
The gate between the wallet and the registrar. Signatures pass exactly if their key IDs are those of
the batch, each as often as it was asked for; what does not pass ends the operation
(`Program.HaltsAtRejection`), so that the registrar never sees it.

Main statement: `Program.sign_gate`, about any wallet, any registrar and any operation.
-/

namespace DidRegistry

namespace Program

variable {α β : Type}

/-- Once the wallet has answered a batch with signatures for another, nothing is exchanged any more,
and the error is one of signing. -/
def HaltsAtRejection (program : Program α) : Prop :=
  ∀ exchanges result, program.Traces exchanges result →
    ∀ before requests responses after,
      exchanges = before ++ ⟨.sign requests, .ok responses⟩ :: after →
      ¬ (responses.map (·.kid)).Perm (requests.map (·.kid)) →
      after = [] ∧ ∃ reason, result = .error (.signing reason)

/-- A program that exchanges nothing halts. -/
theorem HaltsAtRejection.of_silent {program : Program α}
    (silent : ∀ exchanges result, program.Traces exchanges result → exchanges = []) :
    program.HaltsAtRejection := by
  intro exchanges result trace before requests responses after split
  rw [silent exchanges result trace] at split
  simp at split

theorem HaltsAtRejection.done (value : α) : (Program.done value).HaltsAtRejection :=
  .of_silent fun _ _ trace => trace.1

theorem HaltsAtRejection.fail (error : Error) :
    (Program.fail error : Program α).HaltsAtRejection :=
  .of_silent fun _ _ trace => trace.1

theorem HaltsAtRejection.ofExcept (value : Except Error α) :
    (Program.ofExcept value).HaltsAtRejection :=
  .of_silent fun _ _ trace => (ofExcept_traces.mp trace).1

/-- A call that asks for no signatures leaves it to what follows. -/
theorem HaltsAtRejection.ask {call : Call} {next : call.Answer → Program α}
    (other : ∀ requests, call ≠ .sign requests)
    (rest : ∀ answer, (next answer).HaltsAtRejection) :
    (Program.ask call next).HaltsAtRejection := by
  rintro _ result ⟨answer, exchanges, rfl, trace⟩ before requests responses after split unmatched
  cases before with
  | nil =>
      have first := congrArg (fun list => list.head?.map Exchange.call) split
      simp only [List.nil_append, List.head?_cons, Option.map_some, Option.some.injEq] at first
      exact absurd first (other requests)
  | cons first before =>
      simp only [List.cons_append, List.cons.injEq] at split
      exact rest answer _ _ trace before requests responses after split.2 unmatched

/-- A sequence halts if both of its programs do: what follows a rejected batch in the first is an
error of the first, and an error ends both. -/
theorem HaltsAtRejection.bind {program : Program α} {next : α → Program β}
    (first : program.HaltsAtRejection) (second : ∀ value, (next value).HaltsAtRejection) :
    (program.bind next).HaltsAtRejection := by
  intro exchanges result trace before requests responses after split unmatched
  rcases bind_traces.mp trace with
    ⟨error, failed, rfl⟩ | ⟨early, late, value, rfl, succeeded, continued⟩
  · obtain ⟨nothing, reason, same⟩ :=
      first _ _ failed before requests responses after split unmatched
    cases same
    exact ⟨nothing, reason, rfl⟩
  · rcases List.append_eq_append_iff.mp split with
      ⟨middle, rfl, rest⟩ | ⟨middle, rfl, rest⟩
    · exact second value _ _ continued middle requests responses after rest unmatched
    · cases middle with
      | nil =>
          exact second value _ _ continued [] requests responses after (by simpa using rest.symm)
            unmatched
      | cons exchange middle =>
          simp only [List.cons_append, List.cons.injEq] at rest
          obtain ⟨rfl, rfl⟩ := rest
          obtain ⟨-, reason, same⟩ :=
            first _ _ succeeded before requests responses middle rfl unmatched
          cases same

/-! ### Calls -/

theorem HaltsAtRejection.fetch (request : HttpRequest) :
    (Program.fetch request).HaltsAtRejection := by
  unfold Program.fetch
  split
  · refine .ask (by simp) ?_
    intro delivery
    cases delivery with
    | replied reply => exact .done reply
    | dropped => exact .fail _
    | refused => exact .fail _
  · exact .fail _

theorem HaltsAtRejection.createKey (seed : Option String) :
    (Program.createKey seed).HaltsAtRejection := by
  rw [createKey_eq]
  exact .ask (by simp) fun answer => .ofExcept _

theorem HaltsAtRejection.assignKids (verkey : Bytes) (kids : List String) :
    (Program.assignKids verkey kids).HaltsAtRejection := by
  induction kids with
  | nil => exact .done ()
  | cons kid rest ih =>
      refine .bind (.ask (by simp) ?_) fun _ => ih
      intro answer
      cases answer with
      | ok done => exact .done ()
      | error reason => exact .fail _

/-- The gate itself. -/
theorem HaltsAtRejection.sign (requests : List SigningRequest) :
    (Program.sign requests).HaltsAtRejection := by
  intro exchanges result trace before batch responses after split unmatched
  obtain ⟨answer, rfl, rfl⟩ := sign_traces.mp trace
  cases before with
  | cons first before => simp at split
  | nil =>
      simp only [List.nil_append, List.cons.injEq] at split
      obtain ⟨same, rfl⟩ := split
      cases same
      obtain ⟨mismatch, rejected⟩ := Signing.exists_mismatch_of_not_perm unmatched
      exact ⟨rfl, mismatch.message, by simp [signed, rejected]⟩

end Program

/-! ### Operations -/

section Operations

open Program

theorem Registrar.submit_haltsAtRejection (base : Url) (endpoint : Endpoint) (envelope : Json) :
    (submit base endpoint envelope).HaltsAtRejection := by
  unfold submit
  exact .bind (.ofExcept _) fun url => .bind (.fetch _) fun reply => .ofExcept _

theorem Registrar.draft_haltsAtRejection (base : Url) (network publicKeyHex method : String) :
    (draft base network publicKeyHex method).HaltsAtRejection := by
  unfold draft
  refine .bind (.ofExcept _) fun url => .bind (.fetch _) ?_
  intro reply
  split
  · exact .fail _
  · split
    · exact .done _
    · exact .fail _

theorem Job.answer_haltsAtRejection (job : Job) (base : Url) (jobId : String)
    (requests : List SigningRequest) :
    (job.answer base jobId requests).HaltsAtRejection := by
  have bound : (job.bindKeys requests).HaltsAtRejection := by
    unfold bindKeys
    split
    · exact .assignKids _ _
    · exact .done ()
  rw [answer_eq]
  exact .bind bound fun _ => .bind (.sign requests) fun responses =>
    Registrar.submit_haltsAtRejection _ _ _

/-- The recursion is on the rounds of signing that are left. -/
theorem Job.drive_haltsAtRejection (job : Job) (base : Url) (maxRounds remaining : Nat)
    (response : JobResponse) :
    (job.drive base maxRounds remaining response).HaltsAtRejection := by
  induction remaining generalizing response with
  | zero =>
      rw [drive]
      split
      · exact .ofExcept _
      · exact .fail _
  | succ remaining ih =>
      rw [drive]
      split
      · exact .ofExcept _
      · exact .bind (job.answer_haltsAtRejection _ _ _) ih

theorem Job.perform_haltsAtRejection (job : Job) (base : Url) (maxRounds : Nat)
    (envelope : Json) : (job.perform base maxRounds envelope).HaltsAtRejection := by
  unfold perform
  exact .bind (Registrar.submit_haltsAtRejection _ _ _) fun response =>
    job.drive_haltsAtRejection _ _ _ response

theorem Did.create_haltsAtRejection (services : Services) (options : CreateOptions) :
    (Did.create services options).HaltsAtRejection := by
  unfold Did.create
  split
  · exact .fail _
  · refine .bind (.createKey _) fun verkey =>
      .bind (Registrar.draft_haltsAtRejection _ _ _ _) ?_
    intro body
    split
    · exact .fail _
    · exact .bind (Job.perform_haltsAtRejection _ _ _ _) fun completed => .done _

theorem Did.ensureActive_haltsAtRejection (services : Services) (did : String) :
    (ensureActive services did).HaltsAtRejection := by
  unfold ensureActive Resolver.resolve Resolver.lookup
  refine .bind (.bind (.bind (.ofExcept _) fun url => .bind (.fetch _) fun reply =>
    .ofExcept _) ?_) ?_
  · intro body
    split
    · exact .done _
    · exact .bind (.ofExcept _) fun resolution => .done _
  · intro resolution
    split
    · exact .done _
    · exact .fail _

theorem Did.change_haltsAtRejection (services : Services) (endpoint : Endpoint) (did : String)
    (envelope : Json) : (change services endpoint did envelope).HaltsAtRejection := by
  unfold change
  exact .bind (ensureActive_haltsAtRejection services did) fun _ =>
    .bind (Job.perform_haltsAtRejection _ _ _ _) fun completed => .done _

theorem Resource.publish_haltsAtRejection (services : Services) (mode : Mode) (did : String)
    (payload : ResourcePayload) : (publish services mode did payload).HaltsAtRejection := by
  unfold publish
  exact .bind (.ofExcept _) fun network =>
    .bind (Job.perform_haltsAtRejection _ _ _ _) fun completed => .ofExcept _

theorem Operation.haltsAtRejection (services : Services) (operation : Operation) :
    (operation.program services).HaltsAtRejection := by
  cases operation with
  | create options => exact .bind (Did.create_haltsAtRejection _ _) fun _ => .done ()
  | update did document => exact .bind (Did.change_haltsAtRejection _ _ _ _) fun _ => .done ()
  | deactivate did => exact .bind (Did.change_haltsAtRejection _ _ _ _) fun _ => .done ()
  | createResource did payload =>
      exact .bind (Resource.publish_haltsAtRejection _ _ _ _) fun _ => .done ()
  | updateResource did payload =>
      exact .bind (Resource.publish_haltsAtRejection _ _ _ _) fun _ => .done ()

end Operations

/-! ### The gate -/

/-- A batch of signatures passes unchanged exactly if its key IDs are a permutation of the requested
ones. Any other is reported by its number of signatures, or by the first key ID that comes more
often than it was asked for; and no operation exchanges anything after it. -/
theorem Program.sign_gate {σ : Type} (surroundings : Surroundings σ) (state : σ)
    (requests : List SigningRequest) (responses : List SigningResponse)
    (returned : (surroundings.answer (.sign requests) state).1 =
      (.ok responses : Except String (List SigningResponse))) :
    let result := ((sign requests).run surroundings state).result
    let requested := requests.map (·.kid)
    let kids := responses.map (·.kid)
    (result = .ok responses ↔ kids.Perm requested) ∧
    (∀ accepted, result = .ok accepted → accepted = responses) ∧
    (responses.length ≠ requests.length → result = .error (.signing
      s!"expected {requests.length} signatures, received {responses.length}")) ∧
    (responses.length = requests.length → ¬ kids.Perm requested →
      ∃ position kid, Signing.FirstOverdrawn requested kids position kid ∧
        result = .error (.signing
          (if kid ∈ requested then s!"duplicate signature for {kid}"
            else s!"unexpected signature for {kid}"))) ∧
    (¬ kids.Perm requested →
      ∀ (services : Services) (operation : Operation) (τ : Type) (peers : Surroundings τ)
        (start : τ) (before after : List Exchange),
        ((operation.program services).run peers start).exchanges =
          before ++ ⟨.sign requests, .ok responses⟩ :: after →
        after = [] ∧
          ∃ reason, ((operation.program services).run peers start).result =
            .error (.signing reason)) := by
  intro result requested kids
  have result_eq : result = signed requests (.ok responses) := by
    change ((sign requests).run surroundings state).result = _
    rw [sign_eq]
    have ran := run_ask surroundings state (.sign requests) (signed requests)
    exact (congrArg Run.result ran).trans (congrArg (signed requests) returned)
  refine ⟨?_, ?_, ?_, ?_, ?_⟩
  · rw [result_eq, Job.signed_eq_ok_iff]
    exact ⟨fun passed => passed.2, fun permuted => ⟨rfl, permuted⟩⟩
  · intro accepted passed
    rw [result_eq, Job.signed_eq_ok_iff] at passed
    exact Except.ok.inj passed.1.symm
  · intro otherLength
    rw [result_eq, signed, Signing.check_of_length_ne otherLength]
    rfl
  · intro sameLength unmatched
    obtain ⟨mismatch, rejected⟩ := Signing.exists_mismatch_of_not_perm unmatched
    obtain ⟨position, kid, first, rfl⟩ := (Signing.check_eq_error_iff sameLength).mp rejected
    refine ⟨position, kid, first, ?_⟩
    rw [result_eq, signed, rejected]
    change Except.error (Error.signing (Signing.surplus requested kid).message) = _
    rw [Signing.surplus]
    by_cases asked : kid ∈ requested
    · rw [if_pos asked, if_pos asked]
      rfl
    · rw [if_neg asked, if_neg asked]
      rfl
  · intro unmatched services operation τ peers start before after split
    exact operation.haltsAtRejection services _ _ (run_traces peers _ start) before requests
      responses after split unmatched

/-- One key ID is requested twice and another once; the other is signed twice. -/
theorem Program.sign_gate_repeated :
    (Surroundings.offline [⟨"b", ""⟩, ⟨"a", ""⟩, ⟨"b", ""⟩]).answer
        (.sign [⟨"a", ""⟩, ⟨"b", ""⟩, ⟨"a", ""⟩]) () =
      ((.ok [⟨"b", ""⟩, ⟨"a", ""⟩, ⟨"b", ""⟩] : Except String (List SigningResponse)), ()) ∧
    ¬ (["b", "a", "b"] : List String).Perm ["a", "b", "a"] ∧
    ∃ position kid, Signing.FirstOverdrawn ["a", "b", "a"] ["b", "a", "b"] position kid ∧
      ((sign [⟨"a", ""⟩, ⟨"b", ""⟩, ⟨"a", ""⟩]).run
        (.offline [⟨"b", ""⟩, ⟨"a", ""⟩, ⟨"b", ""⟩]) ()).result =
        .error (.signing (if kid ∈ ["a", "b", "a"] then s!"duplicate signature for {kid}"
          else s!"unexpected signature for {kid}")) := by
  have unmatched : ¬ (["b", "a", "b"] : List String).Perm ["a", "b", "a"] := by decide
  have gate := sign_gate (.offline [⟨"b", ""⟩, ⟨"a", ""⟩, ⟨"b", ""⟩]) ()
    [⟨"a", ""⟩, ⟨"b", ""⟩, ⟨"a", ""⟩] [⟨"b", ""⟩, ⟨"a", ""⟩, ⟨"b", ""⟩] rfl
  exact ⟨rfl, unmatched, gate.2.2.2.1 rfl unmatched⟩

end DidRegistry
