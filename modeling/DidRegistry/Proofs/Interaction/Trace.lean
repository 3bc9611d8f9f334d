import DidRegistry.Interaction.Program

/-!
What a program can do, whoever answers it. `Program.Traces` relates a program to the exchanges of
its possible runs and to how each ends; every run is one of them (`run_traces`).

* `bind_traces` takes the runs of a sequence apart, `run_bind` computes a single one.
* Each call of a program has its traces in one `iff` (`fetch_read_eq`, `createKey_eq`, `sign_eq`
  with `ask_traces`; `assignKids_traces`), so that nothing later looks into a call.
-/

namespace DidRegistry

namespace Program

variable {α β : Type}

/-- `program.Traces exchanges result`: against some surroundings, the program makes these exchanges
and ends with this result. -/
def Traces : Program α → List Exchange → Except Error α → Prop
  | .done value, exchanges, result => exchanges = [] ∧ result = .ok value
  | .fail error, exchanges, result => exchanges = [] ∧ result = .error error
  | .ask call next, exchanges, result =>
      ∃ answer rest, exchanges = ⟨call, answer⟩ :: rest ∧ (next answer).Traces rest result

/-- Every run is a trace. -/
theorem run_traces {σ : Type} (surroundings : Surroundings σ) (program : Program α) (state : σ) :
    program.Traces (program.run surroundings state).exchanges
      (program.run surroundings state).result := by
  induction program generalizing state with
  | done value => exact ⟨rfl, rfl⟩
  | fail error => exact ⟨rfl, rfl⟩
  | ask call next ih => exact ⟨_, _, rfl, ih _ _⟩

/-- Every exchange of a run is answered by its surroundings. -/
theorem run_answered {σ : Type} (surroundings : Surroundings σ) (program : Program α) (state : σ) :
    ∀ exchange ∈ (program.run surroundings state).exchanges,
      ∃ before, exchange.answer = (surroundings.answer exchange.call before).1 := by
  induction program generalizing state with
  | done value =>
      intro exchange member
      cases member
  | fail error =>
      intro exchange member
      cases member
  | ask call next ih =>
      intro exchange member
      rcases List.mem_cons.mp member with rfl | later
      · exact ⟨state, rfl⟩
      · exact ih _ _ exchange later

end Program

/-- The surroundings answer these calls as said, one after the other, and thereby go from one state
to the other. -/
def Surroundings.Gives {σ : Type} (surroundings : Surroundings σ) : σ → List Exchange → σ → Prop
  | state, [], final => final = state
  | state, ⟨call, answer⟩ :: rest, final =>
      (surroundings.answer call state).1 = answer ∧
        surroundings.Gives (surroundings.answer call state).2 rest final

namespace Surroundings

variable {σ : Type} {surroundings : Surroundings σ}

theorem gives_append {state final : σ} {before after : List Exchange} :
    surroundings.Gives state (before ++ after) final ↔
      ∃ middle, surroundings.Gives state before middle ∧ surroundings.Gives middle after final := by
  induction before generalizing state with
  | nil => simp [Gives]
  | cons exchange before ih => simp only [List.cons_append, Gives, ih, and_assoc, exists_and_left]

/-- Calls that begin alike have been answered alike. -/
theorem Gives.isPrefix {state final other : σ} {exchanges longer : List Exchange}
    (given : surroundings.Gives state exchanges final)
    (also : surroundings.Gives state longer other)
    (begins : exchanges.map Exchange.call <+: longer.map Exchange.call) : exchanges <+: longer := by
  induction exchanges generalizing state longer with
  | nil => exact List.nil_prefix
  | cons exchange rest ih =>
      cases longer with
      | nil => cases List.prefix_nil.mp begins
      | cons first others =>
          obtain ⟨call, answer⟩ := exchange
          obtain ⟨_, answered⟩ := first
          obtain ⟨same, alike⟩ := List.cons_prefix_cons.mp begins
          cases same
          obtain ⟨rfl, later⟩ := given
          obtain ⟨rfl, behind⟩ := also
          exact List.cons_prefix_cons.mpr ⟨rfl, ih later behind alike⟩

/-- The state after exchanges is settled by them. -/
theorem Gives.final_eq {state final other : σ} {exchanges : List Exchange}
    (given : surroundings.Gives state exchanges final)
    (also : surroundings.Gives state exchanges other) : final = other := by
  induction exchanges generalizing state with
  | nil => exact given.trans also.symm
  | cons exchange rest ih => exact ih given.2 also.2

end Surroundings

namespace Program

variable {α β : Type}

/-- The exchanges of a run are given by its surroundings. -/
theorem run_gives {σ : Type} (surroundings : Surroundings σ) (program : Program α) (state : σ) :
    surroundings.Gives state (program.run surroundings state).exchanges
      (program.run surroundings state).state := by
  induction program generalizing state with
  | done value => rfl
  | fail error => rfl
  | ask call next ih => exact ⟨rfl, ih _ _⟩

/-- A trace whose exchanges are given by surroundings is the run against them. -/
theorem Traces.run_eq {σ : Type} {surroundings : Surroundings σ} {program : Program α}
    {exchanges : List Exchange} {result : Except Error α} {state final : σ}
    (trace : program.Traces exchanges result)
    (given : surroundings.Gives state exchanges final) :
    program.run surroundings state = ⟨exchanges, result, final⟩ := by
  induction program generalizing exchanges state with
  | done value =>
      obtain ⟨rfl, rfl⟩ := trace
      cases given
      rfl
  | fail error =>
      obtain ⟨rfl, rfl⟩ := trace
      cases given
      rfl
  | ask call next ih =>
      obtain ⟨answer, rest, rfl, later⟩ := trace
      obtain ⟨rfl, behind⟩ := given
      exact congrArg (Run.after ⟨call, _⟩) (ih _ later behind)

/-! ### Sequences -/

@[simp] theorem bind_eq (program : Program α) (next : α → Program β) :
    (program >>= next) = program.bind next := rfl

@[simp] theorem pure_eq (value : α) : (pure value : Program α) = .done value := rfl

@[simp] theorem monadLift_eq (value : Except Error α) :
    (MonadLiftT.monadLift value : Program α) = ofExcept value := rfl

/-- A trace of a sequence stops at an error of the first program, or continues a trace of the first
with one of the second. -/
theorem bind_traces {program : Program α} {next : α → Program β} {exchanges : List Exchange}
    {result : Except Error β} :
    (program.bind next).Traces exchanges result ↔
      (∃ error, program.Traces exchanges (.error error) ∧ result = .error error) ∨
      ∃ before after value, exchanges = before ++ after ∧ program.Traces before (.ok value) ∧
        (next value).Traces after result := by
  induction program generalizing exchanges with
  | done value =>
      constructor
      · intro trace
        exact Or.inr ⟨[], exchanges, value, rfl, ⟨rfl, rfl⟩, trace⟩
      · rintro (⟨error, ⟨-, h⟩, -⟩ | ⟨_, after, _, rfl, ⟨rfl, h⟩, trace⟩)
        · cases h
        · cases h
          exact trace
  | fail error =>
      constructor
      · rintro ⟨rfl, rfl⟩
        exact Or.inl ⟨error, ⟨rfl, rfl⟩, rfl⟩
      · rintro (⟨_, ⟨rfl, h⟩, rfl⟩ | ⟨_, _, _, -, ⟨-, h⟩, -⟩)
        · cases h
          exact ⟨rfl, rfl⟩
        · cases h
  | ask call answered ih =>
      constructor
      · rintro ⟨answer, rest, rfl, trace⟩
        rcases (ih answer).mp trace with
          ⟨error, first, rfl⟩ | ⟨before, after, value, rfl, first, second⟩
        · exact Or.inl ⟨error, ⟨answer, rest, rfl, first⟩, rfl⟩
        · exact Or.inr ⟨⟨call, answer⟩ :: before, after, value, rfl, ⟨answer, before, rfl, first⟩,
            second⟩
      · rintro (⟨error, ⟨answer, rest, rfl, first⟩, rfl⟩ |
          ⟨_, after, value, rfl, ⟨answer, before, rfl, first⟩, second⟩)
        · exact ⟨answer, rest, rfl, (ih answer).mpr (Or.inl ⟨error, first, rfl⟩)⟩
        · exact ⟨answer, before ++ after, rfl,
            (ih answer).mpr (Or.inr ⟨before, after, value, rfl, first, second⟩)⟩

/-- A sequence ends well if both of its programs do. -/
theorem bind_traces_ok {program : Program α} {next : α → Program β} {exchanges : List Exchange}
    {value : β} :
    (program.bind next).Traces exchanges (.ok value) ↔
      ∃ before after first, exchanges = before ++ after ∧ program.Traces before (.ok first) ∧
        (next first).Traces after (.ok value) := by
  rw [bind_traces]
  constructor
  · rintro (⟨error, -, ⟨⟩⟩ | traces)
    exact traces
  · exact Or.inr

/-- The run of a sequence: an error of the first program ends it, and else the second program goes
on from the state in which the first has ended. -/
theorem run_bind {σ : Type} (surroundings : Surroundings σ) (program : Program α)
    (next : α → Program β) (state : σ) :
    (program.bind next).run surroundings state =
      match program.run surroundings state with
      | ⟨exchanges, .ok value, after⟩ =>
          ⟨exchanges ++ ((next value).run surroundings after).exchanges,
            ((next value).run surroundings after).result,
            ((next value).run surroundings after).state⟩
      | ⟨exchanges, .error error, after⟩ => ⟨exchanges, .error error, after⟩ := by
  induction program generalizing state with
  | done value => rfl
  | fail error => rfl
  | ask call answered ih =>
      simp only [Program.bind, run]
      rw [ih]
      generalize (answered (surroundings.answer call state).1).run surroundings
        (surroundings.answer call state).2 = first
      obtain ⟨exchanges, result, after⟩ := first
      cases result <;> rfl

theorem bind_assoc {γ : Type} (program : Program α) (next : α → Program β)
    (last : β → Program γ) :
    (program.bind next).bind last = program.bind fun value => (next value).bind last := by
  induction program with
  | done value => rfl
  | fail error => rfl
  | ask call answered ih => exact congrArg (Program.ask call) (funext ih)

/-- A value that may be an error makes no exchange. -/
theorem ofExcept_traces {value : Except Error α} {exchanges : List Exchange}
    {result : Except Error α} :
    (ofExcept value).Traces exchanges result ↔ exchanges = [] ∧ result = value := by
  cases value <;> exact Iff.rfl

/-- A value that is looked at afterwards is had with the same exchanges. -/
theorem bind_ofExcept_traces {program : Program α} {view : α → Except Error β}
    {exchanges : List Exchange} {result : Except Error β} :
    (program.bind fun value => ofExcept (view value)).Traces exchanges result ↔
      ∃ first, program.Traces exchanges first ∧ result = first.bind view := by
  constructor
  · intro trace
    rcases bind_traces.mp trace with
      ⟨error, first, rfl⟩ | ⟨before, after, value, rfl, first, viewed⟩
    · exact ⟨_, first, rfl⟩
    · obtain ⟨rfl, rfl⟩ := ofExcept_traces.mp viewed
      rw [List.append_nil]
      exact ⟨_, first, rfl⟩
  · rintro ⟨first, trace, rfl⟩
    cases first with
    | error error => exact bind_traces.mpr (Or.inl ⟨error, trace, rfl⟩)
    | ok value =>
        exact bind_traces.mpr (Or.inr ⟨exchanges, [], value, (List.append_nil _).symm, trace,
          ofExcept_traces.mpr ⟨rfl, rfl⟩⟩)

/-- A sequence that begins with an error is that error. -/
theorem ofExcept_error_bind (error : Error) (next : α → Program β) :
    (ofExcept (.error error)).bind next = .fail error := rfl

/-- A sequence that begins with a value is what follows it. -/
theorem ofExcept_ok_bind (value : α) (next : α → Program β) :
    (ofExcept (.ok value)).bind next = next value := rfl

/-- A sequence that begins with a value that may be an error is over, or goes on with the value. -/
theorem ofExcept_bind_traces {value : Except Error α} {next : α → Program β}
    {exchanges : List Exchange} {result : Except Error β} :
    ((ofExcept value).bind next).Traces exchanges result ↔
      (∃ error, value = .error error ∧ exchanges = [] ∧ result = .error error) ∨
      ∃ present, value = .ok present ∧ (next present).Traces exchanges result := by
  cases value with
  | error error =>
      rw [ofExcept_error_bind]
      constructor
      · rintro ⟨rfl, rfl⟩
        exact Or.inl ⟨error, rfl, rfl, rfl⟩
      · rintro (⟨_, same, rfl, rfl⟩ | ⟨_, same, -⟩)
        · cases same
          exact ⟨rfl, rfl⟩
        · cases same
  | ok present =>
      rw [ofExcept_ok_bind]
      constructor
      · intro trace
        exact Or.inr ⟨present, rfl, trace⟩
      · rintro (⟨_, same, -⟩ | ⟨_, same, trace⟩)
        · cases same
        · cases same
          exact trace

/-- A sequence that begins with a value that may be an error ends well if there is a value, and what
follows does. -/
theorem ofExcept_bind_traces_ok {first : Except Error α} {next : α → Program β}
    {exchanges : List Exchange} {value : β} :
    ((ofExcept first).bind next).Traces exchanges (.ok value) ↔
      ∃ present, first = .ok present ∧ (next present).Traces exchanges (.ok value) := by
  rw [ofExcept_bind_traces]
  constructor
  · rintro (⟨error, -, -, ⟨⟩⟩ | traces)
    exact traces
  · exact Or.inr

/-- How a program goes on is settled by the answers so far: no run is the beginning of another. -/
theorem Traces.eq_of_begins {program : Program α} {exchanges others : List Exchange}
    {result other : Except Error α} (trace : program.Traces exchanges result)
    (longer : program.Traces others other) (starts : exchanges <+: others) :
    exchanges = others ∧ result = other := by
  induction program generalizing exchanges others with
  | done value =>
      obtain ⟨rfl, rfl⟩ := trace
      obtain ⟨rfl, rfl⟩ := longer
      exact ⟨rfl, rfl⟩
  | fail error =>
      obtain ⟨rfl, rfl⟩ := trace
      obtain ⟨rfl, rfl⟩ := longer
      exact ⟨rfl, rfl⟩
  | ask call next ih =>
      obtain ⟨answer, rest, rfl, later⟩ := trace
      obtain ⟨_, behind, rfl, followed⟩ := longer
      obtain ⟨same, begins⟩ := List.cons_prefix_cons.mp starts
      cases same
      obtain ⟨rfl, results⟩ := ih answer later followed begins
      exact ⟨rfl, results⟩

/-- A program that has ended on the first exchanges of a sequence is followed by the rest of it. -/
theorem bind_traces_of_begins {program : Program α} {next : α → Program β}
    {before exchanges : List Exchange} {value : α} {result : Except Error β}
    (trace : (program.bind next).Traces exchanges result)
    (ended : program.Traces before (.ok value)) (starts : before <+: exchanges) :
    ∃ after, exchanges = before ++ after ∧ (next value).Traces after result := by
  rcases bind_traces.mp trace with ⟨error, failed, -⟩ | ⟨first, after, other, rfl, found, followed⟩
  · cases (ended.eq_of_begins failed starts).2
  · have same : before = first ∧ value = other := by
      rcases List.prefix_or_prefix_of_prefix starts (List.prefix_append first after) with
        shorter | longer
      · obtain ⟨rfl, results⟩ := ended.eq_of_begins found shorter
        cases results
        exact ⟨rfl, rfl⟩
      · obtain ⟨rfl, results⟩ := found.eq_of_begins ended longer
        cases results
        exact ⟨rfl, rfl⟩
    obtain ⟨rfl, rfl⟩ := same
    exact ⟨after, rfl, followed⟩

end Program

/-! ### Calls

Each call is one exchange whose answer is then looked at; `Program.ask_traces` is their common
form. -/

/-- What a delivery comes to, given how a reply is read. -/
def Delivery.read {α : Type} (delivery : Delivery) (read : HttpReply → Except Error α) :
    Except Error α :=
  match delivery with
  | .replied reply => read reply
  | .dropped | .refused => .error .request

namespace Program

variable {α : Type}

/-- A call whose answer is a value or an error is one exchange. -/
theorem ask_traces {call : Call} {view : call.Answer → Except Error α}
    {exchanges : List Exchange} {result : Except Error α} :
    (ask call fun answer => ofExcept (view answer)).Traces exchanges result ↔
      ∃ answer : call.Answer, exchanges = [⟨call, answer⟩] ∧ result = view answer := by
  constructor
  · rintro ⟨answer, rest, rfl, trace⟩
    obtain ⟨rfl, rfl⟩ := ofExcept_traces.mp trace
    exact ⟨answer, rfl, rfl⟩
  · rintro ⟨answer, rfl, rfl⟩
    exact ⟨answer, [], rfl, ofExcept_traces.mpr ⟨rfl, rfl⟩⟩

/-- A run goes on from the answer that the surroundings give. -/
theorem run_of_answer {σ : Type} {surroundings : Surroundings σ} {state after : σ} {call : Call}
    {answer : call.Answer} (answered : surroundings.answer call state = (answer, after))
    (next : call.Answer → Program α) :
    (ask call next).run surroundings state =
      ((next answer).run surroundings after).after ⟨call, answer⟩ := by
  simp only [run, answered]

/-- The run of such a call is the answer that the surroundings give. -/
theorem run_ask {σ : Type} (surroundings : Surroundings σ) (state : σ) (call : Call)
    (view : call.Answer → Except Error α) :
    (ask call fun answer => ofExcept (view answer)).run surroundings state =
      ⟨[⟨call, (surroundings.answer call state).1⟩], view (surroundings.answer call state).1,
        (surroundings.answer call state).2⟩ := by
  simp only [run]
  cases view (surroundings.answer call state).1 <;> rfl

/-- A request for a URL of HTTP, whose reply is read. -/
theorem fetch_read_eq {request : HttpRequest} (web : request.url.isWeb = true)
    (read : HttpReply → Except Error α) :
    ((fetch request).bind fun reply => ofExcept (read reply)) =
      .ask (.fetch request) fun delivery => ofExcept (Delivery.read delivery read) := by
  simp only [fetch, web, if_true, Program.bind, ask.injEq, heq_eq_eq, true_and]
  funext delivery
  cases delivery <;> rfl

/-- A request for a URL that is not of HTTP is an error without exchange. -/
theorem fetch_of_not_web {request : HttpRequest} (other : request.url.isWeb = false) :
    fetch request = .fail .request := by
  simp [fetch, other]

/-- What the wallet's answer for a new key comes to. -/
def created : Except String Bytes → Except Error Bytes
  | .ok verkey => .ok verkey
  | .error reason => .error (.wallet reason)

theorem createKey_eq (seed : Option String) :
    createKey seed = .ask (.createKey seed) fun answer => ofExcept (created answer) := by
  simp only [createKey, ask.injEq, heq_eq_eq, true_and]
  funext answer
  cases answer <;> rfl

/-- Key IDs that are bound to a key, one after the other. -/
def bindings (verkey : Bytes) (kids : List String) : List Exchange :=
  kids.map fun kid => ⟨.assignKid verkey kid, .ok ()⟩

/-- Key IDs are bound in order, up to the first that the wallet refuses. -/
theorem assignKids_traces {verkey : Bytes} {kids : List String} {exchanges : List Exchange}
    {result : Except Error Unit} :
    (assignKids verkey kids).Traces exchanges result ↔
      (exchanges = bindings verkey kids ∧ result = .ok ()) ∨
      ∃ before kid after reason, kids = before ++ kid :: after ∧
        exchanges = bindings verkey before ++ [⟨.assignKid verkey kid, .error reason⟩] ∧
        result = .error (.wallet reason) := by
  induction kids generalizing exchanges with
  | nil =>
      constructor
      · rintro ⟨rfl, rfl⟩
        exact Or.inl ⟨rfl, rfl⟩
      · rintro (⟨rfl, rfl⟩ | ⟨before, kid, after, _, h, -⟩)
        · exact ⟨rfl, rfl⟩
        · cases before <;> cases h
  | cons kid rest ih =>
      constructor
      · rintro ⟨answer, others, rfl, trace⟩
        cases answer with
        | error reason =>
            obtain ⟨rfl, rfl⟩ := trace
            exact Or.inr ⟨[], kid, rest, reason, rfl, rfl, rfl⟩
        | ok done =>
            rcases ih.mp trace with ⟨rfl, rfl⟩ | ⟨before, other, after, reason, rfl, rfl, rfl⟩
            · exact Or.inl ⟨rfl, rfl⟩
            · exact Or.inr ⟨kid :: before, other, after, reason, rfl, rfl, rfl⟩
      · rintro (⟨rfl, rfl⟩ | ⟨before, other, after, reason, same, rfl, rfl⟩)
        · exact ⟨.ok (), bindings verkey rest, rfl, ih.mpr (Or.inl ⟨rfl, rfl⟩)⟩
        · cases before with
          | nil =>
              cases same
              exact ⟨.error reason, [], rfl, rfl, rfl⟩
          | cons first before =>
              cases same
              exact ⟨.ok (), _, rfl, ih.mpr (Or.inr ⟨before, other, after, reason, rfl, rfl, rfl⟩)⟩

/-- What the wallet's answer to a batch comes to: its signatures, if they answer the batch. -/
def signed (requests : List SigningRequest) :
    Except String (List SigningResponse) → Except Error (List SigningResponse)
  | .error reason => .error (.signing reason)
  | .ok responses =>
      match Signing.check requests responses with
      | .ok responses => .ok responses
      | .error mismatch => .error (.signing mismatch.message)

/-- The wallet's answer to a batch fails as signing does. -/
theorem signed_error {requests : List SigningRequest}
    {answer : Except String (List SigningResponse)} {error : Error}
    (failed : signed requests answer = .error error) :
    ∃ reason, error = .signing reason := by
  cases answer with
  | error reason =>
      cases failed
      exact ⟨_, rfl⟩
  | ok responses =>
      simp only [signed] at failed
      split at failed
      · cases failed
      · cases failed
        exact ⟨_, rfl⟩

theorem sign_eq (requests : List SigningRequest) :
    sign requests = .ask (.sign requests) fun answer => ofExcept (signed requests answer) := by
  simp only [sign, ask.injEq, heq_eq_eq, true_and]
  funext answer
  cases answer with
  | error reason => rfl
  | ok responses =>
      simp only [signed]
      cases Signing.check requests responses <;> rfl

theorem sign_traces {requests : List SigningRequest} {exchanges : List Exchange}
    {result : Except Error (List SigningResponse)} :
    (sign requests).Traces exchanges result ↔
      ∃ answer : Except String (List SigningResponse),
        exchanges = [⟨.sign requests, answer⟩] ∧ result = signed requests answer := by
  rw [sign_eq]
  exact ask_traces

end Program

/-- No peer can be reached, and the wallet signs every batch with these signatures. -/
def Surroundings.offline (responses : List SigningResponse) : Surroundings Unit where
  answer
    | .fetch _, _ => (.refused, ())
    | .createKey _, _ => (.ok [], ())
    | .assignKid _ _, _ => (.ok (), ())
    | .sign _, _ => (.ok responses, ())
    | .clock, _ => ((0 : Int64), ())

end DidRegistry
