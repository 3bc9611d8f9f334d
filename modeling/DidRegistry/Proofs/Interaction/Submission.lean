import DidRegistry.Proofs.Interaction.Trace

/-!
Submissions: the exchanges of a run in which a document is sent. All other requests are inquiries
(`inquiries`). What a program may ask of its surroundings, and how it may fail, is bounded along its
tree (`Program.Within`); quiet calls send no document and have the wallet neither bind nor sign
(`Call.isQuiet`).
-/

namespace DidRegistry

namespace Exchange

def document? : Exchange → Option Json
  | ⟨.fetch request, _⟩ => request.body
  | _ => none

/-- Whether an exchange sends a document. -/
def isSubmission (exchange : Exchange) : Bool := exchange.document?.isSome

def isRequest : Exchange → Bool
  | ⟨.fetch _, _⟩ => true
  | _ => false

/-- Whether an exchange asks for signatures. -/
def isSigning : Exchange → Bool
  | ⟨.sign _, _⟩ => true
  | _ => false

end Exchange

/-- Something is submitted in the course of these exchanges. -/
def Submits (exchanges : List Exchange) : Prop :=
  ∃ exchange ∈ exchanges, exchange.isSubmission = true

theorem Exchange.isSubmission_of_not_isRequest {exchange : Exchange}
    (other : exchange.isRequest = false) : exchange.isSubmission = false := by
  obtain ⟨call, answer⟩ := exchange
  cases call with
  | fetch request => cases other
  | _ => rfl

/-- A call that sends no document and has the wallet neither bind nor sign. -/
def Call.isQuiet : Call → Bool
  | .fetch request => request.body.isNone
  | .createKey _ | .clock => true
  | .assignKid _ _ | .sign _ => false

theorem Exchange.isSubmission_of_isQuiet {exchange : Exchange}
    (quiet : exchange.call.isQuiet = true) : exchange.isSubmission = false := by
  obtain ⟨call, answer⟩ := exchange
  cases call with
  | fetch request =>
      simp only [Call.isQuiet, Option.isNone_iff_eq_none] at quiet
      simp [isSubmission, document?, quiet]
  | _ => rfl

theorem Exchange.isSigning_of_isQuiet {exchange : Exchange}
    (quiet : exchange.call.isQuiet = true) : exchange.isSigning = false := by
  obtain ⟨call, answer⟩ := exchange
  cases call with
  | sign requests => cases quiet
  | _ => rfl

/-- The request of an exchange that sends no document. -/
def Exchange.inquiry? : Exchange → Option HttpRequest
  | ⟨.fetch request, _⟩ => if request.body.isNone then some request else none
  | _ => none

/-- The requests without a document of a run, in order. -/
def inquiries (exchanges : List Exchange) : List HttpRequest :=
  exchanges.filterMap Exchange.inquiry?

theorem inquiries_append (before after : List Exchange) :
    inquiries (before ++ after) = inquiries before ++ inquiries after :=
  List.filterMap_append ..

/-- Quiet exchanges ask for no signatures. -/
theorem Exchange.countP_isSigning_of_isQuiet {exchanges : List Exchange}
    (quiet : ∀ exchange ∈ exchanges, exchange.call.isQuiet = true) :
    exchanges.countP Exchange.isSigning = 0 := by
  rw [List.countP_eq_zero]
  intro exchange member
  rw [isSigning_of_isQuiet (quiet exchange member)]
  exact Bool.false_ne_true

/-- Quiet exchanges submit nothing. -/
theorem Exchange.countP_isSubmission_of_isQuiet {exchanges : List Exchange}
    (quiet : ∀ exchange ∈ exchanges, exchange.call.isQuiet = true) :
    exchanges.countP Exchange.isSubmission = 0 := by
  rw [List.countP_eq_zero]
  intro exchange member
  rw [isSubmission_of_isQuiet (quiet exchange member)]
  exact Bool.false_ne_true

namespace Program

variable {α β : Type} {calls : Call → Prop} {errors : Error → Prop}

/-- The program makes these calls only, and fails with these errors only. This is said of the tree
of the program, so it holds of all its traces (`Within.of_traces`). -/
inductive Within (calls : Call → Prop) (errors : Error → Prop) : Program α → Prop where
  | done (value : α) : Within calls errors (.done value)
  | fail {error : Error} (allowed : errors error) : Within calls errors (.fail error)
  | ask {call : Call} {next : call.Answer → Program α} (allowed : calls call)
      (rest : ∀ answer, Within calls errors (next answer)) : Within calls errors (.ask call next)

namespace Within

theorem bind {program : Program α} {next : α → Program β} (first : program.Within calls errors)
    (second : ∀ value, (next value).Within calls errors) :
    (program.bind next).Within calls errors := by
  induction first with
  | done value => exact second value
  | fail allowed => exact .fail allowed
  | ask allowed rest ih => exact .ask allowed ih

theorem ofExcept {value : Except Error α} (fails : ∀ error, value = .error error → errors error) :
    (Program.ofExcept value).Within calls errors := by
  cases value with
  | error error => exact .fail (fails error rfl)
  | ok value => exact .done value

theorem ofExcept_bind {value : Except Error α} {next : α → Program β}
    (fails : ∀ error, value = .error error → errors error)
    (continues : ∀ present, value = .ok present → (next present).Within calls errors) :
    ((Program.ofExcept value).bind next).Within calls errors := by
  cases value with
  | error error => exact .fail (fails error rfl)
  | ok present => exact continues present rfl

theorem imp {program : Program α} {otherErrors : Error → Prop}
    (within : program.Within calls errors) (implies : ∀ error, errors error → otherErrors error) :
    program.Within calls otherErrors := by
  induction within with
  | done value => exact .done value
  | fail allowed => exact .fail (implies _ allowed)
  | ask allowed rest ih => exact .ask allowed ih

theorem fetch {request : HttpRequest} (allowed : calls (.fetch request))
    (unanswered : errors .request) : (Program.fetch request).Within calls errors := by
  unfold Program.fetch
  split
  · refine .ask allowed ?_
    intro delivery
    cases delivery with
    | replied reply => exact .done reply
    | dropped => exact .fail unanswered
    | refused => exact .fail unanswered
  · exact .fail unanswered

theorem createKey {seed : Option String} (allowed : calls (.createKey seed))
    (failed : ∀ reason, errors (.wallet reason)) :
    (Program.createKey seed).Within calls errors := by
  rw [createKey_eq]
  refine .ask allowed ?_
  intro answer
  cases answer with
  | ok verkey => exact .done verkey
  | error reason => exact .fail (failed reason)

theorem assignKids {verkey : Bytes} (allowed : ∀ kid, calls (.assignKid verkey kid))
    (failed : ∀ reason, errors (.wallet reason)) (kids : List String) :
    (Program.assignKids verkey kids).Within calls errors := by
  induction kids with
  | nil => exact .done ()
  | cons kid rest ih =>
      refine .ask (allowed kid) ?_
      intro answer
      cases answer with
      | ok done => exact ih
      | error reason => exact .fail (failed reason)

theorem sign {requests : List SigningRequest} (allowed : calls (.sign requests))
    (failed : ∀ reason, errors (.signing reason)) :
    (Program.sign requests).Within calls errors := by
  rw [sign_eq]
  refine .ask allowed ?_
  intro answer
  refine .ofExcept ?_
  intro error unsigned
  obtain ⟨reason, rfl⟩ := signed_error unsigned
  exact failed reason

/-- The exchanges of a run, and its error if it ends in one. -/
theorem of_traces {program : Program α} {exchanges : List Exchange} {result : Except Error α}
    (within : program.Within calls errors) (trace : program.Traces exchanges result) :
    (∀ exchange ∈ exchanges, calls exchange.call) ∧
      ∀ error, result = .error error → errors error := by
  induction within generalizing exchanges with
  | done value =>
      obtain ⟨rfl, rfl⟩ := trace
      exact ⟨by simp, by rintro _ ⟨⟩⟩
  | fail failed =>
      obtain ⟨rfl, rfl⟩ := trace
      refine ⟨by simp, ?_⟩
      rintro _ ⟨⟩
      exact failed
  | ask allowed within ih =>
      obtain ⟨answer, rest, rfl, others⟩ := trace
      obtain ⟨later, fails⟩ := ih answer others
      refine ⟨?_, fails⟩
      intro exchange member
      rcases List.mem_cons.mp member with rfl | among
      · exact allowed
      · exact later exchange among

end Within
end Program
end DidRegistry
