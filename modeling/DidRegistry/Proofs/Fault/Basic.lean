import DidRegistry.AnonCreds.Registry
import DidRegistry.Did.Lifecycle
import DidRegistry.Proofs.Interaction.Submission
import DidRegistry.Proofs.Job.Protocol
import Mathlib.Data.List.Induction

/-!
Faults of peers and wallet, and where in a run errors arise. An answer is a fault if the wallet does
not do what it is asked for, or if a request is not answered as it has to be (`Exchange.Fails`). What
an error says about its origin is said along a run by the place that it has come to
(`Error.Arises`).

Main statement: a program that attributes its errors (`Program.Attributes`) fails only with errors
that arise where it has come to, and makes no call after a fault (`Attributes.of_traces`).
-/

namespace DidRegistry

/-! ### Faults -/

/-- A content that is read as an object of the type, whoever its issuer. -/
def AnonCreds.ResourceType.Holds (type : ResourceType) (content : Value) : Prop :=
  match type with
  | .schema => ∃ issuer, ∃ object : Schema, ResourceContent.read issuer content = .ok object
  | .credentialDefinition =>
      ∃ issuer, ∃ object : CredentialDefinition, ResourceContent.read issuer content = .ok object
  | .revocationRegistryDefinition => ∃ issuer, ∃ object : RevocationRegistryDefinition,
      ResourceContent.read issuer content = .ok object
  | .statusList =>
      ∃ issuer, ∃ object : RevocationStatusList, ResourceContent.read issuer content = .ok object

/-- What the reply to a request is read as. -/
inductive Reading where
  /-- The draft of a DID document. -/
  | draft
  /-- A report on a job. -/
  | report (endpoint : Endpoint)
  /-- What is known about a DID. -/
  | resolution
  /-- A resource that holds an object. -/
  | object (type : AnonCreds.ResourceType)

namespace Reading

/-- The statuses with which a reply is accepted. -/
def Accepts : Reading → Nat → Prop
  | .draft, status => status = 200
  | .report endpoint, status => status ∈ endpoint.statuses
  | .resolution, status | .object _, status => 200 ≤ status ∧ status < 300

/-- The bodies that can be decoded. -/
def Decodes : Reading → Bytes → Prop
  | .draft, body => ∃ value draft, Value.ofBytes? body = some value ∧
      Did.Draft.ofBody? value = some draft
  | .report _, body => ∃ response, JobResponse.record.decoder.ofBytes body = .ok response
  | .resolution, body => ∃ value resolution, Value.ofBytes? body = some value ∧
      DidResolution.record.decoder value.json = .ok resolution
  | .object type, body => ∃ value, Value.ofBytes? body = some value ∧
      type.Holds (ResolvedResource.ofBody value).resource

end Reading

/-- Answers that are faults, given what the reply to a request is read as. -/
inductive Exchange.Fails (reading : Reading) : Exchange → Prop where
  /-- The wallet creates no key. -/
  | uncreated {seed : Option String} {reason : String} : Fails reading
      ⟨.createKey seed, (.error reason : Except String Bytes)⟩
  /-- The wallet does not bind a key ID. -/
  | unbound {verkey : Bytes} {kid reason : String} : Fails reading
      ⟨.assignKid verkey kid, (.error reason : Except String Unit)⟩
  /-- The wallet does not sign. -/
  | unsigned {requests : List SigningRequest} {reason : String} : Fails reading
      ⟨.sign requests, (.error reason : Except String (List SigningResponse))⟩
  /-- The signatures are for other key IDs than those asked for. -/
  | unmatched {requests : List SigningRequest} {responses : List SigningResponse}
      (other : ¬ (responses.map (·.kid)).Perm (requests.map (·.kid))) : Fails reading
      ⟨.sign requests, (.ok responses : Except String (List SigningResponse))⟩
  /-- The peer hangs up. -/
  | dropped {request : HttpRequest} : Fails reading ⟨.fetch request, Delivery.dropped⟩
  /-- There is no peer. -/
  | refused {request : HttpRequest} : Fails reading ⟨.fetch request, Delivery.refused⟩
  /-- The reply has a status that is not accepted. -/
  | unaccepted {request : HttpRequest} {reply : HttpReply}
      (status : ¬ reading.Accepts reply.status) : Fails reading
      ⟨.fetch request, Delivery.replied reply⟩
  /-- The body of the reply cannot be decoded. -/
  | undecodable {request : HttpRequest} {reply : HttpReply}
      (body : ¬ reading.Decodes reply.body) : Fails reading
      ⟨.fetch request, Delivery.replied reply⟩
  /-- The registrar reports that it has given the job up. -/
  | abandoned {request : HttpRequest} {reply : HttpReply} {endpoint : Endpoint}
      {response : JobResponse} {reason : Option String} (report : reading = .report endpoint)
      (read : JobResponse.record.decoder.ofBytes reply.body = .ok response)
      (state : response.state = .error reason) : Fails reading
      ⟨.fetch request, Delivery.replied reply⟩

/-! ### The log -/

/-- What is logged of a call, as it is made: every request, whether a peer is there to take it or
not, and every call on the wallet. -/
def Call.event? : Call → Option Event
  | .fetch request => some (.request request)
  | .createKey seed => some (.createKey seed)
  | .assignKid verkey kid => some (.assignKid verkey kid)
  | .sign requests => some (.sign requests)
  | .clock => none

/-- Whether an event is a call on the wallet. -/
def Event.isWallet : Event → Bool
  | .request _ => false
  | .createKey _ | .assignKid _ _ | .sign _ => true

def logged (exchanges : List Exchange) : List Event := exchanges.filterMap (·.call.event?)

/-- Where every request finds its peer, the log is what an observer sees. -/
theorem filterMap_event?_eq_logged {exchanges : List Exchange}
    (reached : ∀ request, (⟨.fetch request, Delivery.refused⟩ : Exchange) ∉ exchanges) :
    exchanges.filterMap Exchange.event? = logged exchanges := by
  refine List.filterMap_congr ?_
  rintro ⟨call, answer⟩ member
  cases call with
  | fetch request =>
      have delivered : ∀ delivery : Delivery, delivery ≠ .refused →
          Exchange.event? ⟨.fetch request, delivery⟩ = some (.request request) := by
        intro delivery other
        cases delivery with
        | replied reply => rfl
        | dropped => rfl
        | refused => exact absurd rfl other
      refine delivered answer ?_
      rintro rfl
      exact reached request member
  | createKey seed => rfl
  | assignKid verkey kid => rfl
  | sign requests => rfl
  | clock => rfl

/-! ### Places of a run -/

/-- Where a run has come to: how many requests have been made, and whether the last event is a call
on the wallet. -/
structure Place where
  requests : Nat
  wallet : Bool
  deriving DecidableEq, Repr

namespace Place

def start : Place := ⟨0, false⟩

/-- The place after a request. -/
def asked (place : Place) : Place := ⟨place.requests + 1, false⟩

/-- The place after a call on the wallet. -/
def ordered (place : Place) : Place := ⟨place.requests, true⟩

/-- The place after a call. -/
def after (place : Place) : Call → Place
  | .fetch _ => place.asked
  | .createKey _ | .assignKid _ _ | .sign _ => place.ordered
  | .clock => place

/-- The place after exchanges. -/
def following (place : Place) (exchanges : List Exchange) : Place :=
  exchanges.foldl (fun place exchange => place.after exchange.call) place

/-- The place counts requests. -/
theorem requests_following (place : Place) (exchanges : List Exchange) :
    (place.following exchanges).requests =
      place.requests + exchanges.countP Exchange.isRequest := by
  induction exchanges generalizing place with
  | nil => rfl
  | cons exchange rest ih =>
      obtain ⟨call, answer⟩ := exchange
      rw [following, List.foldl_cons]
      refine (ih _).trans ?_
      rw [List.countP_cons]
      cases call with
      | fetch request =>
          simp only [after, asked, Exchange.isRequest, if_true]
          omega
      | _ => simp [after, ordered, Exchange.isRequest]

/-- The place knows the last event. -/
theorem following_start_wallet_iff (exchanges : List Exchange) :
    (start.following exchanges).wallet = true ↔
      ∃ event, (logged exchanges).getLast? = some event ∧ event.isWallet = true := by
  induction exchanges using List.reverseRecOn with
  | nil => simp [following, start, logged]
  | append_singleton rest exchange ih =>
      obtain ⟨call, answer⟩ := exchange
      rw [following, List.foldl_append, logged, List.filterMap_append]
      cases call with
      | clock => simpa [after, Call.event?, logged, following] using ih
      | _ => simp [after, asked, ordered, Call.event?, Event.isWallet]

/-- The place knows whether anything is logged. -/
theorem following_start_eq_iff (exchanges : List Exchange) :
    start.following exchanges = start ↔ logged exchanges = [] := by
  induction exchanges using List.reverseRecOn with
  | nil => simp [following, logged]
  | append_singleton rest exchange ih =>
      obtain ⟨call, answer⟩ := exchange
      rw [following, List.foldl_append, logged, List.filterMap_append]
      cases call with
      | clock => simpa [after, Call.event?, logged, following] using ih
      | _ => simp [after, asked, ordered, Call.event?, start]

end Place

/-! ### Where errors arise -/

/-- Where each error can arise. Errors of the wallet arise right after a call on it, and all others
after a request or before anything is logged. Two exceptions come from the registrar's base URL: one
that has no endpoints is noticed anywhere, and a request to a URL that is not of HTTP fails where it
would be made. -/
def Error.Arises (services : Services) (place : Place) : Error → Prop
  | .keyPolicy => place = .start
  | .signing _ | .wallet _ => place.wallet = true
  | .config reason => ∃ name, Registrar.endpointUrl services.registrar name = .error (.config reason)
  | .request => place.wallet = true → services.registrar.isWeb = false
  | _ => place.wallet = false

/-- The program, begun at a place, fails only with errors that arise where it has come to, makes no
call after a fault, and ends well only at places that satisfy `ends`. What the replies to requests
are read as is given by how many requests came before. -/
inductive Program.Attributes {α : Type} (services : Services) (expects : Nat → Reading) :
    Place → Program α → (Place → Prop) → Prop where
  | done {place : Place} {value : α} {ends : Place → Prop} (reached : ends place) :
      Attributes services expects place (.done value) ends
  | fail {place : Place} {error : Error} {ends : Place → Prop}
      (arises : error.Arises services place) :
      Attributes services expects place (.fail error) ends
  | ask {place : Place} {call : Call} {next : call.Answer → Program α} {ends : Place → Prop}
      (stops : ∀ answer, Exchange.Fails (expects place.requests) ⟨call, answer⟩ →
        ∃ error, next answer = .fail error)
      (rest : ∀ answer, Attributes services expects (place.after call) (next answer) ends) :
      Attributes services expects place (.ask call next) ends

namespace Program.Attributes

variable {α β : Type} {services : Services} {expects : Nat → Reading} {place : Place}
variable {ends middle : Place → Prop}

theorem bind {program : Program α} {next : α → Program β}
    (first : program.Attributes services expects place middle)
    (second : ∀ value after, middle after →
      (next value).Attributes services expects after ends) :
    (program.bind next).Attributes services expects place ends := by
  induction first with
  | done reached => exact second _ _ reached
  | fail arises => exact .fail arises
  | ask stops rest ih =>
      refine .ask ?_ fun answer => ih answer second
      intro answer fails
      obtain ⟨error, stopped⟩ := stops answer fails
      exact ⟨error, congrArg (Program.bind · next) stopped⟩

theorem ofExcept {value : Except Error α} (reached : ends place)
    (arises : ∀ error, value = .error error → error.Arises services place) :
    (Program.ofExcept value).Attributes services expects place ends := by
  cases value with
  | error error => exact .fail (arises error rfl)
  | ok value => exact .done reached

theorem ofExcept_bind {value : Except Error α} {next : α → Program β}
    (arises : ∀ error, value = .error error → error.Arises services place)
    (second : ∀ present, value = .ok present →
      (next present).Attributes services expects place ends) :
    ((Program.ofExcept value).bind next).Attributes services expects place ends := by
  cases value with
  | error error => exact .fail (arises error rfl)
  | ok present => exact second present rfl

/-! ### Calls -/

/-- A request, with all that is made of its reply. -/
theorem fetch_bind {request : HttpRequest} {next : HttpReply → Program α}
    (unsent : request.url.isWeb = false → Error.request.Arises services place)
    (stops : ∀ reply,
      Exchange.Fails (expects place.requests) ⟨.fetch request, Delivery.replied reply⟩ →
      ∃ error, next reply = .fail error)
    (rest : ∀ reply, (next reply).Attributes services expects place.asked ends) :
    ((Program.fetch request).bind next).Attributes services expects place ends := by
  by_cases web : request.url.isWeb = true
  · simp only [Program.fetch, web, if_true]
    have unanswered :
        (Program.fail .request : Program α).Attributes services expects place.asked ends := by
      refine .fail fun last => ?_
      cases last
    refine .ask ?_ ?_
    · intro delivery fails
      cases delivery with
      | replied reply => exact stops reply fails
      | dropped => exact ⟨.request, rfl⟩
      | refused => exact ⟨.request, rfl⟩
    · intro delivery
      cases delivery with
      | replied reply => exact rest reply
      | dropped => exact unanswered
      | refused => exact unanswered
  · rw [fetch_of_not_web (Bool.eq_false_iff.mpr web)]
    exact .fail (unsent (Bool.eq_false_iff.mpr web))

theorem createKey (seed : Option String) :
    (Program.createKey seed).Attributes services expects place (· = place.ordered) := by
  rw [createKey_eq]
  refine .ask ?_ fun answer => .ofExcept rfl ?_
  · intro answer fails
    cases fails
    exact ⟨_, rfl⟩
  · intro error failed
    cases answer with
    | error reason =>
        cases failed
        rfl
    | ok verkey => cases failed

theorem assignKids (verkey : Bytes) (kids : List String) :
    (Program.assignKids verkey kids).Attributes services expects place
      (·.requests = place.requests) := by
  induction kids generalizing place with
  | nil => exact .done rfl
  | cons kid rest ih =>
      refine .ask ?_ ?_
      · intro answer fails
        cases fails
        exact ⟨_, rfl⟩
      · intro answer
        cases answer with
        | error reason => exact .fail rfl
        | ok done => exact ih

theorem sign (requests : List SigningRequest) :
    (Program.sign requests).Attributes services expects place (· = place.ordered) := by
  rw [sign_eq]
  refine .ask ?_ fun answer => .ofExcept rfl ?_
  · intro answer fails
    have failed : ∃ error, signed requests answer = .error error := by
      cases fails with
      | unsigned => exact ⟨_, rfl⟩
      | unmatched other =>
          cases passed : signed requests (.ok _) with
          | error error => exact ⟨error, rfl⟩
          | ok accepted =>
              obtain ⟨same, permuted⟩ := Job.signed_eq_ok_iff.mp passed
              cases same
              exact absurd permuted other
    obtain ⟨error, failed⟩ := failed
    rw [failed]
    exact ⟨error, rfl⟩
  · intro error failed
    obtain ⟨reason, rfl⟩ := signed_error failed
    rfl

/-! ### Runs -/

/-- Along every trace, the error arises where the run has come to, and nothing follows a fault. -/
theorem of_traces {program : Program α} {exchanges : List Exchange} {result : Except Error α}
    (attributes : program.Attributes services expects place ends)
    (trace : program.Traces exchanges result) :
    (∀ error, result = .error error → error.Arises services (place.following exchanges)) ∧
      ∀ before exchange after, exchanges = before ++ exchange :: after →
        exchange.Fails (expects (place.following before).requests) →
        after = [] ∧ ∃ error, result = .error error := by
  induction attributes generalizing exchanges with
  | done reached =>
      obtain ⟨rfl, rfl⟩ := trace
      exact ⟨nofun, by simp⟩
  | fail arises =>
      obtain ⟨rfl, rfl⟩ := trace
      refine ⟨?_, by simp⟩
      rintro _ ⟨⟩
      exact arises
  | ask stops rest ih =>
      obtain ⟨answer, others, rfl, later⟩ := trace
      obtain ⟨arises, halts⟩ := ih answer later
      refine ⟨arises, ?_⟩
      intro before exchange after split fails
      cases before with
      | nil =>
          cases split
          obtain ⟨error, stopped⟩ := stops answer fails
          rw [stopped] at later
          exact ⟨later.1, error, later.2⟩
      | cons first before =>
          cases split
          exact halts before exchange after rfl fails

end Program.Attributes
end DidRegistry
