import DidRegistry.Json.Writer
import DidRegistry.Proofs.Did.Lifecycle
import DidRegistry.Proofs.Job.Exhaustion

/-!
The guard on changes of a DID. Before a DID is updated or deactivated, the resolver is asked about
it, with one request. The change is submitted exactly if the answer allows it (`Resolver.Allows`);
every other answer ends the change with an error of its own (`Resolver.Denies`), with nothing
submitted and no call on the wallet.

Main statement: `Did.Change.guarded`, for every DID and whatever the answer.
-/

namespace DidRegistry

namespace Resolver

/-! ### Answers -/

/-- An answer that lets a DID be changed: a document that is not reported as deactivated. -/
def Allows (reply : HttpReply) : Prop :=
  (200 ≤ reply.status ∧ reply.status < 300) ∧ ∃ body resolution,
    Value.ofBytes? reply.body = some body ∧
    DidResolution.record.decoder body.json = .ok resolution ∧
    resolution.didDocument ≠ none ∧ resolution.didDocumentMetadata.deactivated ≠ some true

/-- An answer that does not, and the error that it leads to. -/
inductive Denies (did : String) (url : Url) (reply : HttpReply) : Error → Prop where
  /-- The resolver does not know the DID. -/
  | unknown (status : reply.status = 404 ∨ reply.status = 410) :
      Denies did url reply (.didNotFound did)
  /-- The resolver fails. -/
  | failed (known : ¬ (reply.status = 404 ∨ reply.status = 410))
      (status : ¬ (200 ≤ reply.status ∧ reply.status < 300)) :
      Denies did url reply (.transport url.render reply.status)
  /-- The body is not JSON. -/
  | unreadable (status : 200 ≤ reply.status ∧ reply.status < 300)
      (read : Value.ofBytes? reply.body = none) : Denies did url reply .request
  /-- The body does not have the form of a resolution. -/
  | misshapen {body : Value} {problem : DecodeError}
      (status : 200 ≤ reply.status ∧ reply.status < 300)
      (read : Value.ofBytes? reply.body = some body)
      (decoded : DidResolution.record.decoder body.json = .error problem) :
      Denies did url reply (.serialization problem.message)
  /-- The resolution has no document. -/
  | undocumented {body : Value} {resolution : DidResolution}
      (status : 200 ≤ reply.status ∧ reply.status < 300)
      (read : Value.ofBytes? reply.body = some body)
      (decoded : DidResolution.record.decoder body.json = .ok resolution)
      (absent : resolution.didDocument = none) : Denies did url reply (.didNotFound did)
  /-- The DID is reported as deactivated. -/
  | deactivated {body : Value} {resolution : DidResolution}
      (status : 200 ≤ reply.status ∧ reply.status < 300)
      (read : Value.ofBytes? reply.body = some body)
      (decoded : DidResolution.record.decoder body.json = .ok resolution)
      (retired : resolution.didDocumentMetadata.deactivated = some true) :
      Denies did url reply (.didNotFound did)

/-- What an answer about a DID comes to. -/
def judgement (did : String) (url : Url) (reply : HttpReply) : Except Error Unit :=
  (body? url reply).bind fun body => body.elim (.error (.didNotFound did)) fun body =>
    (resolution body).bind fun resolution =>
      if resolution.isActive then .ok () else .error (.didNotFound did)

variable {did : String} {url : Url} {reply : HttpReply}

/-- The body of an answer that has one. -/
theorem judgement_of_body {body : Value} (status : 200 ≤ reply.status ∧ reply.status < 300)
    (read : Value.ofBytes? reply.body = some body) :
    judgement did url reply = (resolution body).bind fun resolution =>
      if resolution.isActive then .ok () else .error (.didNotFound did) := by
  have known : ¬ (reply.status = 404 ∨ reply.status = 410) := by omega
  unfold judgement body?
  rw [if_neg known, if_pos status, read]
  rfl

theorem isActive_iff {resolution : DidResolution} :
    resolution.isActive = true ↔ resolution.didDocument ≠ none ∧
      resolution.didDocumentMetadata.deactivated ≠ some true := by
  simp [DidResolution.isActive, Option.isSome_iff_ne_none]

/-- A decoded resolution is judged by whether it is active. -/
theorem judgement_of_resolution {body : Value} {decoded : DidResolution}
    (status : 200 ≤ reply.status ∧ reply.status < 300)
    (read : Value.ofBytes? reply.body = some body)
    (resolved : DidResolution.record.decoder body.json = .ok decoded) :
    judgement did url reply =
      if decoded.isActive then .ok () else .error (.didNotFound did) := by
  rw [judgement_of_body status read, resolution, resolved]
  rfl

/-- An answer that allows a change is judged so. -/
theorem Allows.judgement_eq (allows : Allows reply) : judgement did url reply = .ok () := by
  obtain ⟨status, body, decoded, read, resolved, document, active⟩ := allows
  rw [judgement_of_resolution status read resolved,
    if_pos (isActive_iff.mpr ⟨document, active⟩)]

/-- An answer that denies a change is judged by the error that it leads to. -/
theorem Denies.judgement_eq {error : Error} (denies : Denies did url reply error) :
    judgement did url reply = .error error := by
  cases denies with
  | unknown status =>
      unfold judgement body?
      rw [if_pos status]
      rfl
  | failed known status =>
      unfold judgement body?
      rw [if_neg known, if_neg status]
      rfl
  | unreadable status read =>
      have known : ¬ (reply.status = 404 ∨ reply.status = 410) := by omega
      unfold judgement body?
      rw [if_neg known, if_pos status, read]
      rfl
  | misshapen status read decoded =>
      rw [judgement_of_body status read, resolution, decoded]
      rfl
  | undocumented status read decoded absent =>
      rw [judgement_of_resolution status read decoded, if_neg]
      exact fun active => (isActive_iff.mp active).1 absent
  | deactivated status read decoded retired =>
      rw [judgement_of_resolution status read decoded, if_neg]
      exact fun active => (isActive_iff.mp active).2 retired

/-- Every answer allows a change or denies it. -/
theorem allows_or_denies (did : String) (url : Url) (reply : HttpReply) :
    Allows reply ∨ ∃ error, Denies did url reply error := by
  by_cases unknown : reply.status = 404 ∨ reply.status = 410
  · exact Or.inr ⟨_, .unknown unknown⟩
  by_cases status : 200 ≤ reply.status ∧ reply.status < 300
  · cases read : Value.ofBytes? reply.body with
    | none => exact Or.inr ⟨_, .unreadable status read⟩
    | some body =>
        cases decoded : DidResolution.record.decoder body.json with
        | error problem => exact Or.inr ⟨_, .misshapen status read decoded⟩
        | ok resolution =>
            by_cases absent : resolution.didDocument = none
            · exact Or.inr ⟨_, .undocumented status read decoded absent⟩
            by_cases retired : resolution.didDocumentMetadata.deactivated = some true
            · exact Or.inr ⟨_, .deactivated status read decoded retired⟩
            · exact Or.inl ⟨status, body, resolution, read, decoded, absent, retired⟩
  · exact Or.inr ⟨_, .failed unknown status⟩

/-- The judgement lets a DID be changed exactly if the answer does. -/
theorem judgement_eq_ok_iff : judgement did url reply = .ok () ↔ Allows reply := by
  constructor
  · intro passed
    rcases allows_or_denies did url reply with allows | ⟨error, denies⟩
    · exact allows
    · rw [denies.judgement_eq] at passed
      cases passed
  · exact Allows.judgement_eq

end Resolver

namespace Did

variable {settings : Settings} {services : Services} {did : String}

/-- Whether a DID is active is asked for, and the answer is judged. -/
theorem ensureActive_eq_judged {url : Url}
    (found : Resolver.identifierUrl services.resolver did = .ok url) :
    ensureActive services did =
      (Program.fetch (Resolver.inquiry url Resolver.resolutionForm)).bind fun reply =>
        .ofExcept (Resolver.judgement did url reply) := by
  unfold ensureActive Resolver.resolve
  rw [Resolver.lookup_eq, found, Program.ofExcept_ok_bind]
  simp only [Program.bind_eq, Program.bind_assoc]
  congr 1
  funext reply
  unfold Resolver.judgement
  cases Resolver.body? url reply with
  | error error => rfl
  | ok body =>
      cases body with
      | none => rfl
      | some body =>
          change ((Program.ofExcept (Resolver.resolution body)).bind _).bind _ =
            Program.ofExcept ((Resolver.resolution body).bind _)
          cases Resolver.resolution body with
          | error error => rfl
          | ok resolution =>
              change (if resolution.isActive then Program.done () else .fail (.didNotFound did)) =
                Program.ofExcept (if resolution.isActive then .ok () else .error (.didNotFound did))
              split <;> rfl

/-- Over HTTP, that is one request. -/
theorem ensureActive_eq {url : Url}
    (found : Resolver.identifierUrl services.resolver did = .ok url) (web : url.isWeb = true) :
    ensureActive services did =
      .ask (.fetch (Resolver.inquiry url Resolver.resolutionForm)) fun delivery =>
        .ofExcept (delivery.read (Resolver.judgement did url)) := by
  rw [ensureActive_eq_judged found]
  exact Program.fetch_read_eq web _

theorem ensureActive_of_missing {error : Error}
    (missing : Resolver.identifierUrl services.resolver did = .error error) :
    ensureActive services did = .fail error := by
  unfold ensureActive Resolver.resolve
  rw [Resolver.lookup_eq, missing]
  rfl

theorem ensureActive_of_not_web {url : Url}
    (found : Resolver.identifierUrl services.resolver did = .ok url) (other : url.isWeb = false) :
    ensureActive services did = .fail .request := by
  have unsent : Program.fetch (Resolver.inquiry url Resolver.resolutionForm) = .fail .request :=
    Program.fetch_of_not_web other
  rw [ensureActive_eq_judged found, unsent]
  rfl

section Admission

-- What is asked and how it is judged is said by the equations above.
attribute [local irreducible] ensureActive

/-- The resolver has been asked about a DID, and its answer lets the DID be changed. -/
def Admits (services : Services) (did : String) (exchanges : List Exchange) : Prop :=
  ∃ url reply, Resolver.identifierUrl services.resolver did = .ok url ∧ url.isWeb = true ∧
    Resolver.Allows reply ∧
    exchanges = [⟨.fetch (Resolver.inquiry url Resolver.resolutionForm), .replied reply⟩]

/-- The ways in which a DID may not be changed: what has been exchanged with the resolver, and the
error. -/
inductive Refuses (services : Services) (did : String) : List Exchange → Error → Prop where
  /-- There is no URL to ask the resolver at. -/
  | unidentified {error : Error}
      (missing : Resolver.identifierUrl services.resolver did = .error error) :
      Refuses services did [] error
  /-- The URL is not one of HTTP. -/
  | unasked {url : Url} (identified : Resolver.identifierUrl services.resolver did = .ok url)
      (other : url.isWeb = false) : Refuses services did [] .request
  /-- The resolver does not reply. -/
  | unanswered {url : Url} {delivery : Delivery}
      (identified : Resolver.identifierUrl services.resolver did = .ok url)
      (silent : ∀ reply, delivery ≠ .replied reply) :
      Refuses services did
        [⟨.fetch (Resolver.inquiry url Resolver.resolutionForm), delivery⟩] .request
  /-- The answer denies the change. -/
  | denied {url : Url} {reply : HttpReply} {error : Error}
      (identified : Resolver.identifierUrl services.resolver did = .ok url)
      (denies : Resolver.Denies did url reply error) :
      Refuses services did
        [⟨.fetch (Resolver.inquiry url Resolver.resolutionForm), .replied reply⟩] error

/-- No DID is admitted and refused. -/
theorem Refuses.not_admits {exchanges before : List Exchange} {error : Error}
    (refuses : Refuses services did exchanges error) (begins : before <+: exchanges) :
    ¬ Admits services did before := by
  rintro ⟨url, reply, identified, web, allows, rfl⟩
  cases refuses with
  | unidentified missing => cases List.prefix_nil.mp begins
  | unasked also other => cases List.prefix_nil.mp begins
  | unanswered also silent =>
      cases begins.eq_of_length rfl
      exact silent reply rfl
  | denied also denies =>
      cases begins.eq_of_length rfl
      cases also.symm.trans identified
      cases denies.judgement_eq.symm.trans allows.judgement_eq

/-- A DID is found to be active exactly by an answer that admits it. -/
theorem ensureActive_traces_ok {exchanges : List Exchange} :
    (ensureActive services did).Traces exchanges (.ok ()) ↔ Admits services did exchanges := by
  constructor
  · intro trace
    cases found : Resolver.identifierUrl services.resolver did with
    | error error =>
        rw [ensureActive_of_missing found] at trace
        cases trace.2
    | ok url =>
        by_cases web : url.isWeb = true
        · rw [ensureActive_eq found web] at trace
          obtain ⟨delivery, rfl, judged⟩ := Program.ask_traces.mp trace
          cases delivery with
          | replied reply =>
              exact ⟨url, reply, found, web, Resolver.judgement_eq_ok_iff.mp judged.symm, rfl⟩
          | dropped => cases judged
          | refused => cases judged
        · rw [ensureActive_of_not_web found (Bool.eq_false_iff.mpr web)] at trace
          cases trace.2
  · rintro ⟨url, reply, found, web, allows, rfl⟩
    rw [ensureActive_eq found web]
    exact Program.ask_traces.mpr ⟨.replied reply, rfl, allows.judgement_eq.symm⟩

/-- A DID that is not found to be active is refused. -/
theorem refuses_of_traces {exchanges : List Exchange} {error : Error}
    (trace : (ensureActive services did).Traces exchanges (.error error)) :
    Refuses services did exchanges error := by
  cases found : Resolver.identifierUrl services.resolver did with
  | error missing =>
      rw [ensureActive_of_missing found] at trace
      obtain ⟨rfl, ⟨⟩⟩ := trace
      exact .unidentified found
  | ok url =>
      by_cases web : url.isWeb = true
      · rw [ensureActive_eq found web] at trace
        obtain ⟨delivery, rfl, judged⟩ := Program.ask_traces.mp trace
        cases delivery with
        | replied reply =>
            rcases Resolver.allows_or_denies did url reply with allows | ⟨_, denies⟩
            · cases judged.trans allows.judgement_eq
            · cases judged.trans denies.judgement_eq
              exact .denied found denies
        | dropped =>
            cases judged
            exact .unanswered found fun _ => nofun
        | refused =>
            cases judged
            exact .unanswered found fun _ => nofun
      · rw [ensureActive_of_not_web found (Bool.eq_false_iff.mpr web)] at trace
        obtain ⟨rfl, ⟨⟩⟩ := trace
        exact .unasked found (Bool.eq_false_iff.mpr web)

end Admission

inductive Change where
  | update (document : Value)
  | deactivate

namespace Change

def program (services : Services) (did : String) : Change → Program DidResult
  | .update document => Did.update services did document
  | .deactivate => Did.deactivate services did

/-- What follows the inquiry about a DID, by the answer to it. An answer allows the change or
denies it with an error; where it is denied nothing is submitted, and nothing else asked for. -/
structure Guarded (did : String) (url : Url) (reply : HttpReply) (rest : List Exchange)
    (result : Except Error DidResult) : Prop where
  /-- There is no other inquiry. -/
  once : inquiries rest = []
  /-- Something is submitted exactly if the answer allows it. -/
  submits : Submits rest ↔ Resolver.Allows reply
  /-- An answer that does not allow it denies it. -/
  decided : Resolver.Allows reply ∨ ∃ error, Resolver.Denies did url reply error
  /-- An answer that denies it ends the change, with its error. -/
  stops : ∀ error, Resolver.Denies did url reply error → rest = [] ∧ result = .error error

/-- An answer that denies a change leaves nothing to be done. -/
theorem Guarded.of_denies {url : Url} {reply : HttpReply} {error : Error}
    (denies : Resolver.Denies did url reply error) :
    Guarded did url reply [] (.error error) := by
  constructor
  · rfl
  · refine iff_of_false (by simp [Submits]) ?_
    intro allows
    have same := denies.judgement_eq.symm.trans allows.judgement_eq
    cases same
  · exact Or.inr ⟨error, denies⟩
  · intro other also
    have same := denies.judgement_eq.symm.trans also.judgement_eq
    cases same
    exact ⟨rfl, rfl⟩

/-- An answer that allows a change is followed by a job. -/
theorem Guarded.of_dialogue {url place : Url} {reply : HttpReply} {job : Job}
    {maxRounds remaining : Nat} {envelope : Json} {rounds : List Round}
    {ending : Except Error CompletedJob} {result : Except Error DidResult}
    (allows : Resolver.Allows reply)
    (dialogue : job.Dialogue place maxRounds remaining envelope rounds ending) :
    Guarded did url reply (rounds.flatMap Round.exchanges) result := by
  constructor
  · exact inquiries_flatMap dialogue.isWhole
  · refine iff_of_true ?_ allows
    obtain ⟨round, later, rfl⟩ := List.exists_cons_of_ne_nil dialogue.ne_nil
    refine ⟨⟨.fetch round.request, round.delivery⟩, by simp [Round.exchanges], ?_⟩
    exact (dialogue.isWhole round (List.mem_cons_self ..)).submits
  · exact Or.inl allows
  · intro error denies
    have refused : Resolver.judgement did url reply = .error error := denies.judgement_eq
    have passed : Resolver.judgement did url reply = .ok () := allows.judgement_eq
    cases refused.symm.trans passed

theorem guarded_of_traces {endpoint : Endpoint} {envelope : Json} {url : Url} {reply : HttpReply}
    {rest : List Exchange} {result : Except Error DidResult}
    (usable : Services.ofSettings settings = .ok services)
    (web : services.registrar.isWeb = true)
    (trace : ((Program.ofExcept (Resolver.judgement did url reply)).bind fun _ =>
      ((Job.plain endpoint).perform services.registrar services.settings.maxRounds envelope).bind
        fun completed => .done ⟨did, none, completed.outcome.didDocument, completed.jobId⟩).Traces
          rest result) :
    Guarded did url reply rest result := by
  obtain ⟨place, found, placeWeb⟩ := Registrar.exists_endpointUrl usable web endpoint.path
  rcases Resolver.allows_or_denies did url reply with allows | ⟨error, denies⟩
  · rw [allows.judgement_eq, Program.ofExcept_ok_bind] at trace
    rcases Program.bind_traces.mp trace with
      ⟨error, driven, rfl⟩ | ⟨exchanges, _, completed, rfl, driven, rfl, rfl⟩
    · obtain ⟨rounds, rfl, dialogue⟩ := Job.perform_dialogue found placeWeb driven
      exact .of_dialogue allows dialogue
    · obtain ⟨rounds, rfl, dialogue⟩ := Job.perform_dialogue found placeWeb driven
      rw [List.append_nil]
      exact .of_dialogue allows dialogue
  · rw [denies.judgement_eq] at trace
    obtain ⟨rfl, rfl⟩ := trace
    exact .of_denies denies

attribute [local irreducible] ensureActive

/-- A change is an inquiry, the judgement of its answer, and a job. -/
theorem program_eq (services : Services) (did : String) (change : Change) :
    ∃ endpoint envelope, change.program services did =
      (ensureActive services did).bind fun _ =>
        ((Job.plain endpoint).perform services.registrar services.settings.maxRounds envelope).bind
          fun completed => .done ⟨did, none, completed.outcome.didDocument, completed.jobId⟩ := by
  cases change with
  | update document => exact ⟨.update, Envelope.update did document, rfl⟩
  | deactivate => exact ⟨.deactivate, Envelope.deactivate did, rfl⟩

/-- A change begins with one request about its DID. A reply to it decides the change, and without a
reply nothing follows. -/
theorem begins_with_inquiry {change : Change} {exchanges : List Exchange} {url : Url}
    {result : Except Error DidResult}
    (usable : Services.ofSettings settings = .ok services)
    (registrarWeb : services.registrar.isWeb = true)
    (found : Resolver.identifierUrl services.resolver did = .ok url) (web : url.isWeb = true)
    (trace : (change.program services did).Traces exchanges result) :
    ∃ delivery : Delivery, ∃ rest,
      exchanges = ⟨.fetch (Resolver.inquiry url Resolver.resolutionForm), delivery⟩ :: rest ∧
      (rest = [] ∨ ∃ reply, delivery = .replied reply) ∧
      ∀ reply, delivery = .replied reply → Guarded did url reply rest result := by
  obtain ⟨endpoint, envelope, program⟩ := change.program_eq services did
  rw [program, ensureActive_eq found web] at trace
  obtain ⟨delivery, rest, rfl, judged⟩ := trace
  refine ⟨delivery, rest, rfl, ?_, ?_⟩
  · cases delivery with
    | replied reply => exact Or.inr ⟨reply, rfl⟩
    | dropped => exact Or.inl judged.1
    | refused => exact Or.inl judged.1
  · rintro reply rfl
    exact guarded_of_traces usable registrarWeb judged

/-- A change whose DID makes no URL fails. -/
theorem traces_of_unidentified {change : Change} {exchanges : List Exchange}
    {result : Except Error DidResult} {error : Error}
    (missing : Resolver.identifierUrl services.resolver did = .error error)
    (trace : (change.program services did).Traces exchanges result) :
    exchanges = [] ∧ result = .error error := by
  obtain ⟨endpoint, envelope, program⟩ := change.program_eq services did
  rw [program, ensureActive_of_missing missing] at trace
  exact trace

/-- Every inquiry of a run is answered with a reply. -/
def Answered (exchanges : List Exchange) : Prop :=
  ∀ request, ∀ delivery : Delivery, (⟨.fetch request, delivery⟩ : Exchange) ∈ exchanges →
    request.body = none → ∃ reply, delivery = .replied reply

/-- Where the resolver answers, a change begins with one request about its DID, and the answer
decides whether anything is submitted: it has to be a status of success with JSON that decodes, with
a document in it and with no sign that the DID is deactivated. Everything else is an error that
tells what was wrong with the answer, and nothing follows. A resolver whose own URL is not read from
its text is not asked, and nothing is done at all. -/
theorem guarded {σ : Type} (usable : Services.ofSettings settings = .ok services)
    (registrarWeb : services.registrar.isWeb = true)
    (resolverWeb : services.resolver.isWeb = true) (did : String) (change : Change)
    (surroundings : Surroundings σ) (state : σ)
    (answered : Answered ((change.program services did).run surroundings state).exchanges) :
    (services.resolver.IsReadable →
      ∃ url reply rest, Resolver.identifierUrl services.resolver did = .ok url ∧
        ((change.program services did).run surroundings state).exchanges =
          ⟨.fetch (Resolver.inquiry url Resolver.resolutionForm), .replied reply⟩ :: rest ∧
        Guarded did url reply rest
          ((change.program services did).run surroundings state).result) ∧
    (¬ services.resolver.IsReadable →
      ((change.program services did).run surroundings state).exchanges = [] ∧
      ∃ reason, ((change.program services did).run surroundings state).result =
        .error (.invalidIdentifier reason)) := by
  have trace := Program.run_traces surroundings (change.program services did) state
  constructor
  · intro readable
    obtain ⟨url, found, web⟩ := Resolver.isReachable_of_isReadable usable resolverWeb readable did
    obtain ⟨delivery, rest, made, -, guards⟩ :=
      begins_with_inquiry usable registrarWeb found web trace
    have first : (⟨.fetch (Resolver.inquiry url Resolver.resolutionForm), delivery⟩ : Exchange) ∈
        ((change.program services did).run surroundings state).exchanges := by
      rw [made]
      exact List.mem_cons_self ..
    obtain ⟨reply, rfl⟩ := answered _ delivery first rfl
    exact ⟨url, reply, rest, found, made, guards reply rfl⟩
  · intro unreadable
    obtain ⟨reason, missing⟩ :=
      Resolver.unasked_of_not_isReadable usable resolverWeb unreadable did
    obtain ⟨silent, failed⟩ := traces_of_unidentified missing trace
    exact ⟨silent, reason, failed⟩

end Change
end Did

/-- A resolver that answers everything with one reply, and a registrar that hangs up. -/
def Surroundings.resolving (reply : HttpReply) : Surroundings Unit where
  answer
    | .fetch request, _ => (if request.body.isNone then .replied reply else .dropped, ())
    | .createKey _, _ => (.ok [], ())
    | .assignKid _ _, _ => (.ok (), ())
    | .sign _, _ => (.ok [], ())
    | .clock, _ => ((0 : Int64), ())

namespace Did.Change

theorem eq_reply_of_resolving {α : Type} {reply : HttpReply} {program : Program α}
    {request : HttpRequest} {delivery : Delivery}
    (member : (⟨.fetch request, delivery⟩ : Exchange) ∈
      (program.run (.resolving reply) ()).exchanges) (bare : request.body = none) :
    delivery = .replied reply := by
  obtain ⟨before, answered⟩ := Program.run_answered (.resolving reply) program () _ member
  have asked : request.body.isNone = true := by
    rw [bare]
    rfl
  exact answered.trans (if_pos asked)

def active : HttpReply :=
  ⟨200, Bytes.ofText (Json.obj [("didDocument", .obj [])]).render⟩

theorem allows_active : Resolver.Allows active := by
  have passed : Resolver.judgement "" Services.standard.resolver active = .ok () := by
    decide +kernel
  exact Resolver.judgement_eq_ok_iff.mp passed

/-- An active DID is asked for once, and its deactivation is submitted. -/
theorem guarded_active :
    Services.ofSettings .standard = .ok .standard ∧ Services.standard.registrar.isWeb = true ∧
      Services.standard.resolver.isWeb = true ∧
      Answered ((Change.deactivate.program .standard "did:cheqd:testnet:a").run
        (.resolving active) ()).exchanges ∧
      ∃ url rest,
        ((Change.deactivate.program .standard "did:cheqd:testnet:a").run
          (.resolving active) ()).exchanges =
            ⟨.fetch (Resolver.inquiry url Resolver.resolutionForm), .replied active⟩ :: rest ∧
        inquiries rest = [] ∧ Submits rest := by
  have answered : Answered ((Change.deactivate.program .standard "did:cheqd:testnet:a").run
      (.resolving active) ()).exchanges := by
    intro request delivery member bare
    exact ⟨active, eq_reply_of_resolving member bare⟩
  refine ⟨Services.ofSettings_standard, rfl, rfl, answered, ?_⟩
  obtain ⟨url, reply, rest, -, made, guards⟩ :=
    (guarded Services.ofSettings_standard rfl rfl "did:cheqd:testnet:a" .deactivate
      (.resolving active) () answered).1 Resolver.isReadable_standard
  have first : (⟨.fetch (Resolver.inquiry url Resolver.resolutionForm), .replied reply⟩ :
      Exchange) ∈ ((Change.deactivate.program .standard "did:cheqd:testnet:a").run
        (.resolving active) ()).exchanges := by
    rw [made]
    exact List.mem_cons_self ..
  cases eq_reply_of_resolving first rfl
  exact ⟨url, rest, made, guards.once, guards.submits.mpr allows_active⟩

end Did.Change
end DidRegistry
