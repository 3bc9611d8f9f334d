import DidRegistry.Proofs.Fault.Attribution
import DidRegistry.Proofs.Keyring.State
import DidRegistry.Proofs.Signing.Check
import DidRegistry.Proofs.Text.Base64

/-!
A wallet in memory does what operations rely on. A key that it has shown can be bound to the key IDs
of any batch, whatever they were bound to before, and then the batch is signed under that key. So a
job whose registrar asks for signatures, however often and under whichever key IDs, is never failed
by the wallet.

Main statement: `Keyring.fulfils_contract`.
-/

namespace DidRegistry

/-- The error tells of no failure of the caller's own keys. -/
theorem Error.IsForeign.isClientError_eq {error : Error} (foreign : error.IsForeign) :
    error.isClientError = false := by
  cases error with
  | keyPolicy | signing | wallet | config => exact foreign.elim
  | _ => rfl

theorem Delivery.read_foreign {α : Type} {read : HttpReply → Except Error α}
    (foreign : ∀ reply, Except.Foreign (read reply)) (delivery : Delivery) :
    Except.Foreign (delivery.read read) := by
  cases delivery with
  | replied reply => exact foreign reply
  | dropped => exact .of_error trivial
  | refused => exact .of_error trivial

namespace Keyring

variable {scheme : SignatureScheme} {ring : Keyring scheme} {verkey : Bytes}

/-! ### Batches -/

/-- The ring with key IDs bound to a key, one after the other. -/
def bindAll (ring : Keyring scheme) (verkey : Bytes) (kids : List String) : Keyring scheme :=
  kids.foldl (·.bind verkey ·) ring

/-- Binding changes neither the keys nor whether the signer works. -/
theorem bindAll_keeps (ring : Keyring scheme) (verkey : Bytes) (kids : List String) :
    (ring.bindAll verkey kids).failing = ring.failing ∧
      (ring.bindAll verkey kids).key? = ring.key? := by
  induction kids generalizing ring with
  | nil => exact ⟨rfl, rfl⟩
  | cons kid rest ih => exact ih (ring.bind verkey kid)

theorem verkey?_bindAll (ring : Keyring scheme) (verkey : Bytes) (kids : List String)
    (kid : String) :
    (ring.bindAll verkey kids).verkey? kid =
      if kid ∈ kids then some verkey else ring.verkey? kid := by
  induction kids generalizing ring with
  | nil => rfl
  | cons first rest ih =>
      have onward : ring.bindAll verkey (first :: rest) =
          (ring.bind verkey first).bindAll verkey rest := rfl
      rw [onward, ih, verkey?_bind]
      by_cases later : kid ∈ rest
      · rw [if_pos later, if_pos (List.mem_cons_of_mem _ later)]
      · simp only [List.mem_cons, later, or_false, if_false]

/-- All key IDs of a batch can be bound to a key of the ring. -/
theorem session_assignKids (held : ring.Holds verkey) (kids : List String) :
    ring.session (kids.map (.assignKid verkey ·)) =
      (kids.map fun _ => .bound, ring.bindAll verkey kids) := by
  induction kids generalizing ring with
  | nil => rfl
  | cons kid rest ih =>
      have later : (ring.bind verkey kid).Holds verkey := held
      rw [List.map_cons, session_cons, answer_assignKid held, ih later]
      rfl

def signatures (key : scheme.Key) (batch : List SigningRequest) : List SigningResponse :=
  batch.map fun request => ⟨request.kid, signature key request.serializedPayload⟩

/-- Bound to a key of the ring, a batch is signed with it. -/
theorem sign_bindAll {key : scheme.Key} (works : ring.failing = false)
    (found : ring.key? verkey = some key) (batch : List SigningRequest) :
    ((ring.bindAll verkey (batch.map (·.kid))).sign batch).1 = .ok (signatures key batch) := by
  obtain ⟨still, same⟩ := ring.bindAll_keeps verkey (batch.map (·.kid))
  have signed : batch.mapM (ring.bindAll verkey (batch.map (·.kid))).signOne =
      .ok (signatures key batch) := by
    refine mapM_eq_ok_iff.mpr (List.forall₂_map_right_iff.mpr (List.forall₂_same.mpr ?_))
    intro request member
    have bound := ring.verkey?_bindAll verkey (batch.map (·.kid)) request.kid
    rw [if_pos (List.mem_map_of_mem member)] at bound
    simp only [signOne, bound, same, found]
  rw [sign_of_works (still.trans works), signed]

/-- The response to a request is a signature of the key on what the request asks for. -/
structure SignedUnder (scheme : SignatureScheme) (verkey : Bytes) (request : SigningRequest)
    (response : SigningResponse) : Prop where
  kid : response.kid = request.kid
  made : ∃ key, scheme.verkey key = verkey ∧
    response.signature = signature key request.serializedPayload
  verifies : ∃ octets, Base64.decode? response.signature = some octets ∧
    scheme.verifies verkey (signedOctets request.serializedPayload) octets = true

theorem signedUnder_of_key {key : scheme.Key} (keyed : scheme.verkey key = verkey)
    (request : SigningRequest) :
    SignedUnder scheme verkey request
      ⟨request.kid, signature key request.serializedPayload⟩ where
  kid := rfl
  made := ⟨key, keyed, rfl⟩
  verifies := by
    refine ⟨_, Base64.decode?_encode _, ?_⟩
    rw [← keyed]
    exact scheme.verifies_sign key _

theorem signatures_signedUnder {key : scheme.Key} (keyed : scheme.verkey key = verkey)
    (batch : List SigningRequest) :
    List.Forall₂ (SignedUnder scheme verkey) batch (signatures key batch) := by
  induction batch with
  | nil => exact .nil
  | cons request rest ih => exact .cons (signedUnder_of_key keyed request) ih

/-- The signatures of a key on a batch answer it. -/
theorem check_signatures (key : scheme.Key) (batch : List SigningRequest) :
    (signatures key batch).map (·.kid) = batch.map (·.kid) ∧
      Signing.check batch (signatures key batch) = .ok (signatures key batch) := by
  have kids : (signatures key batch).map (·.kid) = batch.map (·.kid) := by
    rw [signatures, List.map_map]
    rfl
  exact ⟨kids, Signing.check_eq_ok_iff.mpr ⟨by rw [kids], rfl⟩⟩

/-- A sound ring that works binds and signs any batch under any key that it holds. -/
theorem answers_batch (sound : ring.Sound) (works : ring.failing = false)
    (held : ring.Holds verkey) (batch : List SigningRequest) :
    ∃ responses,
      (ring.session (batch.map (fun request => .assignKid verkey request.kid) ++
        [.sign batch])).1 = batch.map (fun _ => .bound) ++ [.signatures responses] ∧
      responses.map (·.kid) = batch.map (·.kid) ∧
      Signing.check batch responses = .ok responses ∧
      List.Forall₂ (SignedUnder scheme verkey) batch responses := by
  obtain ⟨key, found⟩ := held
  obtain ⟨kids, accepted⟩ := check_signatures key batch
  refine ⟨signatures key batch, ?_, kids, accepted,
    signatures_signedUnder (sound.keyed verkey key found) batch⟩
  have assigned := session_assignKids ⟨key, found⟩ (batch.map (·.kid))
  rw [List.map_map, List.map_map] at assigned
  change (ring.session (batch.map fun request => .assignKid verkey request.kid)) =
    (batch.map fun _ => .bound, _) at assigned
  have signed : ((ring.bindAll verkey (batch.map (·.kid))).answer (.sign batch)).1 =
      .signatures (signatures key batch) := by
    change Reply.ofExcept .signatures ((ring.bindAll verkey (batch.map (·.kid))).sign batch).1 = _
    rw [sign_bindAll works found]
    rfl
  rw [session_append, assigned, session_cons, ← signed]
  rfl

/-! ### Runs -/

section Runs

variable {σ α : Type}

/-- Surroundings whose wallet is a ring, beside peers and a clock of their own. -/
def beside (peers : Surroundings σ) : Surroundings (Keyring scheme × σ) where
  answer
    | .createKey seed, (ring, state) =>
        ((ring.createKey seed).1, ((ring.createKey seed).2, state))
    | .assignKid verkey kid, (ring, state) =>
        ((ring.assignKid verkey kid).1, ((ring.assignKid verkey kid).2, state))
    | .sign requests, (ring, state) => ((ring.sign requests).1, ((ring.sign requests).2, state))
    | .fetch request, (ring, state) =>
        ((peers.answer (.fetch request) state).1, (ring, (peers.answer (.fetch request) state).2))
    | .clock, (ring, state) =>
        ((peers.answer .clock state).1, (ring, (peers.answer .clock state).2))

/-- The ring works and holds the key. -/
structure Ready (ring : Keyring scheme) (verkey : Bytes) : Prop where
  works : ring.failing = false
  held : ring.Holds verkey

/-- The caller's own keys have not failed, and the ring is ready for more: it works and still has
the key, so whatever follows finds it as this has. The peers may have failed in any way. -/
structure Served (verkey : Bytes) (result : Except Error α) (after : Keyring scheme × σ) :
    Prop where
  notClient : ∀ error, result = .error error → error.isClientError = false
  ready : after.1.Ready verkey

variable {peers : Surroundings σ} {state : Keyring scheme × σ}

theorem Served.of_ok (value : α) (ready : state.1.Ready verkey) :
    Served verkey (.ok value) state := by
  refine ⟨?_, ready⟩
  rintro error ⟨⟩

theorem Served.of_foreign {value : Except Error α} (foreign : Except.Foreign value)
    (ready : state.1.Ready verkey) : Served verkey value state :=
  ⟨fun error failed => (foreign error failed).isClientError_eq, ready⟩

/-- A sequence of which both parts leave the ring ready. -/
theorem Served.sequence {β : Type} {program : Program α} {next : α → Program β}
    (first : Program.Ensures (beside peers) program state (Served verkey))
    (second : ∀ value (after : Keyring scheme × σ), after.1.Ready verkey →
      Program.Ensures (beside peers) (next value) after (Served verkey)) :
    Program.Ensures (beside peers) (program.bind next) state (Served verkey) := by
  refine first.bind ?_ ?_
  · intro error after served
    refine ⟨?_, served.ready⟩
    rintro _ ⟨⟩
    exact served.notClient error rfl
  · intro value after served
    exact second value after served.ready

/-- Whatever a request to the registrar comes to, the wallet has no part in it. -/
theorem request_served {base : Url} {name : String} {request : Url → HttpRequest}
    {read : Url → HttpReply → Except Error α}
    (foreign : ∀ url reply, Except.Foreign (read url reply)) (ready : state.1.Ready verkey) :
    Program.Ensures (beside peers)
      ((Program.ofExcept (Registrar.endpointUrl base name)).bind fun url =>
        (Program.fetch (request url)).bind fun reply => .ofExcept (read url reply))
      state (Served verkey) := by
  cases found : Registrar.endpointUrl base name with
  | error error =>
      obtain ⟨reason, rfl⟩ := Registrar.config_of_endpointUrl found
      refine .fail ⟨?_, ready⟩
      rintro _ ⟨⟩
      rfl
  | ok url =>
      rw [Program.ofExcept_ok_bind]
      refine .fetch (.of_foreign (.of_error trivial) ready) ?_
      exact .of_foreign (Delivery.read_foreign (foreign url) _) ready

/-- The key IDs of a batch are bound. -/
theorem assignKids_ensures (held : state.1.Holds verkey) (kids : List String) :
    Program.Ensures (beside peers) (Program.assignKids verkey kids) state fun result after =>
      result = .ok () ∧ after = (state.1.bindAll verkey kids, state.2) := by
  induction kids generalizing state with
  | nil => exact .done ⟨rfl, rfl⟩
  | cons kid rest ih =>
      have bound : (beside peers).answer (.assignKid verkey kid) state =
          (.ok (), (state.1.bind verkey kid, state.2)) := by
        simp only [beside, assignKid_of_holds held]
      have later : (state.1.bind verkey kid, state.2).1.Holds verkey := held
      refine .ask ?_
      rw [bound]
      exact ih later

/-- A batch whose key IDs have been bound is signed. -/
theorem sign_served (ready : state.1.Ready verkey) (requests : List SigningRequest) :
    Program.Ensures (beside peers) (Program.sign requests)
      (state.1.bindAll verkey (requests.map (·.kid)), state.2) (Served verkey) := by
  obtain ⟨key, found⟩ := ready.held
  have signed := sign_bindAll ready.works found requests
  obtain ⟨works, same⟩ := state.1.bindAll_keeps verkey (requests.map (·.kid))
  generalize state.1.bindAll verkey (requests.map (·.kid)) = bound at signed works same
  have moves := bound.answer_moves (.sign requests)
  have after : (bound.sign requests).2.Ready verkey :=
    ⟨moves.failing_eq.trans (works.trans ready.works), moves.holds ⟨key, same ▸ found⟩⟩
  rw [Program.sign_eq]
  refine .ask (.ofExcept ?_)
  change Served verkey (Program.signed requests (bound.sign requests).1)
    ((bound.sign requests).2, state.2)
  have accepted : Program.signed requests (.ok (signatures key requests)) =
      .ok (signatures key requests) :=
    Job.signed_eq_ok_iff.mpr ⟨rfl, by rw [(check_signatures key requests).1]⟩
  rw [signed, accepted]
  exact .of_ok _ after

/-- A submission leaves the wallet alone. -/
theorem submit_served {base : Url} {endpoint : Endpoint} {envelope : Json}
    (ready : state.1.Ready verkey) :
    Program.Ensures (beside peers) (Registrar.submit base endpoint envelope) state
      (Served verkey) :=
  request_served (fun url => Registrar.report_foreign url endpoint) ready

/-- The batch of a report is signed under the key, and the registrar is told. -/
theorem answer_served {job : Job} (binds : job.bindKey = some verkey) {base : Url} {jobId : String}
    {requests : List SigningRequest} (ready : state.1.Ready verkey) :
    Program.Ensures (beside peers) (job.answer base jobId requests) state (Served verkey) := by
  rw [Job.answer_eq, Job.bindKeys, binds]
  refine (assignKids_ensures ready.held (requests.map (·.kid))).bind ?_ ?_
  · rintro error after ⟨⟨⟩, -⟩
  · rintro _ _ ⟨-, rfl⟩
    refine Served.sequence (sign_served ready requests) ?_
    exact fun responses after still => submit_served still

/-- Reports are answered, however many rounds are left. -/
theorem drive_served {job : Job} (binds : job.bindKey = some verkey) {base : Url}
    {maxRounds : Nat} (remaining : Nat) (response : JobResponse) (ready : state.1.Ready verkey) :
    Program.Ensures (beside peers) (job.drive base maxRounds remaining response) state
      (Served verkey) := by
  induction remaining generalizing state response with
  | zero =>
      rw [Job.drive]
      cases waits : job.pending response with
      | error ending => exact .ofExcept (.of_foreign (Job.pending_foreign waits) ready)
      | ok batch => exact .fail (.of_foreign (.of_error trivial) ready)
  | succ remaining ih =>
      rw [Job.drive]
      cases waits : job.pending response with
      | error ending => exact .ofExcept (.of_foreign (Job.pending_foreign waits) ready)
      | ok batch =>
          refine Served.sequence (answer_served binds ready) ?_
          exact fun response after => ih response

/-- Once there is a key, a DID is created without a failure of the wallet. -/
theorem enrol_served {services : Services} {network : String} (ready : state.1.Ready verkey) :
    Program.Ensures (beside peers) (Did.enrol services network verkey) state (Served verkey) := by
  unfold Did.enrol
  rw [Registrar.draft_eq_bind]
  refine Served.sequence (request_served Did.readDraft_foreign ready) ?_
  intro body drafted still
  cases Did.Draft.ofBody? body with
  | none => exact .fail (.of_foreign (.of_error trivial) still)
  | some draft =>
      refine Served.sequence (Served.sequence (submit_served still) fun response after => ?_) ?_
      · exact drive_served rfl _ response
      · exact fun completed after done => .done (.of_ok _ done)

/-- A creation without seed gets its key, and all signatures that it is asked for. -/
theorem create_served {services : Services} {options : CreateOptions}
    (unseeded : options.seed = none) (works : state.1.failing = false) :
    Program.Ensures (beside peers) (Did.create services options) state fun result _ =>
      ∀ error, result = .error error → error.isClientError = false := by
  rw [Did.create_eq_enrol, unseeded, if_neg (by simp)]
  have moves := state.1.answer_moves (.createKey none)
  have ready : (state.1.createKey none).2.Ready (scheme.verkey (scheme.drawn state.1.drawn)) :=
    ⟨moves.failing_eq.trans works, moves.holds_of_created⟩
  refine .ask ?_
  exact (enrol_served ready).imp fun result after served => served.notClient

end Runs

/-! ### The contract -/

/-- A ring that works does what operations ask of a wallet, whatever it has been asked for before.
Let it have shown a key, and take any batch: all its key IDs can be bound to the key, one after the
other, and then the batch is signed, in order, by responses that pass the check on signatures and
verify under the key. So no creation without seed fails because of the wallet, whatever peers
answer: neither a key nor a binding nor a signature is ever refused to it. -/
theorem fulfils_contract (scheme : SignatureScheme) (history : List Request) :
    let shown := ((empty false : Keyring scheme).session history).1
    let ring := ((empty false : Keyring scheme).session history).2
    (∀ verkey, .created verkey ∈ shown → ∀ batch : List SigningRequest, ∃ responses,
      (ring.session (batch.map (fun request => .assignKid verkey request.kid) ++
        [.sign batch])).1 = batch.map (fun _ => .bound) ++ [.signatures responses] ∧
      responses.map (·.kid) = batch.map (·.kid) ∧
      Signing.check batch responses = .ok responses ∧
      List.Forall₂ (SignedUnder scheme verkey) batch responses) ∧
    ∀ {σ : Type} (peers : Surroundings σ) (state : σ) (services : Services)
      (options : CreateOptions), options.seed = none → ∀ reason,
      ((Did.create services options).run (beside peers) (ring, state)).result ≠
          .error (.wallet reason) ∧
        ((Did.create services options).run (beside peers) (ring, state)).result ≠
          .error (.signing reason) := by
  intro shown ring
  have works : ring.failing = false := session_failing _ history
  refine ⟨?_, ?_⟩
  · intro verkey created batch
    have sound : ring.Sound := session_sound history (empty_sound false)
    exact answers_batch sound works (holds_of_created created) batch
  · intro σ peers state services options unseeded reason
    have served : Program.Ensures (beside peers) (Did.create services options) (ring, state)
        fun result _ => ∀ error, result = .error error → error.isClientError = false :=
      create_served unseeded works
    constructor
    · intro failed
      cases served.holds _ failed
    · intro failed
      cases served.holds _ failed

/-- A key that has been drawn is bound twice to one key ID, and once to another that had another
key; a registrar is served that asks for a signature. -/
theorem fulfils_contract_drawn :
    let history : List Request :=
      [.createKey none, .createKey none, .assignKid (SignatureScheme.drawnKey 1) "l"]
    let ring := ((empty false : Keyring).session history).2
    (∃ responses, (ring.session [.assignKid (SignatureScheme.drawnKey 0) "k",
        .assignKid (SignatureScheme.drawnKey 0) "l", .assignKid (SignatureScheme.drawnKey 0) "k",
        .sign [⟨"k", "a"⟩, ⟨"l", "b"⟩, ⟨"k", "c"⟩]]).1 =
          [.bound, .bound, .bound, .signatures responses] ∧
      responses.map (·.kid) = ["k", "l", "k"]) ∧
    ∀ reason, ((Did.create .standard ⟨none, none⟩).run (beside Script.surroundings)
      (ring, Did.enrolling)).result ≠ .error (.wallet reason) := by
  intro history ring
  obtain ⟨answers, creates⟩ := fulfils_contract .transparent history
  obtain ⟨responses, replies, kids, -⟩ := answers (SignatureScheme.drawnKey 0) (by decide +kernel)
    [⟨"k", "a"⟩, ⟨"l", "b"⟩, ⟨"k", "c"⟩]
  refine ⟨⟨responses, replies, kids⟩, ?_⟩
  intro reason
  exact (creates Script.surroundings Did.enrolling .standard ⟨none, none⟩ rfl reason).1

end Keyring
end DidRegistry
