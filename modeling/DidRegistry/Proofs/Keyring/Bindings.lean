import DidRegistry.Proofs.Keyring.State
import DidRegistry.Proofs.Text.Base64

/-!
What the key IDs of a wallet in memory are bound to. A key ID has the key of its last binding, and
no other step changes that (`Keyring.verkey?_session`). Bindings are only made to keys that are
held, and keys stay; so a batch is signed exactly if its key IDs are bound
(`Keyring.Sound.exists_sign_iff`), and all that a signer that works fails for is a key ID without
binding.

Main statement: `Keyring.signs_under_last_bound`.
-/

namespace DidRegistry.Keyring

variable {scheme : SignatureScheme} {ring : Keyring scheme} {kid : String} {verkey : Bytes}
  {batch : List SigningRequest} {request : SigningRequest} {responses : List SigningResponse}

/-! ### The last binding -/

/-- A key ID was bound to a key, and not again since. -/
def LastBound (steps : List (Request × Reply)) (kid : String) (verkey : Bytes) : Prop :=
  ∃ earlier later, steps = earlier ++ (.assignKid verkey kid, .bound) :: later ∧
    ∀ other, (.assignKid other kid, .bound) ∉ later

theorem not_lastBound_nil : ¬ LastBound [] kid verkey := by
  rintro ⟨earlier, later, whole, -⟩
  exact List.append_ne_nil_of_right_ne_nil _ (List.cons_ne_nil _ _) whole.symm

/-- The last binding is the last step, or else that of the steps before. -/
theorem lastBound_concat {steps : List (Request × Reply)} {step : Request × Reply} :
    LastBound (steps ++ [step]) kid verkey ↔
      step = (.assignKid verkey kid, .bound) ∨
        (∀ other, step ≠ (.assignKid other kid, .bound)) ∧ LastBound steps kid verkey := by
  constructor
  · rintro ⟨earlier, later, whole, since⟩
    rcases List.eq_nil_or_concat' later with rfl | ⟨between, last, rfl⟩
    · exact Or.inl (List.cons.inj (List.append_inj' whole rfl).2).1
    · rw [← List.cons_append, ← List.append_assoc] at whole
      obtain ⟨before, same⟩ := List.append_inj' whole rfl
      obtain rfl := (List.cons.inj same).1
      refine Or.inr ⟨?_, earlier, between, before, ?_⟩
      · rintro other rfl
        exact since other (List.mem_append_right _ (List.mem_singleton_self _))
      · exact fun other member => since other (List.mem_append_left _ member)
  · rintro (rfl | ⟨unbound, earlier, later, rfl, since⟩)
    · exact ⟨steps, [], rfl, fun _ => List.not_mem_nil⟩
    · refine ⟨earlier, later ++ [step], by simp, ?_⟩
      intro other member
      rcases List.mem_append.mp member with among | now
      · exact since other among
      · exact unbound other (List.mem_singleton.mp now).symm

theorem answer_of_bound (bound : (ring.answer (.assignKid verkey kid)).1 = .bound) :
    (ring.answer (.assignKid verkey kid)).2 = ring.bind verkey kid := by
  by_cases held : ring.Holds verkey
  · rw [answer_assignKid held]
  · rw [answer_assignKid_of_not_holds held] at bound
    cases bound

/-- A key ID keeps its binding in every step that does not bind it. -/
theorem verkey?_of_unbound {request : Request}
    (unbound : ∀ other, request = .assignKid other kid → (ring.answer request).1 ≠ .bound) :
    (ring.answer request).2.verkey? kid = ring.verkey? kid := by
  cases request with
  | createKey seed =>
      cases seed with
      | none => rfl
      | some seed =>
          simp only [answer, createKey]
          split <;> rfl
  | assignKid verkey assigned =>
      by_cases held : ring.Holds verkey
      · have other : kid ≠ assigned := by
          rintro rfl
          exact unbound verkey rfl (by rw [answer_assignKid held])
        rw [answer_assignKid held, verkey?_bind, if_neg other]
      · rw [answer_assignKid_of_not_holds held]
  | verkey other => rfl
  | sign batch =>
      simp only [answer, sign]
      split <;> rfl
  | signed => rfl

theorem verkey?_answer {request : Request} : (ring.answer request).2.verkey? kid = some verkey ↔
    (request, (ring.answer request).1) = (.assignKid verkey kid, .bound) ∨
      (∀ other, (request, (ring.answer request).1) ≠ (.assignKid other kid, .bound)) ∧
        ring.verkey? kid = some verkey := by
  by_cases binds : ∃ other, (request, (ring.answer request).1) = (.assignKid other kid, .bound)
  · obtain ⟨other, same⟩ := binds
    obtain ⟨rfl, bound⟩ := Prod.mk.inj same
    rw [answer_of_bound bound, verkey?_bind, if_pos rfl, bound]
    constructor
    · intro latest
      exact Or.inl (by rw [Option.some.inj latest])
    · rintro (latest | ⟨never, -⟩)
      · simpa using latest
      · exact absurd rfl (never other)
  · have never := not_exists.mp binds
    have kept : (ring.answer request).2.verkey? kid = ring.verkey? kid := by
      apply verkey?_of_unbound
      rintro other rfl bound
      exact never other (by rw [bound])
    rw [kept]
    constructor
    · exact fun bound => Or.inr ⟨never, bound⟩
    · rintro (now | ⟨-, bound⟩)
      · exact absurd now (never verkey)
      · exact bound

/-- After a session, every key ID has the key of its last binding. -/
theorem verkey?_session (failing : Bool) (history : List Request) :
    ((empty failing : Keyring scheme).session history).2.verkey? kid = some verkey ↔
      LastBound ((empty failing : Keyring scheme).transcript history) kid verkey := by
  induction history using List.reverseRecOn with
  | nil => exact iff_of_false nofun not_lastBound_nil
  | append_singleton history request ih =>
      rw [session_concat, transcript_concat, lastBound_concat, verkey?_answer, ih]

/-! ### Signatures -/

/-- What is to be signed of a payload: the octets that it writes in base64, or else its text. -/
def IsMessage (payload : String) (message : Bytes) : Prop :=
  payload = Base64.encode message ∨
    (∀ octets, payload ≠ Base64.encode octets) ∧ message = Bytes.ofText payload

theorem isMessage_signedOctets (payload : String) : IsMessage payload (signedOctets payload) := by
  cases decoded : Base64.decode? payload with
  | some octets =>
      rw [signedOctets, decoded]
      exact Or.inl (Base64.decode?_eq_some_iff.mp decoded)
  | none =>
      rw [signedOctets, decoded]
      refine Or.inr ⟨?_, rfl⟩
      rintro octets rfl
      rw [Base64.decode?_encode] at decoded
      cases decoded

/-- A response is for the key ID of its request, and signed with the key that this is bound to. -/
structure Answers (ring : Keyring scheme) (request : SigningRequest) (response : SigningResponse) :
    Prop where
  kid : response.kid = request.kid
  signed : ∃ verkey key message, ring.verkey? request.kid = some verkey ∧
    ring.key? verkey = some key ∧ IsMessage request.serializedPayload message ∧
    response.signature = Base64.encode (scheme.sign key message) ∧
    scheme.verifies verkey message (scheme.sign key message) = true

/-- A request whose key ID is bound is answered, and another is not. -/
theorem Sound.signOne_cases (sound : ring.Sound) (request : SigningRequest) :
    (∃ verkey response, ring.verkey? request.kid = some verkey ∧
      ring.signOne request = .ok response ∧ ring.Answers request response) ∨
    ring.verkey? request.kid = none ∧
      ring.signOne request = .error ("no key bound to " ++ request.kid) := by
  cases bound : ring.verkey? request.kid with
  | none =>
      refine Or.inr ⟨rfl, ?_⟩
      rw [signOne, bound]
      rfl
  | some verkey =>
      obtain ⟨key, held⟩ := sound.bound request.kid verkey bound
      refine Or.inl ⟨verkey, ⟨request.kid, signature key request.serializedPayload⟩, rfl, ?_, rfl,
        verkey, key, signedOctets request.serializedPayload, bound, held,
        isMessage_signedOctets _, rfl, ?_⟩
      · simp only [signOne, bound, held]
      · rw [← sound.keyed verkey key held]
        exact scheme.verifies_sign key _

/-- A batch that is signed has bound key IDs, and its requests are answered one by one. -/
theorem Sound.answers_of_sign (sound : ring.Sound) (made : (ring.sign batch).1 = .ok responses) :
    (∀ request ∈ batch, ∃ verkey, ring.verkey? request.kid = some verkey) ∧
      List.Forall₂ ring.Answers batch responses := by
  cases works : ring.failing with
  | true =>
      rw [sign_of_failing works] at made
      cases made
  | false =>
      rw [sign_of_works works] at made
      refine (List.forall₂_and_left ..).mp ((mapM_eq_ok_iff.mp made).imp ?_)
      intro request response here
      rcases sound.signOne_cases request with ⟨verkey, other, bound, same, answers⟩ | ⟨-, fails⟩
      · rw [same] at here
        cases here
        exact ⟨⟨verkey, bound⟩, answers⟩
      · rw [fails] at here
        cases here

/-- All that a signer that works can fail for is a key ID without binding. -/
theorem Sound.exists_unbound_of_sign (sound : ring.Sound) (works : ring.failing = false)
    {reason : String} (failed : (ring.sign batch).1 = .error reason) :
    ∃ request ∈ batch, ring.verkey? request.kid = none ∧
      reason = "no key bound to " ++ request.kid := by
  rw [sign_of_works works] at failed
  obtain ⟨request, member, here⟩ := exists_of_mapM_eq_error failed
  rcases sound.signOne_cases request with ⟨-, response, -, same, -⟩ | ⟨unbound, fails⟩
  · rw [same] at here
    cases here
  · rw [fails] at here
    cases here
    exact ⟨request, member, unbound, rfl⟩

/-- A batch is signed exactly if its key IDs are bound. -/
theorem Sound.exists_sign_iff (sound : ring.Sound) (works : ring.failing = false) :
    (∃ responses, (ring.sign batch).1 = .ok responses) ↔
      ∀ request ∈ batch, ∃ verkey, ring.verkey? request.kid = some verkey := by
  constructor
  · rintro ⟨responses, made⟩
    exact (sound.answers_of_sign made).1
  · intro bound
    cases made : (ring.sign batch).1 with
    | ok responses => exact ⟨responses, rfl⟩
    | error reason =>
        obtain ⟨request, member, unbound, -⟩ := sound.exists_unbound_of_sign works made
        obtain ⟨verkey, latest⟩ := bound request member
        rw [unbound] at latest
        cases latest

/-- Signing does not miss a key: no ring that is sound has lost one. -/
theorem Sound.sign_ne_missing (sound : ring.Sound) (batch : List SigningRequest) :
    (ring.sign batch).1 ≠ .error "key not found" := by
  intro failed
  cases works : ring.failing with
  | true =>
      rw [sign_of_failing works] at failed
      exact absurd (Except.error.inj failed) (by decide)
  | false =>
      obtain ⟨request, -, -, same⟩ := sound.exists_unbound_of_sign works failed
      have first := congrArg (·.toList.head?) same
      simp at first

/-! ### Keys of seeds -/

/-- The key of a seed is the same in every ring. -/
theorem createKey_of_length {seed : String} (length : (Bytes.ofText seed).length = 32)
    (ring : Keyring scheme) :
    ring.createKey (some seed) = (.ok (scheme.verkey (scheme.ofSeed (Bytes.ofText seed))),
      ring.hold (scheme.ofSeed (Bytes.ofText seed))) :=
  if_pos length

theorem eq_of_created_mem {seed : String} (length : (Bytes.ofText seed).length = 32)
    {history : List Request}
    (created : (.createKey (some seed), .created verkey) ∈ ring.transcript history) :
    verkey = scheme.verkey (scheme.ofSeed (Bytes.ofText seed)) := by
  obtain ⟨_, _, -, made⟩ := exists_answer_of_mem created
  rw [answer, createKey_of_length length] at made
  cases made
  rfl

/-! ### Sessions -/

/-- What a wallet in memory has come to after a session. Every key ID that is bound is bound to a
key of the ring, which therefore never misses one to sign with. It is bound to the key of its last
binding, and only a binding of it changes that. A signer that works signs the batches whose key IDs
are bound, each request with the key that its key ID is bound to, and a signer that does not work
signs none. The key of a seed is always the same; that it is created again changes no binding. -/
theorem signs_under_last_bound (scheme : SignatureScheme) (failing : Bool)
    (history : List Request) :
    let ring := ((empty failing : Keyring scheme).session history).2
    let steps := (empty failing : Keyring scheme).transcript history
    (∀ kid verkey, ring.verkey? kid = some verkey → ring.Holds verkey) ∧
    (∀ batch, (ring.sign batch).1 ≠ .error "key not found") ∧
    (∀ kid verkey, ring.verkey? kid = some verkey ↔ LastBound steps kid verkey) ∧
    (∀ request kid,
      (∀ verkey, request = .assignKid verkey kid → (ring.answer request).1 ≠ .bound) →
      (ring.answer request).2.verkey? kid = ring.verkey? kid) ∧
    (failing = false → ∀ batch,
      ((∃ responses, (ring.sign batch).1 = .ok responses) ↔
        ∀ request ∈ batch, ∃ verkey, ring.verkey? request.kid = some verkey) ∧
      ∀ responses, (ring.sign batch).1 = .ok responses →
        List.Forall₂ ring.Answers batch responses) ∧
    (failing = true → ∀ batch, (ring.sign batch).1 = .error "signer unavailable") ∧
    ∀ seed, (Bytes.ofText seed).length = 32 →
      let key := scheme.ofSeed (Bytes.ofText seed)
      let after := (ring.createKey (some seed)).2
      (∀ verkey, (.createKey (some seed), .created verkey) ∈ steps →
        verkey = scheme.verkey key) ∧
      (ring.createKey (some seed)).1 = .ok (scheme.verkey key) ∧
      after.key? (scheme.verkey key) = some key ∧
      ∀ kid, after.verkey? kid = ring.verkey? kid ∧
        ∀ verkey, after.verkey? kid = some verkey → after.Holds verkey := by
  intro ring steps
  have sound : ring.Sound := session_sound history (empty_sound failing)
  have same : ring.failing = failing := session_failing _ history
  refine ⟨sound.bound, sound.sign_ne_missing, fun _ _ => verkey?_session failing history,
    fun _ _ => verkey?_of_unbound, ?_, ?_, ?_⟩
  · intro works batch
    exact ⟨sound.exists_sign_iff (same.trans works), fun _ made => (sound.answers_of_sign made).2⟩
  · intro fails batch
    rw [sign_of_failing (same.trans fails)]
  · intro seed length key after
    have again := createKey_of_length length ring
    have kept : after = ring.hold key := congrArg Prod.snd again
    have moves : ring.Moves _ (ring.hold key) := .created ring.drawn key
    refine ⟨fun verkey => eq_of_created_mem length, congrArg Prod.fst again, ?_, ?_⟩
    · rw [kept, key?_hold, if_pos rfl]
    · intro kid
      rw [kept]
      exact ⟨rfl, (moves.sound sound).bound kid⟩

/-- A key ID is bound anew, and then to a key that there is not; the key of the seed is created
again. -/
theorem signs_under_last_bound_rebound :
    let seed := "00000000000000000000000000000000"
    let key := SignatureScheme.seededKey (Bytes.ofText seed)
    let history : List Request := [.createKey (some seed), .createKey none,
      .assignKid (SignatureScheme.drawnKey 0) "k", .assignKid key "k", .assignKid [] "k"]
    let ring := ((empty false : Keyring).session history).2
    (ring.verkey? "k" = some key ∧ ring.Holds key ∧
      (ring.answer (.assignKid [] "k")).2.verkey? "k" = some key) ∧
    (∃ responses, (ring.sign [⟨"k", "YQ=="⟩]).1 = .ok responses ∧
      List.Forall₂ ring.Answers [⟨"k", "YQ=="⟩] responses) ∧
    ((ring.createKey (some seed)).1 = .ok key ∧
      (ring.createKey (some seed)).2.Holds key) ∧
    ((((empty true : Keyring).session history).2).sign [⟨"k", "YQ=="⟩]).1 =
      .error "signer unavailable" := by
  intro seed key history ring
  obtain ⟨held, -, last, kept, signs, -, seeded⟩ :=
    signs_under_last_bound .transparent false history
  obtain ⟨-, -, -, -, -, fails, -⟩ := signs_under_last_bound .transparent true history
  have bound : ring.verkey? "k" = some key := by
    refine (last "k" key).mpr ⟨[(.createKey (some seed), .created key),
      (.createKey none, .created (SignatureScheme.drawnKey 0)),
      (.assignKid (SignatureScheme.drawnKey 0) "k", .bound)],
      [(.assignKid [] "k", .failed "key not found")], by decide +kernel, ?_⟩
    intro other member
    cases List.mem_singleton.mp member
  have unbound : (ring.answer (.assignKid [] "k")).1 ≠ .bound := by decide +kernel
  have stays := kept (.assignKid [] "k") "k" (by rintro _ ⟨⟩; exact unbound)
  obtain ⟨signed, answered⟩ := signs rfl [⟨"k", "YQ=="⟩]
  obtain ⟨responses, made⟩ := signed.mpr fun request member => by
    cases List.mem_singleton.mp member
    exact ⟨key, bound⟩
  obtain ⟨shown, again, -, bindings⟩ := seeded seed (by decide +kernel)
  have before := shown key (by decide +kernel)
  refine ⟨⟨bound, held "k" key bound, stays.trans bound⟩, ⟨responses, made, answered _ made⟩,
    ⟨again.trans (by rw [before]), ?_⟩, fails rfl _⟩
  exact (bindings "k").2 key ((bindings "k").1.trans bound)

end DidRegistry.Keyring
