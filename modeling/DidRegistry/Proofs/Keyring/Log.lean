import DidRegistry.Proofs.Keyring.Bindings
import Mathlib.Algebra.Order.BigOperators.Group.List
import Mathlib.Algebra.Order.Group.Nat

/-!
What a wallet in memory keeps of the batches that it is given. A signer that works keeps a batch
before it looks for the keys, and so keeps those too that it then cannot sign
(`Keyring.signed_answer`); a signer that does not work keeps none.

Main statement: the record is that of the signed batches if none has failed for want of a key, and
only then (`Keyring.signed_of_session`). In general it is not
(`Keyring.unsigned_batch_recorded`).
-/

namespace DidRegistry.Keyring

variable {scheme : SignatureScheme} {ring : Keyring scheme} {batch : List SigningRequest}

/-- The requests for signatures that a step brings. -/
def asked : Request × Reply → List SigningRequest
  | (.sign batch, _) => batch
  | _ => []

/-- The requests that a step signs. -/
def granted : Request × Reply → List SigningRequest
  | (.sign batch, .signatures _) => batch
  | _ => []

/-! ### Steps -/

/-- If the signer works, a step adds what it asks for to the record, whether that is granted or
not. -/
theorem signed_answer (ring : Keyring scheme) (request : Request) :
    (ring.answer request).2.signed =
      if ring.failing then ring.signed
      else ring.signed ++ asked (request, (ring.answer request).1) := by
  cases request with
  | sign batch =>
      simp only [answer, sign, asked]
      split <;> rfl
  | createKey seed =>
      simp only [asked, List.append_nil, ite_self]
      cases seed with
      | none => rfl
      | some seed =>
          simp only [answer, createKey]
          split <;> rfl
  | assignKid verkey kid =>
      simp only [asked, List.append_nil, ite_self]
      by_cases held : ring.Holds verkey
      · rw [answer_assignKid held]
        rfl
      · rw [answer_assignKid_of_not_holds held]
  | verkey kid => simp [answer, asked]
  | signed => simp [answer, asked]

/-- A batch that a signer lacks a key for is not empty. -/
theorem ne_nil_of_failed {reason : String} (works : ring.failing = false)
    (failed : (ring.answer (.sign batch)).1 = .failed reason) : batch ≠ [] := by
  rintro rfl
  rw [answer, sign_of_works works] at failed
  cases failed

/-- What is granted has been asked for, and nothing is granted of what is refused. -/
theorem granted_cases (ring : Keyring scheme) (request : Request) :
    granted (request, (ring.answer request).1) = asked (request, (ring.answer request).1) ∧
        (∀ batch reason, (request, (ring.answer request).1) ≠ (.sign batch, .failed reason)) ∨
      ∃ batch reason, (request, (ring.answer request).1) = (.sign batch, .failed reason) := by
  cases request with
  | sign batch =>
      simp only [answer]
      cases (ring.sign batch).1 with
      | ok responses =>
          refine Or.inl ⟨rfl, ?_⟩
          rintro _ _ ⟨⟩
      | error reason => exact Or.inr ⟨batch, reason, rfl⟩
  | createKey | assignKid | verkey | signed =>
      refine Or.inl ⟨rfl, ?_⟩
      rintro _ _ ⟨⟩

theorem length_granted_le (step : Request × Reply) :
    (granted step).length ≤ (asked step).length := by
  obtain ⟨request, reply⟩ := step
  cases request with
  | sign batch =>
      cases reply with
      | signatures responses => exact Nat.le_refl _
      | _ => exact Nat.zero_le _
  | createKey | assignKid | verkey | signed => exact Nat.le_refl _

/-- A call fails exactly for a key ID that is bound to no key. -/
theorem Sound.sign_fails_iff (sound : ring.Sound) (works : ring.failing = false) :
    (∃ reason, (ring.answer (.sign batch)).1 = .failed reason) ↔
      ∃ request ∈ batch, ring.verkey? request.kid = none := by
  simp only [answer]
  cases made : (ring.sign batch).1 with
  | ok responses =>
      have bound := (sound.answers_of_sign made).1
      constructor
      · rintro ⟨_, ⟨⟩⟩
      · rintro ⟨request, member, unbound⟩
        obtain ⟨verkey, latest⟩ := bound request member
        rw [unbound] at latest
        cases latest
  | error reason =>
      obtain ⟨request, member, unbound, -⟩ := sound.exists_unbound_of_sign works made
      exact iff_of_true ⟨reason, rfl⟩ ⟨request, member, unbound⟩

/-! ### Sessions -/

/-- The record of a session. -/
theorem signed_session (failing : Bool) (history : List Request) :
    ((empty failing : Keyring scheme).session history).2.signed =
      if failing then []
      else ((empty failing : Keyring scheme).transcript history).flatMap asked := by
  induction history using List.reverseRecOn with
  | nil => cases failing <;> rfl
  | append_singleton history request ih =>
      have same : ((empty failing : Keyring scheme).session history).2.failing = failing :=
        session_failing _ history
      rw [session_concat, signed_answer, same, ih, transcript_concat]
      cases failing with
      | true => rfl
      | false => simp

/-- Lists are joined to the same if each is the same, and none is longer on one side. -/
theorem flatMap_eq_iff {α β : Type} {short long : α → List β} {items : List α}
    (shorter : ∀ item ∈ items, (short item).length ≤ (long item).length) :
    items.flatMap short = items.flatMap long ↔ ∀ item ∈ items, short item = long item := by
  induction items with
  | nil => simp
  | cons item rest ih =>
      obtain ⟨here, later⟩ := List.forall_mem_cons.mp shorter
      have total : (rest.flatMap short).length ≤ (rest.flatMap long).length := by
        rw [List.length_flatMap, List.length_flatMap]
        exact List.sum_le_sum later
      rw [List.flatMap_cons, List.flatMap_cons, List.forall_mem_cons, ← ih later]
      constructor
      · intro whole
        have lengths := congrArg List.length whole
        rw [List.length_append, List.length_append] at lengths
        exact List.append_inj whole (by omega)
      · rintro ⟨first, others⟩
        rw [first, others]

/-- A signer that works grants what is asked for, unless the call fails. -/
theorem granted_eq_iff {history : List Request} {step : Request × Reply}
    (member : step ∈ (empty false : Keyring scheme).transcript history) :
    granted step = asked step ↔ ∀ batch reason, step ≠ (.sign batch, .failed reason) := by
  obtain ⟨request, reply⟩ := step
  obtain ⟨earlier, later, -, rfl⟩ := exists_answer_of_mem member
  have works := session_failing (empty false : Keyring scheme) earlier
  rcases granted_cases ((empty false : Keyring scheme).session earlier).2 request with
    ⟨whole, signed⟩ | ⟨batch, reason, refused⟩
  · exact iff_of_true whole signed
  · refine iff_of_false ?_ fun signed => signed batch reason refused
    obtain ⟨rfl, failed⟩ := Prod.mk.inj refused
    rw [failed]
    exact (ne_nil_of_failed works failed).symm

/-- A signer that does not work grants nothing. -/
theorem granted_eq_nil {history : List Request} {step : Request × Reply}
    (member : step ∈ (empty true : Keyring scheme).transcript history) : granted step = [] := by
  obtain ⟨request, reply⟩ := step
  obtain ⟨earlier, later, -, rfl⟩ := exists_answer_of_mem member
  cases request with
  | sign batch =>
      rw [answer, sign_of_failing (session_failing (empty true : Keyring scheme) earlier)]
      rfl
  | createKey | assignKid | verkey | signed => rfl

/-- The record is that of the signed batches if the signer does not work or no call has failed. -/
theorem signed_eq_granted_iff (failing : Bool) (history : List Request) :
    ((empty failing : Keyring scheme).session history).2.signed =
        ((empty failing : Keyring scheme).transcript history).flatMap granted ↔
      failing = true ∨ ∀ batch reason,
        (.sign batch, .failed reason) ∉ (empty failing : Keyring scheme).transcript history := by
  rw [signed_session]
  cases failing with
  | true =>
      have nothing : ((empty true : Keyring scheme).transcript history).flatMap granted = [] :=
        List.flatMap_eq_nil_iff.mpr fun step member => granted_eq_nil member
      exact iff_of_true nothing.symm (Or.inl rfl)
  | false =>
      have whole : ((empty false : Keyring scheme).transcript history).flatMap granted =
          ((empty false : Keyring scheme).transcript history).flatMap asked ↔
          ∀ step ∈ (empty false : Keyring scheme).transcript history, granted step = asked step :=
        flatMap_eq_iff fun step _ => length_granted_le step
      rw [if_neg Bool.false_ne_true, eq_comm, whole]
      constructor
      · intro all
        refine Or.inr fun batch reason member => ?_
        exact (granted_eq_iff member).mp (all _ member) batch reason rfl
      · rintro (⟨⟨⟩⟩ | signed) step member
        refine (granted_eq_iff member).mpr ?_
        rintro batch reason rfl
        exact signed batch reason member

/-- The record of a signer that works has the batches of all calls, in order: a call adds its batch
even if a key ID of it is bound to no key, and the call fails. A signer that does not work records
nothing, and no other step does. So the record is that of the signed batches exactly if the signer
does not work, or no call has failed. -/
theorem signed_of_session (scheme : SignatureScheme) (failing : Bool) (history : List Request) :
    let ring := ((empty failing : Keyring scheme).session history).2
    let steps := (empty failing : Keyring scheme).transcript history
    ring.signed = (if failing then [] else steps.flatMap asked) ∧
    (ring.signed = steps.flatMap granted ↔
      failing = true ∨ ∀ batch reason, (.sign batch, .failed reason) ∉ steps) ∧
    (∀ batch, failing = true →
      (ring.answer (.sign batch)).1 = .failed "signer unavailable" ∧
        (ring.answer (.sign batch)).2 = ring) ∧
    (∀ batch, failing = false →
      (ring.answer (.sign batch)).2.signed = ring.signed ++ batch ∧
        ((∃ reason, (ring.answer (.sign batch)).1 = .failed reason) ↔
          ∃ request ∈ batch, ring.verkey? request.kid = none)) ∧
    ∀ request, (∀ batch, request ≠ .sign batch) →
      (ring.answer request).2.signed = ring.signed := by
  intro ring steps
  have sound : ring.Sound := session_sound history (empty_sound failing)
  have same : ring.failing = failing := session_failing _ history
  refine ⟨signed_session failing history, signed_eq_granted_iff failing history, ?_, ?_, ?_⟩
  · intro batch fails
    rw [answer, sign_of_failing (same.trans fails)]
    exact ⟨rfl, rfl⟩
  · intro batch works
    refine ⟨?_, sound.sign_fails_iff (same.trans works)⟩
    rw [signed_answer, same, works]
    rfl
  · intro request other
    have nothing : asked (request, (ring.answer request).1) = [] := by
      cases request with
      | sign batch => exact absurd rfl (other batch)
      | createKey | assignKid | verkey | signed => rfl
    rw [signed_answer, nothing, List.append_nil, ite_self]

/-- The record is that of the signed batches as long as all are signed. A batch with a key ID that
is bound to no key is recorded all the same. A signer that does not work records nothing. -/
theorem signed_of_session_unbound :
    let first : List Request := [.createKey none, .assignKid (SignatureScheme.drawnKey 0) "k",
      .sign [⟨"k", "a"⟩]]
    let ring := ((empty false : Keyring).session first).2
    let failing := ((empty true : Keyring).session first).2
    ring.signed = ((empty false : Keyring).transcript first).flatMap granted ∧
      (∃ reason, (ring.answer (.sign [⟨"k", "b"⟩, ⟨"l", "c"⟩])).1 = .failed reason) ∧
      (ring.answer (.sign [⟨"k", "b"⟩, ⟨"l", "c"⟩])).2.signed =
        ring.signed ++ [⟨"k", "b"⟩, ⟨"l", "c"⟩] ∧
      (ring.answer (.createKey none)).2.signed = ring.signed ∧
      (failing.answer (.sign [⟨"k", "b"⟩])).2 = failing := by
  intro first ring failing
  obtain ⟨-, whole, -, calls, others⟩ := signed_of_session .transparent false first
  obtain ⟨-, -, refusals, -⟩ := signed_of_session .transparent true first
  obtain ⟨grows, fails⟩ := calls [⟨"k", "b"⟩, ⟨"l", "c"⟩] rfl
  have all : ∀ step ∈ (empty false : Keyring).transcript first, granted step = asked step := by
    decide +kernel
  refine ⟨whole.mpr (Or.inr ?_), fails.mpr ⟨⟨"l", "c"⟩, by simp, by decide +kernel⟩, grows,
    others (.createKey none) (by rintro _ ⟨⟩), (refusals _ rfl).2⟩
  intro batch reason member
  exact (granted_eq_iff member).mp (all _ member) batch reason rfl

/-- The record is not always that of the signed batches: one with a key ID without binding is
recorded, and then not signed. -/
theorem unsigned_batch_recorded :
    ¬ ∀ (failing : Bool) (history : List Request),
      ((empty failing : Keyring).session history).2.signed =
        ((empty failing : Keyring).transcript history).flatMap granted := by
  intro same
  exact absurd (same false [.createKey none, .assignKid (SignatureScheme.drawnKey 0) "k",
    .sign [⟨"k", "a"⟩, ⟨"l", "b"⟩]]) (by decide +kernel)

end DidRegistry.Keyring
