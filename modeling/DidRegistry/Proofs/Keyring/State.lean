import DidRegistry.Keyring
import Mathlib.Data.List.Forall2
import Mathlib.Data.List.Induction

/-!
What a wallet in memory goes through. An answer adds a key, adds a binding to a key that is held, or
leaves keys and bindings as they are (`Keyring.Moves`); so whatever every such step preserves is
preserved by sessions (`Keyring.session_preserves`). The transcript of a session has its requests,
each with the reply that the ring gave at that point (`Keyring.exists_answer_of_mem`).

Main statement: keys stay, and a ring only ever shows keys that it holds
(`Keyring.holds_of_created`).
-/

namespace DidRegistry.Keyring

variable {scheme : SignatureScheme} {ring after : Keyring scheme} {verkey : Bytes} {reply : Reply}

/-- The ring has a key with this public part. -/
def Holds (ring : Keyring scheme) (verkey : Bytes) : Prop := ∃ key, ring.key? verkey = some key

/-- The latest entry of a table hides those of the same name. -/
theorem lookup_cons_eq {κ α : Type} [BEq κ] [LawfulBEq κ] [DecidableEq κ] (name other : κ)
    (value : α) (entries : List (κ × α)) :
    ((name, value) :: entries).lookup other =
      if other = name then some value else entries.lookup other := by
  by_cases same : other = name
  · rw [if_pos same, same, List.lookup_cons_self]
  · rw [if_neg same, List.lookup_cons, beq_eq_false_iff_ne.mpr same]

theorem key?_hold (ring : Keyring scheme) (key : scheme.Key) (verkey : Bytes) :
    (ring.hold key).key? verkey =
      if verkey = scheme.verkey key then some key else ring.key? verkey :=
  lookup_cons_eq ..

theorem verkey?_bind (ring : Keyring scheme) (verkey : Bytes) (kid other : String) :
    (ring.bind verkey kid).verkey? other =
      if other = kid then some verkey else ring.verkey? other :=
  lookup_cons_eq ..

/-! ### Walks -/

section Walks

variable {α β ε : Type} {step : α → Except ε β} {items : List α}

/-- A walk succeeds with the values of its steps. -/
theorem mapM_eq_ok_iff {values : List β} :
    items.mapM step = .ok values ↔
      List.Forall₂ (fun item value => step item = .ok value) items values := by
  induction items generalizing values with
  | nil => simp [pure, Except.pure, eq_comm]
  | cons item rest ih =>
      rw [List.mapM_cons, List.forall₂_cons_left_iff]
      constructor
      · intro whole
        cases here : step item with
        | error error =>
            rw [here] at whole
            cases whole
        | ok value =>
            cases later : rest.mapM step with
            | error error =>
                rw [here, later] at whole
                cases whole
            | ok others =>
                rw [here, later] at whole
                cases whole
                exact ⟨value, others, rfl, ih.mp later, rfl⟩
      · rintro ⟨value, others, here, later, rfl⟩
        rw [here, ih.mpr later]
        rfl

/-- A walk fails as one of its steps does. -/
theorem exists_of_mapM_eq_error {error : ε} (failed : items.mapM step = .error error) :
    ∃ item ∈ items, step item = .error error := by
  induction items with
  | nil => cases failed
  | cons item rest ih =>
      rw [List.mapM_cons] at failed
      cases here : step item with
      | error other =>
          rw [here] at failed
          cases failed
          exact ⟨item, List.mem_cons_self, here⟩
      | ok value =>
          cases later : rest.mapM step with
          | error other =>
              rw [here, later] at failed
              cases failed
              obtain ⟨last, member, stops⟩ := ih later
              exact ⟨last, List.mem_cons_of_mem _ member, stops⟩
          | ok others =>
              rw [here, later] at failed
              cases failed

end Walks

/-! ### Steps -/

theorem assignKid_of_holds (held : ring.Holds verkey) (kid : String) :
    ring.assignKid verkey kid = (.ok (), ring.bind verkey kid) :=
  if_pos (Option.isSome_iff_exists.mpr held)

theorem answer_assignKid (held : ring.Holds verkey) (kid : String) :
    ring.answer (.assignKid verkey kid) = (.bound, ring.bind verkey kid) := by
  rw [answer, assignKid_of_holds held]
  rfl

/-- A key that is not held is bound to nothing. -/
theorem answer_assignKid_of_not_holds (missing : ¬ ring.Holds verkey) (kid : String) :
    ring.answer (.assignKid verkey kid) = (.failed "key not found", ring) := by
  have absent : ¬ (ring.key? verkey).isSome = true := fun held =>
    missing (Option.isSome_iff_exists.mp held)
  rw [answer, assignKid, if_neg absent]
  rfl

theorem sign_of_works (works : ring.failing = false) (batch : List SigningRequest) :
    ring.sign batch = (batch.mapM ring.signOne, { ring with signed := ring.signed ++ batch }) := by
  rw [sign, works]
  rfl

theorem sign_of_failing (failing : ring.failing = true) (batch : List SigningRequest) :
    ring.sign batch = (.error "signer unavailable", ring) := by
  rw [sign, failing]
  rfl

/-- What an answer makes of a ring, and the reply that comes with it. -/
inductive Moves (ring : Keyring scheme) : Reply → Keyring scheme → Prop where
  /-- There is a new key. -/
  | created (drawn : Nat) (key : scheme.Key) :
      Moves ring (.created (scheme.verkey key)) ({ ring with drawn }.hold key)
  /-- A key ID is bound to a key of the ring. -/
  | bound {verkey : Bytes} (kid : String) (held : ring.Holds verkey) :
      Moves ring .bound (ring.bind verkey kid)
  /-- Keys and bindings are as before. -/
  | still {reply : Reply} (signed : List SigningRequest)
      (other : ∀ verkey, reply ≠ .created verkey) :
      Moves ring reply { ring with signed }

theorem answer_moves (ring : Keyring scheme) (request : Request) :
    ring.Moves (ring.answer request).1 (ring.answer request).2 := by
  cases request with
  | createKey seed =>
      cases seed with
      | none => exact .created (ring.drawn + 1) (scheme.drawn ring.drawn)
      | some seed =>
          simp only [answer, createKey]
          split
          · exact .created ring.drawn _
          · exact .still ring.signed nofun
  | assignKid verkey kid =>
      simp only [answer, assignKid]
      split
      · rename_i held
        exact .bound kid (Option.isSome_iff_exists.mp held)
      · exact .still ring.signed nofun
  | verkey kid => exact .still ring.signed nofun
  | sign requests =>
      simp only [answer, sign]
      split
      · exact .still ring.signed nofun
      · refine .still _ ?_
        intro verkey
        cases requests.mapM ring.signOne <;> exact nofun
  | signed => exact .still ring.signed nofun

/-! ### Sessions -/

/-- What every step preserves is preserved by a session. -/
theorem session_preserves {invariant : Keyring scheme → Prop}
    (step : ∀ ring reply after, ring.Moves reply after → invariant ring → invariant after)
    (history : List Request) (holds : invariant ring) : invariant (ring.session history).2 := by
  induction history generalizing ring with
  | nil => exact holds
  | cons request rest ih => exact ih (step _ _ _ (ring.answer_moves request) holds)

theorem session_cons (ring : Keyring scheme) (request : Request) (rest : List Request) :
    ring.session (request :: rest) =
      ((ring.answer request).1 :: ((ring.answer request).2.session rest).1,
        ((ring.answer request).2.session rest).2) := rfl

theorem session_append (ring : Keyring scheme) (first second : List Request) :
    ring.session (first ++ second) =
      ((ring.session first).1 ++ ((ring.session first).2.session second).1,
        ((ring.session first).2.session second).2) := by
  induction first generalizing ring with
  | nil => rfl
  | cons request rest ih =>
      rw [List.cons_append, session_cons, ih, session_cons]
      rfl

theorem length_session (ring : Keyring scheme) (history : List Request) :
    (ring.session history).1.length = history.length := by
  induction history generalizing ring with
  | nil => rfl
  | cons request rest ih => rw [session_cons, List.length_cons, List.length_cons, ih]

/-- The requests of a session, each with its reply. -/
def transcript (ring : Keyring scheme) (history : List Request) : List (Request × Reply) :=
  history.zip (ring.session history).1

/-- A session that goes on for one request. -/
theorem session_concat (ring : Keyring scheme) (history : List Request) (request : Request) :
    (ring.session (history ++ [request])).2 = ((ring.session history).2.answer request).2 := by
  rw [session_append]
  rfl

theorem transcript_concat (ring : Keyring scheme) (history : List Request) (request : Request) :
    ring.transcript (history ++ [request]) =
      ring.transcript history ++ [(request, ((ring.session history).2.answer request).1)] := by
  rw [transcript, session_append, List.zip_append (ring.length_session history).symm]
  rfl

/-- A reply in a transcript is that of the ring which the requests before have left. -/
theorem exists_answer_of_mem {history : List Request} {request : Request}
    (member : (request, reply) ∈ ring.transcript history) : ∃ earlier later,
      history = earlier ++ request :: later ∧
        ((ring.session earlier).2.answer request).1 = reply := by
  induction history using List.reverseRecOn with
  | nil => cases member
  | append_singleton history last ih =>
      rw [transcript_concat] at member
      rcases List.mem_append.mp member with before | now
      · obtain ⟨earlier, later, rfl, answered⟩ := ih before
        exact ⟨earlier, later ++ [last], by simp, answered⟩
      · cases List.mem_singleton.mp now
        exact ⟨history, [], rfl, rfl⟩

theorem Moves.failing_eq (moves : ring.Moves reply after) : after.failing = ring.failing := by
  cases moves <;> rfl

/-- Keys stay. -/
theorem Moves.holds (moves : ring.Moves reply after) (held : ring.Holds verkey) :
    after.Holds verkey := by
  cases moves with
  | created drawn key =>
      rw [Holds, key?_hold]
      split
      · exact ⟨key, rfl⟩
      · exact held
  | bound kid other => exact held
  | still signed other => exact held

/-- A key that is shown is held. -/
theorem Moves.holds_of_created (moves : ring.Moves (.created verkey) after) :
    after.Holds verkey := by
  cases moves with
  | created drawn key => exact ⟨key, by rw [key?_hold, if_pos rfl]⟩
  | still signed other => exact absurd rfl (other verkey)

theorem session_failing (ring : Keyring scheme) (history : List Request) :
    (ring.session history).2.failing = ring.failing :=
  session_preserves (fun _ _ _ moves same => moves.failing_eq.trans same) history rfl

theorem session_holds (history : List Request) (held : ring.Holds verkey) :
    (ring.session history).2.Holds verkey :=
  session_preserves (fun _ _ _ moves => moves.holds) history held

/-- Every key that a session has shown is held in the end. -/
theorem holds_of_created {history : List Request}
    (created : .created verkey ∈ (ring.session history).1) :
    (ring.session history).2.Holds verkey := by
  induction history generalizing ring with
  | nil => cases created
  | cons request rest ih =>
      rw [session_cons] at created
      rcases List.mem_cons.mp created with here | later
      · have moves := ring.answer_moves request
        rw [← here] at moves
        exact session_holds rest moves.holds_of_created
      · exact ih later

/-! ### Sound rings -/

/-- Keys are kept by their public parts, and key IDs are bound to keys that are held. -/
structure Sound (ring : Keyring scheme) : Prop where
  keyed : ∀ verkey key, ring.key? verkey = some key → scheme.verkey key = verkey
  bound : ∀ kid verkey, ring.verkey? kid = some verkey → ring.Holds verkey

theorem empty_sound (failing : Bool) : (empty failing : Keyring scheme).Sound := ⟨nofun, nofun⟩

theorem Moves.sound (moves : ring.Moves reply after) (sound : ring.Sound) : after.Sound where
  keyed := by
    intro verkey key found
    cases moves with
    | created drawn added =>
        rw [key?_hold] at found
        split at found
        · rename_i same
          cases found
          exact same.symm
        · exact sound.keyed verkey key found
    | bound kid held => exact sound.keyed verkey key found
    | still signed other => exact sound.keyed verkey key found
  bound := by
    intro kid verkey found
    cases moves with
    | created drawn key =>
        have moves : ring.Moves _ _ := .created drawn key
        exact moves.holds (sound.bound kid verkey found)
    | bound other held =>
        rw [verkey?_bind] at found
        split at found
        · cases found
          exact held
        · exact sound.bound kid verkey found
    | still signed other => exact sound.bound kid verkey found

theorem session_sound (history : List Request) (sound : ring.Sound) :
    (ring.session history).2.Sound :=
  session_preserves (fun _ _ _ moves => moves.sound) history sound

end DidRegistry.Keyring
