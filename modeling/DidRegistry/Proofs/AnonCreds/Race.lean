import DidRegistry.Proofs.AnonCreds.Recording
import DidRegistry.Proofs.AnonCreds.Session
import Mathlib

/-!
Two updates of one registry at a time. A call looks up the list in force and publishes its change of
that list later; nothing ties the two steps together, so what another call publishes between them
is not seen.

* `Race.moves_eq_update`: two moves of a call without one of the other in between are an update.
* `Race.revocation_lost`: over peers that keep their laws, both calls can succeed and the
  revocations of one be lost.
* `Race.outcome`: the revocations of both are kept if one call publishes before the other looks up;
  if both look up first, those of the later publication are.
-/

namespace DidRegistry.AnonCreds

/-- Two calls that are under way at a time. -/
inductive Caller where
  | first
  | second
  deriving DecidableEq, Repr

def Caller.other : Caller → Caller
  | .first => .second
  | .second => .first

/-- How far a call has come: it has found a list, under the name that all lists of the registry
share, or it has ended. -/
inductive Progress where
  | waiting
  | looked (name : String) (list : RevocationStatusList)
  | ended (result : Except Error (RegistrationResult RevocationStatusList))
  deriving DecidableEq

/-- Two calls and the state of their surroundings. A call moves by a whole lookup, then by a whole
publication. -/
structure Race (σ : Type) where
  calls : Caller → Progress
  state : σ

namespace Race

variable {σ : Type} (surroundings : Surroundings σ) (services : Services) (registryId : String)
  (updates : Caller → RevListUpdate)

/-- The next step of a call: its lookup, then its publication. -/
def move (race : Race σ) (caller : Caller) : Race σ :=
  match race.calls caller with
  | .waiting =>
    let lookup := (listInForce services registryId none).run surroundings race.state
    { calls := Function.update race.calls caller
        (match lookup.result with
          | .ok (name, current) => .looked name current.value
          | .error error => .ended (.error error))
      state := lookup.state }
  | .looked name list =>
    let publication := (publishChange services name list (updates caller)).run surroundings
      race.state
    { calls := Function.update race.calls caller (.ended publication.result)
      state := publication.state }
  | .ended _ => race

/-- Lets the calls move in this order. -/
def moves (race : Race σ) (schedule : List Caller) : Race σ :=
  schedule.foldl (move surroundings services registryId updates) race

def start (state : σ) : Race σ := ⟨fun _ => .waiting, state⟩

end Race

theorem Caller.other_ne (caller : Caller) : caller.other ≠ caller := by
  cases caller <;> decide

theorem Caller.other_other (caller : Caller) : caller.other.other = caller := by
  cases caller <;> rfl

theorem Caller.eq_other {caller next : Caller} (distinct : next ≠ caller) :
    next = caller.other := by
  cases caller <;> cases next <;> first | rfl | exact absurd rfl distinct

namespace Race

variable {σ : Type} {surroundings : Surroundings σ} {services : Services} {registryId : String}
  {updates : Caller → RevListUpdate} {race : Race σ} {caller : Caller}

theorem moves_cons (race : Race σ) (next : Caller) (rest : List Caller) :
    moves surroundings services registryId updates race (next :: rest) =
      moves surroundings services registryId updates
        (move surroundings services registryId updates race next) rest :=
  rfl

theorem moves_nil (race : Race σ) :
    moves surroundings services registryId updates race [] = race :=
  rfl

/-- The two moves of a call, one right after the other, are an update. -/
theorem moves_eq_update (waits : race.calls caller = .waiting) :
    moves surroundings services registryId updates race [caller, caller] =
      ⟨Function.update race.calls caller (.ended
          ((updateRevocationList services registryId (updates caller)).run surroundings
            race.state).result),
        ((updateRevocationList services registryId (updates caller)).run surroundings
          race.state).state⟩ := by
  have whole : (updateRevocationList services registryId (updates caller)).run surroundings
      race.state = _ := Program.run_bind surroundings (listInForce services registryId none) _ _
  rw [whole]
  simp only [moves, List.foldl_cons, List.foldl_nil]
  generalize looked : (listInForce services registryId none).run surroundings race.state = lookup
  obtain ⟨exchanges, result, after⟩ := lookup
  cases result with
  | error error => simp [move, waits, looked]
  | ok found =>
      obtain ⟨name, current⟩ := found
      simp [move, waits, looked]

theorem move_of_ended {result : Except Error (RegistrationResult RevocationStatusList)}
    (ended : race.calls caller = .ended result) :
    move surroundings services registryId updates race caller = race := by
  rw [move, ended]

/-- A move of one call leaves the other where it is. -/
theorem calls_move_of_ne {other : Caller} (distinct : other ≠ caller) :
    (move surroundings services registryId updates race caller).calls other =
      race.calls other := by
  unfold move
  cases race.calls caller with
  | waiting => exact Function.update_of_ne distinct _ _
  | looked name list => exact Function.update_of_ne distinct _ _
  | ended result => rfl

/-- A call that has ended stays so. -/
theorem calls_moves_of_ended {result : Except Error (RegistrationResult RevocationStatusList)}
    (schedule : List Caller) (ended : race.calls caller = .ended result) :
    (moves surroundings services registryId updates race schedule).calls caller =
      .ended result := by
  induction schedule generalizing race with
  | nil => exact ended
  | cons next rest ih =>
      rw [moves_cons]
      by_cases same : next = caller
      · rw [same, move_of_ended ended]
        exact ih ended
      · refine ih ?_
        rw [calls_move_of_ne fun h => same h.symm]
        exact ended

/-- If both calls have ended, nothing moves any more. -/
theorem moves_of_ended (schedule : List Caller)
    (ended : ∀ caller, ∃ result, race.calls caller = .ended result) :
    moves surroundings services registryId updates race schedule = race := by
  induction schedule with
  | nil => rfl
  | cons next rest ih =>
      obtain ⟨result, gone⟩ := ended next
      rw [moves_cons, move_of_ended gone]
      exact ih

/-! ### Over a ledger -/

variable {ledger : Ledger σ} {registry : RevocationRegistry} {list : RevocationStatusList}
  {registration : RegistrationResult RevocationStatusList}

/-- A lookup finds the list that is held, or ends the call with an error; nothing is stored. -/
theorem move_of_waiting (kept : ledger.KeptBy surroundings services)
    (serves : ledger.Serves surroundings services registry)
    (waits : race.calls caller = .waiting) (holds : ledger.Holds registry race.state list) :
    ledger.stored (move surroundings services registry.id updates race caller).state =
        ledger.stored race.state ∧
      ((move surroundings services registry.id updates race caller).calls caller =
          .looked registry.name list ∨
        ∃ error, (move surroundings services registry.id updates race caller).calls caller =
          .ended (.error error)) := by
  have looked := (listInForce_ensures kept serves holds).holds
  simp only [move, waits, Function.update_self]
  refine ⟨looked.1, ?_⟩
  cases ended : ((listInForce services registry.id none).run surroundings race.state).result with
  | error error => exact Or.inr ⟨error, rfl⟩
  | ok found =>
      obtain ⟨named, value⟩ := looked.2 found ended
      refine Or.inl ?_
      simp only [named, value]

/-- The lookup of a call that succeeds in the end has found the list. -/
theorem looked_of_succeeded (kept : ledger.KeptBy surroundings services)
    (serves : ledger.Serves surroundings services registry)
    (waits : race.calls caller = .waiting) (holds : ledger.Holds registry race.state list)
    (rest : List Caller)
    (succeeded : (moves surroundings services registry.id updates
      (move surroundings services registry.id updates race caller) rest).calls caller =
        .ended (.ok registration)) :
    (move surroundings services registry.id updates race caller).calls caller =
      .looked registry.name list := by
  rcases (move_of_waiting kept serves waits holds).2 with looked | ⟨error, failed⟩
  · exact looked
  · rw [calls_moves_of_ended rest failed] at succeeded
    cases succeeded

/-- A publication ends the call; if it succeeds, its version is held and supersedes the list that
was looked up, whatever is held before. -/
theorem move_of_looked (kept : ledger.KeptBy surroundings services)
    (issued : list.issuerId = registry.issuer) (ofRegistry : list.revRegDefId = registry.id)
    (looked : race.calls caller = .looked registry.name list) :
    ∃ result, (move surroundings services registryId updates race caller).calls caller =
        .ended result ∧
      Registers ledger registry race.state (fun next => next.Supersedes list (updates caller))
        result (move surroundings services registryId updates race caller).state := by
  have published : Program.Ensures surroundings
      (publishChange services registry.name list (updates caller)) race.state
      (Registers ledger registry race.state fun next => next.Supersedes list (updates caller)) :=
    publishChange_ensures kept issued ofRegistry (updates caller)
  simp only [move, looked, Function.update_self]
  exact ⟨_, rfl, published.holds⟩

/-- A call that has looked a list up, when the other has ended: its version supersedes that list. -/
theorem moves_of_looked (kept : ledger.KeptBy surroundings services)
    (issued : list.issuerId = registry.issuer) (ofRegistry : list.revRegDefId = registry.id)
    {other : Except Error (RegistrationResult RevocationStatusList)} (schedule : List Caller)
    (looked : race.calls caller = .looked registry.name list)
    (ended : race.calls caller.other = .ended other)
    (succeeded : (moves surroundings services registryId updates race schedule).calls caller =
      .ended (.ok registration)) :
    registration.state.value.Supersedes list (updates caller) ∧
      ledger.Holds registry (moves surroundings services registryId updates race schedule).state
        registration.state.value := by
  induction schedule with
  | nil =>
      change race.calls caller = _ at succeeded
      rw [looked] at succeeded
      cases succeeded
  | cons next rest ih =>
      rw [moves_cons] at succeeded ⊢
      by_cases same : next = caller
      · subst same
        obtain ⟨result, gone, registers⟩ :
            ∃ result, (move surroundings services registryId updates race next).calls next =
              .ended result ∧ Registers ledger registry race.state
                (fun version => version.Supersedes list (updates next)) result
                (move surroundings services registryId updates race next).state :=
          move_of_looked kept issued ofRegistry looked
        have both : ∀ anyone, ∃ result, (move surroundings services registryId updates race
            next).calls anyone = .ended result := by
          intro anyone
          by_cases here : anyone = next
          · exact ⟨result, here ▸ gone⟩
          · refine ⟨other, ?_⟩
            rw [calls_move_of_ne here, Caller.eq_other here]
            exact ended
        rw [moves_of_ended rest both] at succeeded ⊢
        rw [gone] at succeeded
        cases succeeded
        exact registers.1 registration rfl
      · rw [Caller.eq_other same, move_of_ended ended] at succeeded ⊢
        exact ih succeeded

/-- A call that waits, when the other has ended: its version supersedes the list that is held. -/
theorem moves_of_waiting (kept : ledger.KeptBy surroundings services)
    (serves : ledger.Serves surroundings services registry)
    {other : Except Error (RegistrationResult RevocationStatusList)} (schedule : List Caller)
    (waits : race.calls caller = .waiting) (ended : race.calls caller.other = .ended other)
    (holds : ledger.Holds registry race.state list)
    (succeeded : (moves surroundings services registry.id updates race schedule).calls caller =
      .ended (.ok registration)) :
    registration.state.value.Supersedes list (updates caller) ∧
      ledger.Holds registry (moves surroundings services registry.id updates race schedule).state
        registration.state.value := by
  induction schedule with
  | nil =>
      change race.calls caller = _ at succeeded
      rw [waits] at succeeded
      cases succeeded
  | cons next rest ih =>
      rw [moves_cons] at succeeded ⊢
      by_cases same : next = caller
      · subst same
        have looked := looked_of_succeeded kept serves waits holds rest succeeded
        have still : (move surroundings services registry.id updates race next).calls next.other =
            .ended other := by
          rw [calls_move_of_ne next.other_ne]
          exact ended
        exact moves_of_looked kept holds.1 holds.2.1 rest looked still succeeded
      · rw [Caller.eq_other same, move_of_ended ended] at succeeded ⊢
        exact ih succeeded

/-- Versions of lists of which one takes effect before the other are told apart. -/
theorem listVersion_ne {earlier later : Int64} (before : earlier < later) :
    listVersion earlier ≠ listVersion later := by
  intro same
  have equal : earlier = later := Int64.toInt_inj.mp (Int.repr_injective same)
  rw [equal] at before
  exact Int64.lt_irrefl before

/-- If one call publishes before the other looks up, the version of the other supersedes that of the
one. -/
theorem supersedes_of_serial (kept : ledger.KeptBy surroundings services)
    (serves : ledger.Serves surroundings services registry) {state : σ}
    (holds : ledger.Holds registry state list) (rest : List Caller)
    {results : Caller → RegistrationResult RevocationStatusList}
    (succeeded : ∀ anyone, (moves surroundings services registry.id updates (start state)
      (caller :: caller :: rest)).calls anyone = .ended (.ok (results anyone))) :
    (results caller).state.value.Supersedes list (updates caller) ∧
      (results caller.other).state.value.Supersedes (results caller).state.value
        (updates caller.other) ∧
      ledger.Holds registry (moves surroundings services registry.id updates (start state)
        (caller :: caller :: rest)).state (results caller.other).state.value := by
  rw [moves_cons] at succeeded ⊢
  have looked := looked_of_succeeded kept serves rfl holds (caller :: rest) (succeeded caller)
  rw [moves_cons] at succeeded ⊢
  obtain ⟨result, gone, registers⟩ : ∃ result,
      (move surroundings services registry.id updates
        (move surroundings services registry.id updates (start state) caller) caller).calls
          caller = .ended result ∧ _ :=
    move_of_looked kept holds.1 holds.2.1 looked
  have ends := (calls_moves_of_ended rest gone).symm.trans (succeeded caller)
  cases ends
  obtain ⟨supersedes, held⟩ := registers.1 _ rfl
  have waits : (move surroundings services registry.id updates
      (move surroundings services registry.id updates (start state) caller) caller).calls
        caller.other = .waiting := by
    rw [calls_move_of_ne caller.other_ne, calls_move_of_ne caller.other_ne]
    rfl
  have still : (move surroundings services registry.id updates
      (move surroundings services registry.id updates (start state) caller) caller).calls
        caller.other.other = .ended (.ok (results caller)) := by
    rw [caller.other_other]
    exact gone
  exact ⟨supersedes, moves_of_waiting kept serves rest waits still held (succeeded caller.other)⟩

/-- If both calls have looked a list up, the version of the later publication supersedes it. -/
theorem supersedes_of_looked (kept : ledger.KeptBy surroundings services)
    (issued : list.issuerId = registry.issuer) (ofRegistry : list.revRegDefId = registry.id)
    (both : ∀ anyone, race.calls anyone = .looked registry.name list) (next : Caller)
    (rest : List Caller) {results : Caller → RegistrationResult RevocationStatusList}
    (succeeded : ∀ anyone, (moves surroundings services registryId updates race
      (next :: rest)).calls anyone = .ended (.ok (results anyone))) :
    (results next.other).state.value.Supersedes list (updates next.other) ∧
      ledger.Holds registry (moves surroundings services registryId updates race
        (next :: rest)).state (results next.other).state.value := by
  rw [moves_cons] at succeeded ⊢
  have still : (move surroundings services registryId updates race next).calls next.other =
      .looked registry.name list := by
    rw [calls_move_of_ne next.other_ne]
    exact both next.other
  obtain ⟨result, gone, -⟩ : ∃ result,
      (move surroundings services registryId updates race next).calls next = .ended result ∧ _ :=
    move_of_looked kept issued ofRegistry (both next)
  have ended : (move surroundings services registryId updates race next).calls next.other.other =
      .ended result := by
    rw [next.other_other]
    exact gone
  exact moves_of_looked kept issued ofRegistry rest still ended (succeeded next.other)

/-- If both calls look up first, the version of the later publication supersedes the list that both
find. -/
theorem supersedes_of_overlap (kept : ledger.KeptBy surroundings services)
    (serves : ledger.Serves surroundings services registry) {state : σ}
    (holds : ledger.Holds registry state list) (caller next : Caller) (rest : List Caller)
    {results : Caller → RegistrationResult RevocationStatusList}
    (succeeded : ∀ anyone, (moves surroundings services registry.id updates (start state)
      (caller :: caller.other :: next :: rest)).calls anyone = .ended (.ok (results anyone))) :
    (results next.other).state.value.Supersedes list (updates next.other) ∧
      ledger.Holds registry (moves surroundings services registry.id updates (start state)
        (caller :: caller.other :: next :: rest)).state (results next.other).state.value := by
  rw [moves_cons] at succeeded ⊢
  have early := looked_of_succeeded kept serves rfl holds (caller.other :: next :: rest)
    (succeeded caller)
  have same : ledger.stored (move surroundings services registry.id updates (start state)
      caller).state = ledger.stored state := (move_of_waiting kept serves rfl holds).1
  have waits : (move surroundings services registry.id updates (start state) caller).calls
      caller.other = .waiting := by
    rw [calls_move_of_ne caller.other_ne]
    rfl
  rw [moves_cons] at succeeded ⊢
  have late := looked_of_succeeded kept serves waits (holds.of_stored_eq same) (next :: rest)
    (succeeded caller.other)
  have both : ∀ anyone, (move surroundings services registry.id updates
      (move surroundings services registry.id updates (start state) caller) caller.other).calls
        anyone = .looked registry.name list := by
    intro anyone
    by_cases here : anyone = caller
    · rw [here, calls_move_of_ne caller.other_ne.symm]
      exact early
    · rw [Caller.eq_other here]
      exact late
  exact supersedes_of_looked kept holds.1 holds.2.1 both next rest succeeded

/-- If both calls succeed, one has published before the other looks up, or both have looked up
before either publishes. -/
theorem serial_or_overlap (kept : ledger.KeptBy surroundings services)
    (serves : ledger.Serves surroundings services registry) {state : σ}
    (holds : ledger.Holds registry state list) (schedule : List Caller)
    {results : Caller → RegistrationResult RevocationStatusList}
    (succeeded : ∀ anyone, (moves surroundings services registry.id updates (start state)
      schedule).calls anyone = .ended (.ok (results anyone))) :
    (∃ caller rest, schedule = caller :: caller :: rest) ∨
      ∃ caller next rest, schedule = caller :: caller.other :: next :: rest := by
  match schedule with
  | [] => cases succeeded .first
  | [caller] =>
      -- The other call has not moved.
      have waits := succeeded caller.other
      rw [moves_cons, moves_nil, calls_move_of_ne caller.other_ne] at waits
      cases waits
  | caller :: next :: rest =>
      by_cases same : next = caller
      · subst same
        exact Or.inl ⟨next, rest, rfl⟩
      · obtain rfl := Caller.eq_other same
        cases rest with
        | nil =>
            -- The call that moved first has not published.
            have looked := looked_of_succeeded kept serves rfl holds [caller.other]
              (succeeded caller)
            have ended := succeeded caller
            rw [moves_cons, moves_cons, moves_nil, calls_move_of_ne caller.other_ne.symm,
              looked] at ended
            cases ended
        | cons next rest => exact Or.inr ⟨caller, next, rest, rfl⟩

/-! ### Two revocations over recorded peers -/

def ofTwo : Caller → RevListUpdate
  | .first => ⟨[0], "g"⟩
  | .second => ⟨[1], "h"⟩

/-- What each call publishes if both have found the list without revocations. -/
def ofTwoResult : Caller → RegistrationResult RevocationStatusList
  | .first => registered "c" (Recording.listOf [1, 0] "g" 101) ⟨none, "r", none⟩
  | .second => registered "c" (Recording.listOf [0, 1] "h" 101) ⟨none, "r", none⟩

/-- A call that begins where the list without revocations is stored finds it. -/
theorem ofTwo_move {updates : Caller → RevListUpdate} {race : Race (Option Version)}
    {caller : Caller} (waits : race.calls caller = .waiting)
    (stored : race.state = some Recording.unrevoked) :
    move Recording.ofTwo.peers .standard Recording.ofTwo.registry.id updates race caller =
      ⟨Function.update race.calls caller (.looked "c" Recording.unrevoked.list),
        some Recording.unrevoked⟩ := by
  obtain ⟨⟨current, ended, same⟩, after⟩ := Recording.ofTwo_finds.holds
  simp only [move, waits, stored, ended, after, same]

/-- Both calls look up, then both publish. -/
theorem ofTwo_succeeded (caller : Caller) :
    (moves Recording.ofTwo.peers .standard Recording.ofTwo.registry.id ofTwo
      (start (some Recording.unrevoked)) [.first, .second, .first, .second]).calls caller =
        .ended (.ok (ofTwoResult caller)) := by
  rw [moves_cons, ofTwo_move rfl rfl, moves_cons, ofTwo_move rfl rfl]
  cases caller <;> decide +kernel

/-! ### The end of a race -/

/-- How a race ends in which both calls succeed. If one of them publishes before the other looks up,
both revocations are in the list that is held at the end, under different versions; if both look up
first, only those of the later publication are, and all else is as they have found it. -/
theorem outcome (kept : ledger.KeptBy surroundings services)
    (serves : ledger.Serves surroundings services registry) (updates : Caller → RevListUpdate)
    (state : σ) (holds : ledger.Holds registry state list) (schedule : List Caller)
    (results : Caller → RegistrationResult RevocationStatusList)
    (succeeded : ∀ caller,
      (moves surroundings services registry.id updates (start state) schedule).calls caller =
        .ended (.ok (results caller))) :
    ∃ final : RevocationStatusList,
      ledger.Holds registry
        (moves surroundings services registry.id updates (start state) schedule).state final ∧
      final.revocationList.length = list.revocationList.length ∧
      ((∃ caller rest, schedule = caller :: caller :: rest ∧
          (∀ position, (∃ anyone, (updates anyone).Names position) →
            final.revocationList[position]? = some 1) ∧
          (∀ position, (¬ ∃ anyone, (updates anyone).Names position) →
            final.revocationList[position]? = list.revocationList[position]?) ∧
          ∃ earlier later, (results caller).state.value.timestamp = some earlier ∧
            (results caller.other).state.value.timestamp = some later ∧
            listVersion earlier ≠ listVersion later) ∨
        ∃ caller next rest, schedule = caller :: caller.other :: next :: rest ∧
          (∀ position, (updates next.other).Names position →
            final.revocationList[position]? = some 1) ∧
          (∀ position, ¬ (updates next.other).Names position →
            final.revocationList[position]? = list.revocationList[position]?)) := by
  rcases serial_or_overlap kept serves holds schedule succeeded with
    ⟨caller, rest, rfl⟩ | ⟨caller, next, rest, rfl⟩
  · obtain ⟨early, late, held⟩ := supersedes_of_serial kept serves holds rest succeeded
    refine ⟨_, held, late.length.trans early.length, Or.inl ⟨caller, rest, rfl, ?_, ?_, ?_⟩⟩
    · intro position named
      rw [late.entries, early.entries]
      by_cases other : (updates caller.other).Names position
      · rw [if_pos other]
      · have own : (updates caller).Names position := by
          obtain ⟨anyone, names⟩ := named
          by_cases here : anyone = caller
          · exact here ▸ names
          · exact absurd (Caller.eq_other here ▸ names) other
        rw [if_neg other, if_pos own]
    · intro position unnamed
      rw [late.entries, early.entries, if_neg fun names => unnamed ⟨_, names⟩,
        if_neg fun names => unnamed ⟨_, names⟩]
    · obtain ⟨earlier, stamp, -⟩ := early.later
      obtain ⟨later, last, above⟩ := late.later
      exact ⟨earlier, later, stamp, last, listVersion_ne (above earlier stamp)⟩
  · obtain ⟨supersedes, held⟩ :=
      supersedes_of_overlap kept serves holds caller next rest succeeded
    refine ⟨_, held, supersedes.length, Or.inr ⟨caller, next, rest, rfl, ?_, ?_⟩⟩
    · intro position names
      rw [supersedes.entries, if_pos names]
    · intro position unnamed
      rw [supersedes.entries, if_neg unnamed]

/-- If the two both look up first, the revocation of the first is lost. -/
theorem outcome_ofTwo :
    ∃ final, Recording.ofTwo.ledger.Holds Recording.ofTwo.registry
        (moves Recording.ofTwo.peers .standard Recording.ofTwo.registry.id ofTwo
          (start (some Recording.unrevoked)) [.first, .second, .first, .second]).state final ∧
      final.revocationList[0]? = some 0 ∧ final.revocationList[1]? = some 1 := by
  obtain ⟨final, held, -, ⟨caller, rest, serial, -⟩ |
      ⟨caller, next, rest, overlap, revoked, others⟩⟩ :=
    outcome Recording.ofTwo.keptBy Recording.ofTwo.serves ofTwo _ Recording.ofTwo_holds
      [.first, .second, .first, .second] ofTwoResult ofTwo_succeeded
  · cases caller <;> cases serial
  · cases caller with
    | first =>
        cases overlap
        exact ⟨final, held, others 0 (by decide), revoked 1 (by decide)⟩
    | second => cases overlap

/-- Two revocations that both succeed need not both be kept, and their versions need not differ. -/
theorem revocation_lost :
    ¬ ∀ (σ : Type) (ledger : Ledger σ) (surroundings : Surroundings σ) (services : Services)
      (registry : RevocationRegistry), ledger.KeptBy surroundings services →
      ledger.Serves surroundings services registry →
      ∀ (updates : Caller → RevListUpdate) (state : σ) (list : RevocationStatusList),
      ledger.Holds registry state list →
      ∀ (schedule : List Caller) (results : Caller → RegistrationResult RevocationStatusList),
      (∀ caller,
        (moves surroundings services registry.id updates (start state) schedule).calls caller =
          .ended (.ok (results caller))) →
      ∀ final : RevocationStatusList,
        ledger.Holds registry
          (moves surroundings services registry.id updates (start state) schedule).state final →
        (∀ caller position, (updates caller).Names position →
          final.revocationList[position]? = some 1) ∧
        (results .first).state.value.timestamp ≠ (results .second).state.value.timestamp := by
  intro always
  have overlap : ∀ caller, (moves Recording.ofTwo.peers .standard Recording.ofTwo.registry.id ofTwo
      (start (some Recording.unrevoked))
      [.first, Caller.other .first, .first, .second]).calls caller =
        .ended (.ok (ofTwoResult caller)) := by
    have second : Caller.other .first = .second := rfl
    rw [second]
    exact ofTwo_succeeded
  have held := (supersedes_of_overlap Recording.ofTwo.keptBy Recording.ofTwo.serves
    Recording.ofTwo_holds .first .first [.second] overlap).2
  have both := (always _ _ _ _ _ Recording.ofTwo.keptBy Recording.ofTwo.serves ofTwo _ _
    Recording.ofTwo_holds _ ofTwoResult ofTwo_succeeded _ held).1
  have kept : (ofTwoResult .second).state.value.revocationList[0]? = some 1 :=
    both .first 0 ⟨0, List.mem_singleton_self 0, rfl⟩
  have lost : (ofTwoResult .second).state.value.revocationList[0]? = some 0 := rfl
  rw [lost] at kept
  cases kept

end Race
end DidRegistry.AnonCreds
