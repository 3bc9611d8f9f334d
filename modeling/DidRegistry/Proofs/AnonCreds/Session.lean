import DidRegistry.Proofs.AnonCreds.Recording

/-!
Updates made one after the other. A session keeps an account of every call, successful or not; what
it makes of the list that is held when it begins is said by `Session.Accumulates`, which each call
extends in front (`of_failed`, `of_succeeded`).

Main statement: however many updates are made after a registration, no revocation is undone
(`revocations_accumulate`).
-/

namespace DidRegistry.AnonCreds

variable {σ : Type} {ledger : Ledger σ} {surroundings : Surroundings σ} {services : Services}
  {registry : RevocationRegistry} {state : σ}

/-- An update with what became of it. -/
structure Outcome where
  update : RevListUpdate
  result : Except Error (RegistrationResult RevocationStatusList)

/-- What became of updates that were made one after the other, and the state after the last. -/
structure Session (σ : Type) where
  outcomes : List Outcome
  state : σ

namespace Session

/-- Makes updates one after the other, each to its end. -/
def run (surroundings : Surroundings σ) (services : Services) (registryId : String) :
    List RevListUpdate → σ → Session σ
  | [], state => ⟨[], state⟩
  | update :: rest, state =>
    let call := (updateRevocationList services registryId update).run surroundings state
    let session := run surroundings services registryId rest call.state
    { session with outcomes := ⟨update, call.result⟩ :: session.outcomes }

/-- The lists that the successful updates have published, in order. -/
def versions (session : Session σ) : List RevocationStatusList :=
  session.outcomes.filterMap fun outcome => match outcome.result with
    | .ok registration => some registration.state.value
    | .error _ => none

/-- A successful update has revoked the credential with this index. -/
def Revokes (session : Session σ) (position : Nat) : Prop :=
  ∃ outcome ∈ session.outcomes, (∃ registration, outcome.result = .ok registration) ∧
    outcome.update.Names position

end Session

/-- A list takes effect before another. -/
def RevocationStatusList.Precedes (list next : RevocationStatusList) : Prop :=
  ∃ earlier later, list.timestamp = some earlier ∧ next.timestamp = some later ∧ earlier < later

/-- A session has turned one list into another: entries of successful updates are one, all others
are as they were, and the versions between the two ascend. -/
structure Session.Accumulates (session : Session σ) (list current : RevocationStatusList) :
    Prop where
  length : current.revocationList.length = list.revocationList.length
  revoked : ∀ position, session.Revokes position → current.revocationList[position]? = some 1
  others : ∀ position, ¬ session.Revokes position →
    current.revocationList[position]? = list.revocationList[position]?
  last : (list :: session.versions).getLast? = some current
  ascending : (list :: session.versions).Pairwise RevocationStatusList.Precedes

theorem RevocationStatusList.Precedes.trans {first second third : RevocationStatusList}
    (early : first.Precedes second) (late : second.Precedes third) : first.Precedes third := by
  obtain ⟨earlier, middle, stamp, stamped, before⟩ := early
  obtain ⟨_, later, again, last, after⟩ := late
  rw [stamped] at again
  cases again
  exact ⟨earlier, later, stamp, last, Int64.lt_trans before after⟩

theorem RevocationStatusList.Supersedes.precedes {list next : RevocationStatusList}
    {update : RevListUpdate} (supersedes : next.Supersedes list update)
    (holds : ledger.Holds registry state list) : list.Precedes next := by
  obtain ⟨-, -, earlier, stamp, -⟩ := holds
  obtain ⟨later, last, above⟩ := supersedes.later
  exact ⟨earlier, later, stamp, last, above earlier stamp⟩

/-- Without updates nothing changes. -/
theorem Session.accumulates_nil (list : RevocationStatusList) :
    Session.Accumulates ⟨[], state⟩ list list := by
  constructor <;> simp [Session.Revokes, Session.versions]

/-- A failed update adds nothing. -/
theorem Session.Accumulates.of_failed {session : Session σ} {update : RevListUpdate}
    {error : Error} {list current : RevocationStatusList}
    (accumulates : session.Accumulates list current) :
    Session.Accumulates { session with outcomes := ⟨update, .error error⟩ :: session.outcomes }
      list current := by
  have same : ∀ position, Session.Revokes
      { session with outcomes := ⟨update, .error error⟩ :: session.outcomes } position ↔
      session.Revokes position := by
    intro position
    simp [Session.Revokes]
  constructor
  case length => exact accumulates.length
  case revoked =>
      intro position revokes
      exact accumulates.revoked position ((same position).mp revokes)
  case others =>
      intro position untouched
      exact accumulates.others position fun revokes => untouched ((same position).mpr revokes)
  case last => exact accumulates.last
  case ascending => exact accumulates.ascending

/-- A successful update adds its revocations in front of those that follow. -/
theorem Session.Accumulates.of_succeeded {session : Session σ} {update : RevListUpdate}
    {registration : RegistrationResult RevocationStatusList} {list current : RevocationStatusList}
    (supersedes : registration.state.value.Supersedes list update)
    (precedes : list.Precedes registration.state.value)
    (accumulates : session.Accumulates registration.state.value current) :
    Session.Accumulates { session with outcomes := ⟨update, .ok registration⟩ :: session.outcomes }
      list current := by
  have either : ∀ position, Session.Revokes
      { session with outcomes := ⟨update, .ok registration⟩ :: session.outcomes } position ↔
      update.Names position ∨ session.Revokes position := by
    intro position
    simp [Session.Revokes]
  constructor
  case length => exact accumulates.length.trans supersedes.length
  case revoked =>
      intro position revokes
      by_cases later : session.Revokes position
      · exact accumulates.revoked position later
      · have names : update.Names position := ((either position).mp revokes).resolve_right later
        rw [accumulates.others position later, supersedes.entries, if_pos names]
  case others =>
      intro position untouched
      have neither := not_or.mp (mt (either position).mpr untouched)
      rw [accumulates.others position neither.2, supersedes.entries, if_neg neither.1]
  case last => exact accumulates.last
  case ascending =>
      refine List.Pairwise.cons ?_ accumulates.ascending
      intro version member
      rcases List.mem_cons.mp member with rfl | later
      · exact precedes
      · exact precedes.trans (List.rel_of_pairwise_cons accumulates.ascending later)

/-- What a session makes of the list that is held when it begins. The induction is on the updates;
after each, some list is held again. -/
theorem Session.run_accumulates (kept : ledger.KeptBy surroundings services)
    (serves : ledger.Serves surroundings services registry) {list : RevocationStatusList}
    (holds : ledger.Holds registry state list) (updates : List RevListUpdate) :
    ∃ current,
      ledger.Holds registry (run surroundings services registry.id updates state).state current ∧
      (run surroundings services registry.id updates state).Accumulates list current := by
  induction updates generalizing state list with
  | nil => exact ⟨list, holds, accumulates_nil list⟩
  | cons update rest ih =>
      have updated := (updateRevocationList_ensures kept serves holds update).holds
      simp only [run]
      cases ended : ((updateRevocationList services registry.id update).run surroundings
          state).result with
      | error error =>
          obtain ⟨current, held, accumulates⟩ := ih (holds.of_stored_eq (updated.2 error ended))
          exact ⟨current, held, accumulates.of_failed⟩
      | ok registration =>
          obtain ⟨supersedes, next⟩ := updated.1 registration ended
          obtain ⟨current, held, accumulates⟩ := ih next
          exact ⟨current, held, .of_succeeded supersedes (supersedes.precedes holds) accumulates⟩

/-- Once a list is registered, updates that are made one after the other keep its length and every
revocation, and add those that they name. The peers are only asked to keep a ledger and to serve the
registry from it; which calls succeed is up to them and to the wallet. After the last call the
ledger holds the last version that was published, its entries are one where a successful update has
named their index and otherwise as they were registered, and of all versions each takes effect after
the one before. A call that fails stores nothing. -/
theorem revocations_accumulate (kept : ledger.KeptBy surroundings services)
    (serves : ledger.Serves surroundings services registry) (initial : RevocationStatusList)
    (issued : initial.issuerId = registry.issuer) (ofRegistry : initial.revRegDefId = registry.id)
    (start : σ) (registration : RegistrationResult RevocationStatusList)
    (registered : ((registerRevocationList services initial).run surroundings start).result =
      .ok registration) (updates : List RevListUpdate) :
    let session := Session.run surroundings services registry.id updates
      ((registerRevocationList services initial).run surroundings start).state
    ∃ current, ledger.Holds registry session.state current ∧
      current.revocationList.length = initial.revocationList.length ∧
      (∀ position, session.Revokes position → current.revocationList[position]? = some 1) ∧
      (∀ position, ¬ session.Revokes position →
        current.revocationList[position]? = initial.revocationList[position]?) ∧
      (registration.state.value :: session.versions).getLast? = some current ∧
      (registration.state.value :: session.versions).Pairwise RevocationStatusList.Precedes ∧
      ∀ update error,
        ((updateRevocationList services registry.id update).run surroundings
          session.state).result = .error error →
        ledger.stored ((updateRevocationList services registry.id update).run surroundings
          session.state).state = ledger.stored session.state := by
  intro session
  have begun : Program.Ensures surroundings (registerRevocationList services initial) start
      (Registers ledger registry start fun list =>
        list.revocationList = initial.revocationList) :=
    registerRevocationList_ensures kept serves issued ofRegistry
  obtain ⟨entries, holds⟩ := begun.holds.1 registration registered
  obtain ⟨current, held, accumulates⟩ := Session.run_accumulates kept serves holds updates
  refine ⟨current, held, ?_, accumulates.revoked, ?_, accumulates.last, accumulates.ascending, ?_⟩
  · rw [accumulates.length, entries]
  · intro position untouched
    rw [accumulates.others position untouched, entries]
  · intro update error failed
    exact (updateRevocationList_ensures kept serves held update).holds.2 error failed

theorem Session.revokes_singleton {registryId : String} {update : RevListUpdate} {position : Nat} :
    (run surroundings services registryId [update] state).Revokes position ↔
      (∃ registration, ((updateRevocationList services registryId update).run surroundings
        state).result = .ok registration) ∧ update.Names position := by
  simp only [Revokes, run, List.mem_singleton, exists_eq_left]

/-- After the registration of a list of two, an update that succeeds for the first credential turns
its entry into one and leaves that of the second as it is. -/
theorem revocations_accumulate_ofTwo :
    ∃ current,
      Recording.ofTwo.ledger.Holds Recording.ofTwo.registry
        (Session.run Recording.ofTwo.peers .standard Recording.ofTwo.registry.id [⟨[0], "g"⟩]
          ((registerRevocationList .standard Recording.unrevoked.list).run Recording.ofTwo.peers
            none).state).state current ∧
      current.revocationList.length = 2 ∧ current.revocationList[0]? = some 1 ∧
      current.revocationList[1]? = some 0 := by
  obtain ⟨registered, stored⟩ := Recording.ofTwo_registers.holds
  obtain ⟨current, held, length, revoked, others, -⟩ :=
    revocations_accumulate Recording.ofTwo.keptBy Recording.ofTwo.serves Recording.unrevoked.list
      rfl rfl none _ registered [⟨[0], "g"⟩]
  refine ⟨current, held, length, revoked 0 (Session.revokes_singleton.mpr ⟨?_, by decide⟩),
    others 1 ?_⟩
  · rw [stored]
    exact Recording.ofTwo_updates.holds
  · intro revokes
    exact absurd (Session.revokes_singleton.mp revokes).2 (by decide)

end DidRegistry.AnonCreds
