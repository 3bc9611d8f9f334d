import DidRegistry.Proofs.Job.Exhaustion

/-!
What a registrar and a wallet answer, said of them and not of a run. A conversation that begins in
some state of the surroundings meets one reply after the other, as long as each asks for signatures
and the wallet gives them (`Protocol.Replies`); whether an operation goes through with it is another
matter.

Main statement: a dialogue meets these replies, up to the rounds allowed, and no others
(`Dialogue.replies_iff`).
-/

namespace DidRegistry

/-- Reply `k` to a conversation that goes on with this envelope, from this state of the
surroundings: the `k` replies before it ask for signatures, and the wallet gives them. -/
inductive Protocol.Replies {σ : Type} (protocol : Protocol) (surroundings : Surroundings σ) :
    Nat → Json → σ → Delivery → Prop where
  /-- The reply to the envelope itself. -/
  | first {envelope : Json} {state : σ} {delivery : Delivery}
      (given : (surroundings.answer (.fetch (Registrar.submission protocol.url envelope))
        state).1 = delivery) :
      Replies protocol surroundings 0 envelope state delivery
  /-- The reply to the envelope asks for signatures. The wallet binds all key IDs, if any are to be
  bound, and gives the signatures, which go on to be submitted. -/
  | next {k : Nat} {envelope : Json} {state middle : σ} {jobId : String}
      {requests : List SigningRequest} {responses : List SigningResponse}
      {delivery later : Delivery}
      (given : surroundings.Gives state
        (⟨.fetch (Registrar.submission protocol.url envelope), delivery⟩ ::
          (protocol.bindings requests ++ [⟨.sign requests, .ok responses⟩])) middle)
      (asks : protocol.Asks delivery jobId requests)
      (permuted : (responses.map (·.kid)).Perm (requests.map (·.kid)))
      (behind : Replies protocol surroundings k (protocol.resubmission jobId responses) middle
        later) :
      Replies protocol surroundings (k + 1) envelope state later

variable {σ : Type} {surroundings : Surroundings σ} {state final middle : σ}

/-- A single round meets its reply. -/
theorem Protocol.replies_of_single {protocol : Protocol} {envelope : Json} {one round : Round}
    {k : Nat} (sent : one.request = Registrar.submission protocol.url envelope)
    (given : surroundings.Gives state ([one].flatMap Round.exchanges) final)
    (found : [one][k]? = some round) :
    protocol.Replies surroundings k envelope state round.delivery := by
  cases k with
  | succ k => cases found
  | zero =>
      cases found
      rw [List.flatMap_singleton, Round.exchanges, sent] at given
      exact .first given.1

namespace Job

variable {job : Job} {url : Url} {maxRounds remaining total : Nat} {envelope opening : Json}
variable {rounds : List Round} {result : Except Error CompletedJob}
variable {requests : List SigningRequest}

/-- The calls of bindings that are cut short begin those of the whole batch. -/
theorem BindingRefused.calls_prefix {wallet : List Exchange} {reason : String}
    (refused : job.BindingRefused requests wallet reason)
    (answer : Except String (List SigningResponse)) :
    wallet.map Exchange.call <+:
      (job.bindings requests ++ [(⟨.sign requests, answer⟩ : Exchange)]).map Exchange.call := by
  obtain ⟨verkey, before, kid, after, key, split, rfl⟩ := refused
  simp only [bindings, key, split, Program.bindings, List.map_append, List.map_cons, List.map_nil,
    List.map_map]
  exact ⟨after.map (fun kid => .assignKid verkey kid) ++ [.sign requests], by simp⟩

/-- Where the wallet refuses to bind a key ID, it does not sign the batch. -/
theorem BindingRefused.not_gives {wallet : List Exchange} {reason : String}
    (refused : job.BindingRefused requests wallet reason)
    (given : surroundings.Gives state wallet final)
    {answer : Except String (List SigningResponse)} :
    ¬ surroundings.Gives state (job.bindings requests ++ [⟨.sign requests, answer⟩]) middle := by
  intro signs
  have begins := given.isPrefix signs (refused.calls_prefix answer)
  obtain ⟨verkey, before, kid, after, -, -, rfl⟩ := refused
  have member : (⟨.assignKid verkey kid, .error reason⟩ : Exchange) ∈
      job.bindings requests ++ [⟨.sign requests, answer⟩] :=
    begins.subset (List.mem_append_right _ (List.mem_singleton_self _))
  rcases List.mem_append.mp member with bound | last
  · obtain ⟨_, _, ⟨⟩⟩ := mem_bindings bound
  · cases List.mem_singleton.mp last

/-- The wallet gives one answer to a batch, and is in one state then. -/
theorem eq_of_gives_signing {answer other : Except String (List SigningResponse)}
    (given : surroundings.Gives state (job.bindings requests ++ [⟨.sign requests, answer⟩]) final)
    (also : surroundings.Gives state (job.bindings requests ++ [⟨.sign requests, other⟩]) middle) :
    answer = other ∧ final = middle := by
  have begins := given.isPrefix also (by simp)
  have same : [(⟨.sign requests, answer⟩ : Exchange)] = [⟨.sign requests, other⟩] :=
    List.append_cancel_left (begins.eq_of_length (by simp))
  cases same
  exact ⟨rfl, given.final_eq also⟩

/-- What a reply asks for is what its report leaves pending. -/
theorem pending_of_asks {delivery : Delivery} {response : JobResponse} {jobId : String}
    (asks : (job.protocol url total opening).Asks delivery jobId requests)
    (report : Registrar.received url job.endpoint delivery = .ok response) :
    job.pending response = .ok (jobId, requests) := by
  obtain ⟨_, received, waits⟩ := asks_iff.mp asks
  cases report.symm.trans received
  exact waits

namespace Dialogue

/-- A dialogue meets the replies of its rounds. -/
theorem replies_of_getElem?
    (dialogue : job.Dialogue url maxRounds remaining envelope rounds result)
    (given : surroundings.Gives state (rounds.flatMap Round.exchanges) final) {k : Nat}
    {round : Round} (found : rounds[k]? = some round) :
    (job.protocol url total opening).Replies surroundings k envelope state round.delivery := by
  induction dialogue generalizing k state with
  | unreported report => exact Protocol.replies_of_single rfl given found
  | ended report pending => exact Protocol.replies_of_single rfl given found
  | exhausted report pending => exact Protocol.replies_of_single rfl given found
  | unbound report pending refused => exact Protocol.replies_of_single rfl given found
  | unsigned report pending signed => exact Protocol.replies_of_single rfl given found
  | @answered _ _ _ response jobId requests answer responses _ _ report pending signed next ih =>
      rw [List.flatMap_cons] at given
      cases k with
      | zero =>
          cases found
          exact .first given.1
      | succ k =>
          obtain ⟨middle, first, later⟩ := Surroundings.gives_append.mp given
          obtain ⟨rfl, permuted⟩ := signed_eq_ok_iff.mp signed
          exact .next first (asks_iff.mpr ⟨response, report, pending⟩) permuted (ih later found)

/-- As long as rounds are left, a dialogue goes on with every reply. -/
theorem exists_getElem?_of_replies
    (dialogue : job.Dialogue url maxRounds remaining envelope rounds result)
    (given : surroundings.Gives state (rounds.flatMap Round.exchanges) final) {k : Nat}
    {delivery : Delivery} (within : k ≤ remaining)
    (replies : (job.protocol url total opening).Replies surroundings k envelope state delivery) :
    ∃ round, rounds[k]? = some round ∧ round.delivery = delivery := by
  induction dialogue generalizing k state with
  | unreported report =>
      cases replies with
      | first same => exact ⟨_, rfl, given.1.symm.trans same⟩
      | next also asks =>
          cases given.1.symm.trans also.1
          obtain ⟨response, received, -⟩ := asks_iff.mp asks
          cases report.symm.trans received
  | ended report pending =>
      cases replies with
      | first same => exact ⟨_, rfl, given.1.symm.trans same⟩
      | next also asks =>
          cases given.1.symm.trans also.1
          cases pending.symm.trans (pending_of_asks asks report)
  | exhausted report pending =>
      cases replies with
      | first same => exact ⟨_, rfl, given.1.symm.trans same⟩
      | next => cases within
  -- Here and below, the wallet is asked in the same state by the dialogue and for the reply, so its
  -- answers are the same.
  | unbound report pending refused =>
      cases replies with
      | first same => exact ⟨_, rfl, given.1.symm.trans same⟩
      | next also asks =>
          cases given.1.symm.trans also.1
          cases pending.symm.trans (pending_of_asks asks report)
          rw [List.flatMap_singleton] at given
          exact absurd also.2 (refused.not_gives given.2)
  | unsigned report pending failed =>
      cases replies with
      | first same => exact ⟨_, rfl, given.1.symm.trans same⟩
      | next also asks permuted =>
          cases given.1.symm.trans also.1
          cases pending.symm.trans (pending_of_asks asks report)
          rw [List.flatMap_singleton] at given
          obtain ⟨rfl, -⟩ := eq_of_gives_signing given.2 also.2
          cases failed.symm.trans (signed_eq_ok_iff.mpr ⟨rfl, permuted⟩)
  | answered report pending signed next ih =>
      rw [List.flatMap_cons] at given
      obtain ⟨middle, first, later⟩ := Surroundings.gives_append.mp given
      cases replies with
      | first same => exact ⟨_, rfl, first.1.symm.trans same⟩
      | next also asks permuted behind =>
          cases first.1.symm.trans also.1
          cases pending.symm.trans (pending_of_asks asks report)
          obtain ⟨rfl, rfl⟩ := eq_of_gives_signing first.2 also.2
          cases signed.symm.trans (signed_eq_ok_iff.mpr ⟨rfl, permuted⟩)
          exact ih later (Nat.le_of_succ_le_succ within) behind

/-- Up to the rounds allowed, a dialogue meets the replies of its rounds and no others. -/
theorem replies_iff (dialogue : job.Dialogue url maxRounds remaining envelope rounds result)
    (given : surroundings.Gives state (rounds.flatMap Round.exchanges) final) {k : Nat}
    {delivery : Delivery} (within : k ≤ remaining) :
    (job.protocol url total opening).Replies surroundings k envelope state delivery ↔
      ∃ round, rounds[k]? = some round ∧ round.delivery = delivery := by
  constructor
  · exact dialogue.exists_getElem?_of_replies given within
  · rintro ⟨round, found, rfl⟩
    exact dialogue.replies_of_getElem? given found

/-- A job is given up exactly if the reply behind the last round allowed asks for signatures. -/
theorem exhausted_iff_replies
    (dialogue : job.Dialogue url maxRounds remaining envelope rounds result)
    (given : surroundings.Gives state (rounds.flatMap Round.exchanges) final)
    {jobId : String} {limit : Nat} :
    result = .error (.protocolExhausted jobId limit) ↔ limit = maxRounds ∧ ∃ delivery requests,
      (job.protocol url total opening).Replies surroundings remaining envelope state delivery ∧
      job.endpoint.Asks delivery jobId requests := by
  rw [dialogue.exhausted_iff]
  refine and_congr_right fun _ => ?_
  constructor
  · rintro ⟨round, requests, found, asks⟩
    exact ⟨round.delivery, requests,
      (dialogue.replies_iff given (Nat.le_refl _)).mpr ⟨round, found, rfl⟩, asks⟩
  · rintro ⟨delivery, requests, replies, asks⟩
    obtain ⟨round, found, rfl⟩ := (dialogue.replies_iff given (Nat.le_refl _)).mp replies
    exact ⟨round, requests, found, asks⟩

/-- A job finishes exactly if a reply within the rounds allowed reports it as finished. -/
theorem finished_iff_replies
    (dialogue : job.Dialogue url maxRounds remaining envelope rounds result)
    (given : surroundings.Gives state (rounds.flatMap Round.exchanges) final)
    {completed : CompletedJob} :
    result = .ok completed ↔ ∃ k ≤ remaining, ∃ delivery,
      (job.protocol url total opening).Replies surroundings k envelope state delivery ∧
      job.endpoint.Reports delivery ⟨completed.jobId, .finished completed.outcome⟩ := by
  constructor
  · rintro rfl
    obtain ⟨earlier, request, delivery, rfl, reports⟩ := dialogue.reported
    have within := dialogue.length_le
    rw [List.length_append, List.length_singleton, Nat.add_le_add_iff_right] at within
    refine ⟨earlier.length, within, delivery, ?_, reports⟩
    exact (dialogue.replies_iff given within).mpr ⟨_, List.getElem?_concat_length, rfl⟩
  · rintro ⟨k, within, delivery, replies, reports⟩
    obtain ⟨round, found, rfl⟩ := (dialogue.replies_iff given within).mp replies
    exact dialogue.finished (List.mem_of_getElem? found) reports

end Dialogue
end Job
end DidRegistry
