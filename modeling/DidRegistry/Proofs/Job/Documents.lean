import DidRegistry.Proofs.Job.Exhaustion

/-!
What the rounds of a job consist of: the documents that they send, and the wallet's part in them.

* The first document is the envelope of the job, and every other one submits signatures with the
  context of the job (`Dialogue.documents_eq`).
* Right before a batch is signed its keys are bound, behind the submission that begins the round
  (`Dialogue.bound_before_signing`).
-/

namespace DidRegistry

namespace Round

/-- A submission in a sequence of whole rounds is that of one of them. -/
theorem exists_of_mem_flatMap {rounds : List Round} (whole : ∀ round ∈ rounds, round.IsWhole)
    {exchange : Exchange} (member : exchange ∈ rounds.flatMap exchanges)
    (submits : exchange.isSubmission = true) :
    ∃ round ∈ rounds, exchange = ⟨.fetch round.request, round.delivery⟩ := by
  obtain ⟨round, among, within⟩ := List.mem_flatMap.mp member
  rcases List.mem_cons.mp within with rfl | wallet
  · exact ⟨round, among, rfl⟩
  · rw [(whole round among).silent exchange wallet] at submits
    cases submits

/-- The document of a whole round. -/
theorem IsWhole.documents {round : Round} (whole : round.IsWhole) :
    round.exchanges.filterMap Exchange.document? = round.request.body.toList := by
  have silent : round.wallet.filterMap Exchange.document? = [] := by
    rw [List.filterMap_eq_nil_iff]
    intro exchange member
    have none := whole.silent exchange member
    rwa [Exchange.isSubmission, Option.isSome_eq_false_iff, Option.isNone_iff_eq_none] at none
  have sent : Exchange.document? ⟨.fetch round.request, round.delivery⟩ = round.request.body := rfl
  rw [exchanges, List.filterMap_cons, silent, sent]
  cases round.request.body <;> rfl

/-- An exchange in a sequence of rounds stands in one of them. -/
theorem exists_of_flatMap_eq {rounds : List Round} {before after : List Exchange}
    {exchange : Exchange} (split : rounds.flatMap exchanges = before ++ exchange :: after) :
    ∃ round ∈ rounds, ∃ earlier front behind, before = earlier ++ front ∧
      round.exchanges = front ++ exchange :: behind := by
  induction rounds generalizing before with
  | nil => cases before <;> cases split
  | cons round rounds ih =>
      have among : ∀ {front : List Exchange},
          rounds.flatMap exchanges = front ++ exchange :: after →
          ∃ other ∈ round :: rounds, ∃ earlier within behind,
            round.exchanges ++ front = earlier ++ within ∧
              other.exchanges = within ++ exchange :: behind := by
        intro front later
        obtain ⟨other, member, earlier, within, behind, rfl, stands⟩ := ih later
        exact ⟨other, List.mem_cons_of_mem _ member, round.exchanges ++ earlier, within, behind,
          (List.append_assoc ..).symm, stands⟩
      rw [List.flatMap_cons] at split
      rcases List.append_eq_append_iff.mp split with ⟨front, rfl, later⟩ | ⟨rest, within, cut⟩
      · exact among later
      · cases rest with
        | nil =>
            rw [List.append_nil] at within
            rw [← within]
            simpa using @among [] cut.symm
        | cons first behind =>
            cases cut
            exact ⟨round, List.mem_cons_self .., [], before, behind, rfl, within⟩

end Round

namespace Job

variable {job : Job}

/-- Where nothing is signed, no batch is. -/
theorem ne_signing {exchanges bound rest : List Exchange} {requests : List SigningRequest}
    {answer : Except String (List SigningResponse)}
    (silent : ∀ exchange ∈ exchanges, exchange.isSigning = false) :
    exchanges ≠ bound ++ ⟨.sign requests, answer⟩ :: rest := by
  rintro rfl
  cases silent ⟨.sign requests, answer⟩ (by simp)

/-- Bindings ask for no signatures, so a batch is signed only behind all of its own. -/
theorem bound_of_signing {batch requests : List SigningRequest}
    {one other : Except String (List SigningResponse)} {bound rest : List Exchange}
    (same : job.bindings batch ++ [⟨.sign batch, one⟩] =
      bound ++ ⟨.sign requests, other⟩ :: rest) :
    bound = job.bindings requests := by
  have silent : ∀ exchange ∈ job.bindings batch, exchange.isSigning = false := by
    intro exchange member
    obtain ⟨verkey, kid, rfl⟩ := mem_bindings member
    rfl
  rcases List.append_eq_append_iff.mp same with ⟨front, rfl, last⟩ | ⟨behind, within, cut⟩
  · cases front with
    | nil =>
        cases last
        exact List.append_nil _
    | cons first front => cases front <;> cases last
  · cases behind with
    | nil =>
        cases cut
        rw [List.append_nil] at within
        exact within.symm
    | cons first behind =>
        cases cut
        exact (ne_signing silent within).elim

end Job

namespace Job.Dialogue

variable {job : Job} {url : Url} {maxRounds remaining : Nat} {envelope : Json}
variable {rounds : List Round} {result : Except Error CompletedJob}

/-- What every document of a job has in common: its envelope has it, and every submission of
signatures. -/
theorem documents (dialogue : job.Dialogue url maxRounds remaining envelope rounds result)
    {common : Json → Prop} (opening : common envelope)
    (others : ∀ jobId responses, common (Envelope.signatures jobId job.context responses)) :
    ∀ round ∈ rounds, ∃ document, round.request.body = some document ∧ common document := by
  induction dialogue with
  | answered report pending signed next ih =>
      intro round member
      rcases List.mem_cons.mp member with rfl | later
      · exact ⟨_, rfl, opening⟩
      · exact ih (others _ _) round later
  | _ =>
      intro round member
      rw [List.mem_singleton.mp member]
      exact ⟨_, rfl, opening⟩

/-- The first document of a job is its envelope. -/
theorem findSome?_document?
    (dialogue : job.Dialogue url maxRounds remaining envelope rounds result) :
    (rounds.flatMap Round.exchanges).findSome? Exchange.document? = some envelope := by
  cases dialogue <;> rfl

/-- The documents of a job are its envelope and, from then on, submissions of signatures. -/
theorem documents_eq (dialogue : job.Dialogue url maxRounds remaining envelope rounds result) :
    ∃ others, (rounds.flatMap Round.exchanges).filterMap Exchange.document? = envelope :: others ∧
      ∀ other ∈ others, ∃ jobId responses,
        other = Envelope.signatures jobId job.context responses := by
  have single : ∀ {document : Json} {round : Round}, round.IsWhole →
      round.request.body = some document →
      ([round].flatMap Round.exchanges).filterMap Exchange.document? = [document] := by
    intro document round whole sent
    rw [List.flatMap_singleton, whole.documents, sent]
    rfl
  have whole := dialogue.isWhole
  induction dialogue with
  | @answered _ _ _ _ jobId _ _ responses _ _ report pending signed next ih =>
      obtain ⟨others, sent, submitted⟩ :=
        ih fun round member => whole round (List.mem_cons_of_mem _ member)
      refine ⟨Envelope.signatures jobId job.context responses :: others, ?_, ?_⟩
      · rw [List.flatMap_cons, List.filterMap_append, sent,
          (whole _ (List.mem_cons_self ..)).documents]
        rfl
      · rw [List.forall_mem_cons]
        exact ⟨⟨_, _, rfl⟩, submitted⟩
  | _ => exact ⟨[], single (whole _ (List.mem_singleton_self _)) rfl, by simp⟩

/-- Whatever stands in the wallet's part of a round before a batch is signed, it is the bindings of
this batch. -/
theorem bound_in_round (dialogue : job.Dialogue url maxRounds remaining envelope rounds result) :
    ∀ round ∈ rounds, ∀ bound requests answer rest,
      round.wallet = bound ++ ⟨.sign requests, answer⟩ :: rest → bound = job.bindings requests := by
  intro round member bound requests answer rest same
  induction dialogue with
  | unbound report pending refused =>
      rw [List.mem_singleton.mp member] at same
      refine (ne_signing ?_ same).elim
      intro exchange among
      obtain ⟨verkey, kid, answer, rfl⟩ := refused.mem among
      rfl
  | unsigned report pending failed =>
      rw [List.mem_singleton.mp member] at same
      exact bound_of_signing same
  | answered report pending accepted next ih =>
      rcases List.mem_cons.mp member with rfl | later
      · exact bound_of_signing same
      · exact ih later
  | _ =>
      rw [List.mem_singleton.mp member] at same
      exact (ne_signing (by simp) same).elim

/-- Right before a batch is signed its keys are bound, and right before that the round has begun
with a submission. -/
theorem bound_before_signing
    (dialogue : job.Dialogue url maxRounds remaining envelope rounds result)
    {before after : List Exchange} {requests : List SigningRequest}
    {answer : Except String (List SigningResponse)}
    (split : rounds.flatMap Round.exchanges = before ++ ⟨.sign requests, answer⟩ :: after) :
    ∃ earlier request, ∃ delivery : Delivery, request.body.isSome = true ∧
      before = earlier ++ ⟨.fetch request, delivery⟩ :: job.bindings requests := by
  obtain ⟨round, member, earlier, front, behind, rfl, stands⟩ := Round.exists_of_flatMap_eq split
  cases front with
  | nil => cases stands
  | cons first bound =>
      obtain ⟨rfl, wallet⟩ := List.cons.inj stands
      rw [dialogue.bound_in_round round member bound requests answer behind wallet]
      exact ⟨earlier, round.request, round.delivery, (dialogue.isWhole round member).submits, rfl⟩

end Job.Dialogue
end DidRegistry
