import DidRegistry.Job.Rounds
import DidRegistry.Proofs.Interaction.Trace

/-!
Counting rounds in a machine word. `Job.drive` counts the rounds that are left downwards and has
nothing that could overflow; `Job.driveCounted` counts those that have begun upwards, in a word of
some width, and gives up once the word cannot hold the count.

Main statement: for every limit that a word can hold the two are the same program
(`driveCounted_eq`), so the count never overflows.
-/

namespace DidRegistry.Job

variable {width : Nat}

/-- The count of one round more, unless the word is full. -/
def nextRound? (rounds : BitVec width) : Option (BitVec width) :=
  if rounds = BitVec.allOnes width then none else some (rounds + BitVec.ofNat width 1)

/-- A word that is not full is below the greatest. -/
theorem toNat_lt_allOnes {rounds : BitVec width} (room : rounds ≠ BitVec.allOnes width) :
    rounds.toNat < (BitVec.allOnes width).toNat := by
  have bound := rounds.isLt
  have distinct : rounds.toNat ≠ (BitVec.allOnes width).toNat :=
    fun greatest => room (BitVec.eq_of_toNat_eq greatest)
  rw [BitVec.toNat_allOnes] at distinct ⊢
  omega

theorem toNat_nextRound {rounds next : BitVec width} (counted : nextRound? rounds = some next) :
    next.toNat = rounds.toNat + 1 := by
  unfold nextRound? at counted
  split at counted
  · cases counted
  · rename_i room
    cases counted
    have below := toNat_lt_allOnes room
    rw [BitVec.toNat_allOnes] at below
    have fits : rounds.toNat + 1 < 2 ^ width := by omega
    have one : 1 < 2 ^ width := by omega
    rw [BitVec.toNat_add, BitVec.toNat_ofNat, Nat.mod_eq_of_lt one, Nat.mod_eq_of_lt fits]

/-- Below a limit that a word can hold there is always a next count. -/
theorem exists_nextRound_of_lt {rounds limit : BitVec width} (below : rounds.toNat < limit.toNat) :
    ∃ next, nextRound? rounds = some next := by
  have bound := limit.isLt
  have room : rounds ≠ BitVec.allOnes width := by
    rintro rfl
    rw [BitVec.toNat_allOnes] at below
    omega
  exact ⟨_, if_neg room⟩

/-- Answers reports until the job ends, when so many rounds have begun; `none` if the count of
rounds overflows. -/
def driveCounted (job : Job) (base : Url) (limit rounds : BitVec width) (response : JobResponse) :
    Program (Option CompletedJob) :=
  match job.pending response with
  | .error ending => (Program.ofExcept ending).bind fun completed => .done (some completed)
  | .ok (jobId, requests) =>
    if limit.toNat ≤ rounds.toNat then .fail (.protocolExhausted jobId rounds.toNat)
    else match _counted : nextRound? rounds with
      | none => .done none
      | some next => (job.answer base jobId requests).bind (job.driveCounted base limit next)
termination_by limit.toNat - rounds.toNat
decreasing_by
  have advanced := toNat_nextRound _counted
  omega

/-- The recursion is on the rounds that are left. -/
theorem driveCounted_eq (job : Job) (base : Url) (limit rounds : BitVec width) (remaining : Nat)
    (left : rounds.toNat + remaining = limit.toNat) (response : JobResponse) :
    job.driveCounted base limit rounds response =
      (job.drive base limit.toNat remaining response).bind fun completed =>
        .done (some completed) := by
  induction remaining generalizing rounds response with
  | zero =>
      rw [driveCounted, drive]
      cases job.pending response with
      | error ending => rfl
      | ok batch =>
          have same : rounds.toNat = limit.toNat := by omega
          simp only [same, Nat.le_refl, if_true]
          rfl
  | succ remaining ih =>
      rw [driveCounted, drive]
      cases job.pending response with
      | error ending => rfl
      | ok batch =>
          have below : rounds.toNat < limit.toNat := by omega
          obtain ⟨next, counted⟩ := exists_nextRound_of_lt below
          have advanced := toNat_nextRound counted
          have rest : job.driveCounted base limit next =
              fun response => (job.drive base limit.toNat remaining response).bind
                fun completed => .done (some completed) :=
            funext (ih next (by omega))
          simp only [if_neg (Nat.not_le.mpr below)]
          split
          · rename_i overflow
            rw [counted] at overflow
            cases overflow
          · rename_i other found
            rw [counted] at found
            cases found
            rw [rest, Program.bind_assoc]

end DidRegistry.Job
