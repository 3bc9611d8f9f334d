import DidRegistry.Signing
import Mathlib.Data.List.Perm.Basic

/-!
What the check of a batch of signatures decides. The check walks through the key IDs of the
signatures and takes each from the requested ones that still wait; it never compares multisets.

* `check_eq_ok_iff`: it accepts exactly the batches whose key IDs are those of the requests, in any
  order, each as often as it was asked for.
* `check_eq_error_iff`: of a batch of the right length it rejects the first key ID that has come
  more often than it was asked for (`FirstOverdrawn`).
-/

namespace DidRegistry.Signing

/-- At this position of `kids` a key ID has come more often than it stands in `requested`. -/
def Overdrawn (requested kids : List String) (position : Nat) (kid : String) : Prop :=
  kids[position]? = some kid ∧ requested.count kid < (kids.take (position + 1)).count kid

/-- No earlier position is overdrawn. -/
def FirstOverdrawn (requested kids : List String) (position : Nat) (kid : String) : Prop :=
  Overdrawn requested kids position kid ∧
    ∀ earlier < position, ∀ other, ¬ Overdrawn requested kids earlier other

/-- How a key ID that comes too often is reported. -/
def surplus (requested : List String) (kid : String) : Mismatch :=
  if kid ∈ requested then .duplicate kid else .unexpected kid

variable {requested waiting rest : List String} {kid other : String} {position : Nat}

theorem overdrawn_zero_iff :
    Overdrawn waiting (kid :: rest) 0 other ↔ kid = other ∧ kid ∉ waiting := by
  constructor
  · rintro ⟨found, excess⟩
    simp only [List.getElem?_cons_zero, Option.some.injEq] at found
    subst found
    refine ⟨rfl, fun waits => ?_⟩
    have asked := List.count_pos_iff.mpr waits
    simp only [Nat.zero_add, List.take_succ_cons, List.take_zero,
      List.count_singleton_self] at excess
    omega
  · rintro ⟨rfl, absent⟩
    refine ⟨rfl, ?_⟩
    simp [List.count_eq_zero_of_not_mem absent]

/-- Behind a key ID that waited, positions are overdrawn with respect to what waits then. -/
theorem overdrawn_succ_iff (waits : kid ∈ waiting) :
    Overdrawn waiting (kid :: rest) (position + 1) other ↔
      Overdrawn (waiting.erase kid) rest position other := by
  have erased : (waiting.erase kid).count other + (if kid = other then 1 else 0) =
      waiting.count other := by
    rw [List.count_erase]
    by_cases same : kid = other
    · subst same
      have asked := List.count_pos_iff.mpr waits
      simp only [beq_self_eq_true, if_true]
      omega
    · simp [same]
  have counted : ((kid :: rest).take (position + 1 + 1)).count other =
      (rest.take (position + 1)).count other + (if kid = other then 1 else 0) := by
    simp [List.take_succ_cons, List.count_cons]
  unfold Overdrawn
  rw [List.getElem?_cons_succ, counted]
  constructor
  · rintro ⟨found, excess⟩
    exact ⟨found, by omega⟩
  · rintro ⟨found, excess⟩
    exact ⟨found, by omega⟩

theorem firstOverdrawn_succ_iff (waits : kid ∈ waiting) :
    FirstOverdrawn waiting (kid :: rest) (position + 1) other ↔
      FirstOverdrawn (waiting.erase kid) rest position other := by
  unfold FirstOverdrawn
  rw [overdrawn_succ_iff waits]
  constructor
  · rintro ⟨excess, first⟩
    refine ⟨excess, fun earlier before another excessEarlier => ?_⟩
    exact first (earlier + 1) (by omega) another ((overdrawn_succ_iff waits).mpr excessEarlier)
  · rintro ⟨excess, first⟩
    refine ⟨excess, fun earlier before another excessEarlier => ?_⟩
    cases earlier with
    | zero => exact (overdrawn_zero_iff.mp excessEarlier).2 waits
    | succ earlier =>
        exact first earlier (by omega) another ((overdrawn_succ_iff waits).mp excessEarlier)

/-- The walk rejects exactly the first overdrawn key ID. -/
theorem firstSurplus_eq_some_iff {kids : List String} {mismatch : Mismatch} :
    firstSurplus requested waiting kids = some mismatch ↔
      ∃ position kid, FirstOverdrawn waiting kids position kid ∧
        mismatch = surplus requested kid := by
  induction kids generalizing waiting with
  | nil => simp [firstSurplus, FirstOverdrawn, Overdrawn]
  | cons kid rest ih =>
      by_cases waits : kid ∈ waiting
      · rw [firstSurplus, if_pos waits, ih]
        constructor
        · rintro ⟨position, other, first, rfl⟩
          exact ⟨position + 1, other, (firstOverdrawn_succ_iff waits).mpr first, rfl⟩
        · rintro ⟨position, other, first, rfl⟩
          cases position with
          | zero => exact absurd waits (overdrawn_zero_iff.mp first.1).2
          | succ position => exact ⟨position, other, (firstOverdrawn_succ_iff waits).mp first, rfl⟩
      · have here : Overdrawn waiting (kid :: rest) 0 kid := overdrawn_zero_iff.mpr ⟨rfl, waits⟩
        have reported : firstSurplus requested waiting (kid :: rest) =
            some (surplus requested kid) := by
          rw [firstSurplus, if_neg waits, surplus]
          split <;> rfl
        rw [reported, Option.some.injEq]
        constructor
        · rintro rfl
          exact ⟨0, kid, ⟨here, fun _ before => absurd before (Nat.not_lt_zero _)⟩, rfl⟩
        · rintro ⟨position, other, ⟨excess, first⟩, rfl⟩
          cases position with
          | zero => rw [(overdrawn_zero_iff.mp excess).1]
          | succ position => exact absurd here (first 0 (Nat.succ_pos _) kid)

/-- The walk accepts exactly what can be taken from the key IDs that wait. -/
theorem firstSurplus_eq_none_iff {kids : List String} :
    firstSurplus requested waiting kids = none ↔ kids.Subperm waiting := by
  induction kids generalizing waiting with
  | nil => simp [firstSurplus]
  | cons kid rest ih =>
      by_cases waits : kid ∈ waiting
      · rw [firstSurplus, if_pos waits, ih]
        have regained : (kid :: waiting.erase kid).Perm waiting :=
          (List.perm_cons_erase waits).symm
        rw [← List.Perm.subperm_left regained, List.subperm_cons]
      · rw [firstSurplus, if_neg waits]
        constructor
        · intro accepted
          split at accepted <;> cases accepted
        · intro taken
          exact absurd (taken.subset List.mem_cons_self) waits

variable {requests : List SigningRequest} {responses accepted : List SigningResponse}

/-- A batch is accepted exactly if its key IDs are a permutation of the requested ones. That none is
overdrawn suffices, since there are as many signatures as requests. -/
theorem check_eq_ok_iff :
    check requests responses = .ok accepted ↔
      (responses.map (·.kid)).Perm (requests.map (·.kid)) ∧ accepted = responses := by
  unfold check
  by_cases sameLength : responses.length = requests.length
  · simp only [sameLength, ne_eq, not_true_eq_false, if_false]
    cases walk : firstSurplus (requests.map (·.kid)) (requests.map (·.kid))
        (responses.map (·.kid)) with
    | some mismatch =>
        simp only [reduceCtorEq, false_iff, not_and]
        intro permuted
        rw [firstSurplus_eq_none_iff.mpr permuted.subperm] at walk
        cases walk
    | none =>
        have permuted : (responses.map (·.kid)).Perm (requests.map (·.kid)) :=
          (firstSurplus_eq_none_iff.mp walk).perm_of_length_le (by simp [sameLength])
        simp only [Except.ok.injEq, permuted, true_and]
        exact eq_comm
  · simp only [ne_eq, sameLength, not_false_eq_true, if_true, reduceCtorEq, false_iff, not_and]
    intro permuted
    exact absurd (by simpa using permuted.length_eq) sameLength

theorem check_of_length_ne (otherLength : responses.length ≠ requests.length) :
    check requests responses = .error (.count requests.length responses.length) := by
  simp [check, otherLength]

/-- A batch with as many signatures as requests is rejected at its first overdrawn key ID. -/
theorem check_eq_error_iff {mismatch : Mismatch}
    (sameLength : responses.length = requests.length) :
    check requests responses = .error mismatch ↔
      ∃ position kid, FirstOverdrawn (requests.map (·.kid)) (responses.map (·.kid)) position kid ∧
        mismatch = surplus (requests.map (·.kid)) kid := by
  rw [← firstSurplus_eq_some_iff]
  simp only [check, sameLength, ne_eq, not_true_eq_false, if_false]
  cases firstSurplus (requests.map (·.kid)) (requests.map (·.kid)) (responses.map (·.kid)) <;> simp

/-- A batch is accepted or rejected. -/
theorem exists_mismatch_of_not_perm
    (unmatched : ¬ (responses.map (·.kid)).Perm (requests.map (·.kid))) :
    ∃ mismatch, check requests responses = .error mismatch := by
  cases checked : check requests responses with
  | error mismatch => exact ⟨mismatch, rfl⟩
  | ok accepted => exact absurd (check_eq_ok_iff.mp checked).1 unmatched

end DidRegistry.Signing
