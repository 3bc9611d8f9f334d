import DidRegistry.Proofs.AnonCreds.StatusList

/-!
Revoking many credentials at once. Which entries are one afterwards depends on the set of the
indexes only (`foldl_set_congr`), and two lists of indexes, one after the other, are one list
(`revoke_append`). A list that is held elsewhere is written only after all indexes have been looked
at, so that a refusal leaves it as it was (`revokeInPlace_run`).

Main statement: `revoke_in_bulk`.
-/

namespace DidRegistry.AnonCreds.RevocationStatusList

/-- The list has an entry for each of the indexes. -/
def Covers (list : RevocationStatusList) (indexes : List UInt32) : Prop :=
  ∀ index ∈ indexes, index.toNat < list.revocationList.length

instance (list : RevocationStatusList) (indexes : List UInt32) : Decidable (list.Covers indexes) :=
  List.decidableBAll (fun index : UInt32 => index.toNat < list.revocationList.length) indexes

/-- What is said of an index without entry in a list of this size. -/
def outside (size : Nat) (index : UInt32) : Error :=
  .invalidInput s!"credential index {index.toNat} is outside a list of {size}"

/-! ### Refusals -/

/-- A list of indexes is refused for the first of them that has no entry, and for nothing else. -/
theorem revoke_eq_error_iff {list : RevocationStatusList} {indexes : List UInt32} {error : Error} :
    list.revoke indexes = .error error ↔
      ∃ before index after, indexes = before ++ index :: after ∧ list.Covers before ∧
        list.revocationList.length ≤ index.toNat ∧
        error = outside list.revocationList.length index := by
  have first : list.revoke indexes = .error error ↔
      ∃ index, indexes.find? (list.revocationList.length ≤ ·.toNat) = some index ∧
        error = outside list.revocationList.length index := by
    simp only [revoke]
    cases indexes.find? (list.revocationList.length ≤ ·.toNat) with
    | none => simp
    | some index => simp [outside, eq_comm]
  rw [first]
  constructor
  · rintro ⟨index, found, rfl⟩
    obtain ⟨beyond, before, after, rfl, inside⟩ := List.find?_eq_some_iff_append.mp found
    refine ⟨before, index, after, rfl, ?_, by simpa using beyond, rfl⟩
    intro earlier member
    simpa using inside earlier member
  · rintro ⟨before, index, after, rfl, inside, beyond, rfl⟩
    refine ⟨index, List.find?_eq_some_iff_append.mpr
      ⟨by simpa using beyond, before, after, rfl, ?_⟩, rfl⟩
    intro earlier member
    simpa using inside earlier member

theorem exists_revoke_iff {list : RevocationStatusList} {indexes : List UInt32} :
    (∃ revoked, list.revoke indexes = .ok revoked) ↔ list.Covers indexes := by
  constructor
  · rintro ⟨revoked, revokes⟩
    exact (revoke_eq_ok_iff.mp revokes).1
  · intro covers
    exact ⟨_, revoke_eq_ok_iff.mpr ⟨covers, rfl⟩⟩

/-! ### Sets of indexes -/

/-- Which entries are written depends on the set of the indexes only. -/
theorem foldl_set_congr {indexes others : List UInt32}
    (same : ∀ index, index ∈ indexes ↔ index ∈ others) (entries : List UInt8) :
    indexes.foldl (fun entries index => entries.set index.toNat 1) entries =
      others.foldl (fun entries index => entries.set index.toNat 1) entries := by
  refine List.ext_getElem? fun position => ?_
  simp only [getElem?_foldl_set, same]

/-- The result of a revocation depends on the set of the indexes only. -/
theorem revoke_of_same {list revoked : RevocationStatusList} {indexes others : List UInt32}
    (same : ∀ index, index ∈ indexes ↔ index ∈ others)
    (revokes : list.revoke indexes = .ok revoked) : list.revoke others = .ok revoked := by
  obtain ⟨covers, rfl⟩ := revoke_eq_ok_iff.mp revokes
  refine revoke_eq_ok_iff.mpr ⟨fun index member => covers index ((same index).mpr member), ?_⟩
  rw [foldl_set_congr same]

/-- Two lists of indexes, one after the other, are one list. -/
theorem revoke_append (list : RevocationStatusList) (indexes others : List UInt32) :
    list.revoke (indexes ++ others) =
      (list.revoke indexes).bind fun revoked => revoked.revoke others := by
  cases first : list.revoke indexes with
  | error error =>
      obtain ⟨before, index, after, rfl, covers, beyond, rfl⟩ := revoke_eq_error_iff.mp first
      exact revoke_eq_error_iff.mpr
        ⟨before, index, after ++ others, by simp, covers, beyond, rfl⟩
  | ok revoked =>
      obtain ⟨covers, rfl⟩ := revoke_eq_ok_iff.mp first
      have inside : indexes.find? (list.revocationList.length ≤ ·.toNat) = none := by
        rw [List.find?_eq_none]
        intro index member
        simpa using covers index member
      simp only [Except.bind, revoke, List.find?_append, inside, Option.none_or, length_foldl_set,
        List.foldl_append]

/-- Credentials that are revoked already are revoked again without effect. -/
theorem revoke_of_subset {list revoked : RevocationStatusList} {indexes again : List UInt32}
    (revokes : list.revoke indexes = .ok revoked) (among : again ⊆ indexes) :
    revoked.revoke again = .ok revoked := by
  have twice : list.revoke (indexes ++ again) = revoked.revoke again := by
    rw [revoke_append, revokes]
    rfl
  rw [← twice]
  refine revoke_of_same (fun index => ?_) revokes
  rw [List.mem_append]
  exact ⟨Or.inl, fun either => either.elim id (among ·)⟩

/-! ### In place -/

/-- The positions of the indexes, unless one of them has no entry in a list of this size. -/
def positions (size : Nat) (indexes : List UInt32) :
    ExceptT Error (StateM RevocationStatusList) (List Nat) := do
  let mut positions := []
  for index in indexes do
    if index.toNat < size then positions := positions ++ [index.toNat]
    else throw (outside size index)
  return positions

/-- Writes a one in each of the positions of the list that is held. -/
def write (positions : List Nat) : ExceptT Error (StateM RevocationStatusList) Unit := do
  for position in positions do
    modify fun list => { list with revocationList := list.revocationList.set position 1 }

/-- Revokes credentials in the list that is held. -/
def revokeInPlace (indexes : List UInt32) : ExceptT Error (StateM RevocationStatusList) Unit := do
  let size := (← getThe RevocationStatusList).revocationList.length
  let positions ← positions size indexes
  write positions

/-- One step on the list that is held, and then another. -/
theorem held_bind {α β : Type} (first : ExceptT Error (StateM RevocationStatusList) α)
    (second : α → ExceptT Error (StateM RevocationStatusList) β) (list : RevocationStatusList) :
    (first >>= second).run.run list =
      match first.run.run list with
      | (.ok value, after) => (second value).run.run after
      | (.error error, after) => (.error error, after) := by
  rw [ExceptT.run_bind, StateT.run_bind]
  obtain ⟨result, after⟩ := first.run.run list
  cases result <;> rfl

/-- The first pass, with positions that have been found before. -/
theorem positions_run_from (size : Nat) (found : List Nat) (indexes : List UInt32)
    (list : RevocationStatusList) :
    ExceptT.run (m := StateM RevocationStatusList) (forIn indexes found fun index positions =>
      if index.toNat < size then pure (.yield (positions ++ [index.toNat]))
      else throw (outside size index)) list =
      match indexes.find? (size ≤ ·.toNat) with
      | some index => (.error (outside size index), list)
      | none => (.ok (found ++ indexes.map (·.toNat)), list) := by
  induction indexes generalizing found with
  | nil =>
      rw [List.map_nil, List.append_nil]
      rfl
  | cons index rest ih =>
      by_cases inside : index.toNat < size
      · have here : ¬ size ≤ index.toNat := Nat.not_le_of_lt inside
        simp only [List.forIn_cons, if_pos inside, pure_bind, List.find?_cons, here, decide_false,
          List.map_cons]
        rw [ih (found ++ [index.toNat]), List.append_assoc]
        rfl
      · have here : size ≤ index.toNat := Nat.le_of_not_lt inside
        simp only [List.forIn_cons, if_neg inside, List.find?_cons, here, decide_true]
        rfl

/-- The first pass looks at the indexes in their order, and writes nothing. -/
theorem positions_run (size : Nat) (indexes : List UInt32) (list : RevocationStatusList) :
    (positions size indexes).run.run list =
      match indexes.find? (size ≤ ·.toNat) with
      | some index => (.error (outside size index), list)
      | none => (.ok (indexes.map (·.toNat)), list) := by
  have looked := positions_run_from size [] indexes list
  simp only [positions, bind_pure]
  exact looked

/-- The second pass writes what has been found. -/
theorem write_run (indexes : List UInt32) (list : RevocationStatusList) :
    (write (indexes.map (·.toNat))).run.run list =
      (.ok (), { list with
        revocationList :=
          indexes.foldl (fun entries index => entries.set index.toNat 1)
            list.revocationList }) := by
  induction indexes generalizing list with
  | nil => rfl
  | cons index rest ih =>
      have later := ih { list with revocationList := list.revocationList.set index.toNat 1 }
      simp only [write, List.map_cons, List.forIn_cons, bind_assoc] at later ⊢
      rw [held_bind]
      exact later

/-- A list that is held elsewhere is left as it was if an index is refused. -/
theorem revokeInPlace_run (indexes : List UInt32) (list : RevocationStatusList) :
    (revokeInPlace indexes).run.run list =
      match list.revoke indexes with
      | .error error => (.error error, list)
      | .ok revoked => (.ok (), revoked) := by
  have looked := positions_run list.revocationList.length indexes list
  have written := write_run indexes list
  have read : (getThe RevocationStatusList :
      ExceptT Error (StateM RevocationStatusList) _).run.run list = (.ok list, list) := rfl
  simp only [revokeInPlace, held_bind, read, looked, revoke]
  cases indexes.find? (list.revocationList.length ≤ ·.toNat) with
  | some index => rfl
  | none => exact written

/-! ### In bulk -/

/-- The list with the credentials at these indexes revoked. -/
structure RevokedAt (indexes : List UInt32) (list revoked : RevocationStatusList) : Prop where
  length : revoked.revocationList.length = list.revocationList.length
  entries : ∀ position, revoked.revocationList[position]? =
    if ∃ index ∈ indexes, index.toNat = position then some 1 else list.revocationList[position]?
  /-- Nothing but entries has changed. -/
  rest : revoked = { list with revocationList := revoked.revocationList }
  /-- Any indexes of the same set come to the same. -/
  sameSet : ∀ others, (∀ index, index ∈ indexes ↔ index ∈ others) →
    list.revoke others = .ok revoked
  /-- What is revoked is revoked again without effect. -/
  settled : ∀ again, again ⊆ indexes → revoked.revoke again = .ok revoked

theorem revokedAt_of_revoke {list revoked : RevocationStatusList} {indexes : List UInt32}
    (revokes : list.revoke indexes = .ok revoked) : RevokedAt indexes list revoked := by
  obtain ⟨covers, same⟩ := revoke_eq_ok_iff.mp revokes
  constructor
  case length =>
      rw [same]
      exact length_foldl_set _ _
  case entries =>
      intro position
      rw [same, getElem?_foldl_set]
      by_cases named : ∃ index ∈ indexes, index.toNat = position
      · obtain ⟨index, member, rfl⟩ := named
        rw [if_pos ⟨covers index member, index, member, rfl⟩, if_pos ⟨index, member, rfl⟩]
      · rw [if_neg (fun both => named both.2), if_neg named]
  case rest => rw [same]
  case sameSet => exact fun others set => revoke_of_same set revokes
  case settled => exact fun again among => revoke_of_subset revokes among

/-- Indexes are revoked all together or not at all. They are if the list has an entry for each, and
then it does not matter in which order, how often, or in how many steps they are given; if not, the
first without an entry is named, and the list is as it was. -/
theorem revoke_in_bulk (list : RevocationStatusList) (indexes others : List UInt32) :
    ((∃ revoked, list.revoke indexes = .ok revoked) ↔ list.Covers indexes) ∧
    (∀ revoked, list.revoke indexes = .ok revoked →
      RevokedAt indexes list revoked ∧
      (revokeInPlace indexes).run.run list = (.ok (), revoked)) ∧
    (∀ error, list.revoke indexes = .error error →
      (∃ before index after, indexes = before ++ index :: after ∧ list.Covers before ∧
        list.revocationList.length ≤ index.toNat ∧
        error = outside list.revocationList.length index) ∧
      (revokeInPlace indexes).run.run list = (.error error, list)) ∧
    (list.Covers indexes → list.Covers others → ∃ revoked,
      list.revoke (indexes ++ others) = .ok revoked ∧
      ((list.revoke indexes).bind fun half => half.revoke others) = .ok revoked ∧
      ((list.revoke others).bind fun half => half.revoke indexes) = .ok revoked) := by
  refine ⟨exists_revoke_iff, ?_, ?_, ?_⟩
  · intro revoked revokes
    refine ⟨revokedAt_of_revoke revokes, ?_⟩
    rw [revokeInPlace_run, revokes]
  · intro error refused
    refine ⟨revoke_eq_error_iff.mp refused, ?_⟩
    rw [revokeInPlace_run, refused]
  · intro covers also
    have both : list.Covers (indexes ++ others) := by
      intro index member
      exact (List.mem_append.mp member).elim (covers index) (also index)
    obtain ⟨revoked, revokes⟩ := exists_revoke_iff.mpr both
    refine ⟨revoked, revokes, ?_, ?_⟩
    · rw [← revoke_append, revokes]
    · rw [← revoke_append]
      refine revoke_of_same (fun index => ?_) revokes
      rw [List.mem_append, List.mem_append, or_comm]

def fourEntries : RevocationStatusList :=
  ⟨"did:cheqd:testnet:a", "did:cheqd:testnet:a/resources/b", [0, 0, 0, 1], "x", some 7⟩

/-- Of four credentials two are revoked, one of them twice; an index beyond the last is refused,
with all that stand beside it. -/
theorem revoke_in_bulk_ofFour :
    RevokedAt [2, 0, 2] fourEntries { fourEntries with revocationList := [1, 0, 1, 1] } ∧
    (revokeInPlace [1, 4, 5]).run.run fourEntries = (.error (outside 4 4), fourEntries) ∧
    fourEntries.Covers [2, 0, 2] ∧ fourEntries.Covers [1] ∧
    ((fourEntries.revoke [1]).bind fun half => half.revoke [2, 0, 2]) =
      .ok { fourEntries with revocationList := [1, 1, 1, 1] } := by
  have revokes : fourEntries.revoke [2, 0, 2] =
      .ok { fourEntries with revocationList := [1, 0, 1, 1] } := rfl
  have refused : fourEntries.revoke [1, 4, 5] = .error (outside 4 4) := rfl
  have together : fourEntries.revoke ([2, 0, 2] ++ [1]) =
      .ok { fourEntries with revocationList := [1, 1, 1, 1] } := rfl
  have covers : fourEntries.Covers [2, 0, 2] := by decide
  have also : fourEntries.Covers [1] := by decide
  obtain ⟨-, revoked, -, steps⟩ := revoke_in_bulk fourEntries [2, 0, 2] [1]
  obtain ⟨-, -, unchanged, -⟩ := revoke_in_bulk fourEntries [1, 4, 5] []
  obtain ⟨_, one, -, other⟩ := steps covers also
  cases together.symm.trans one
  exact ⟨(revoked _ revokes).1, (unchanged _ refused).2, covers, also, other⟩

end DidRegistry.AnonCreds.RevocationStatusList
