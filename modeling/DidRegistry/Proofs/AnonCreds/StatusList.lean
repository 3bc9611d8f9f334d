import DidRegistry.AnonCreds.StatusList
import DidRegistry.Proofs.Json.Decoding

/-!
Versions of a revocation status list. A list is read back from the content that it is published as,
up to what the content does not name (`ofContent_content`); the version that a change makes of it
revokes what the change names, keeps all other entries, and takes effect later
(`supersedes_of_change`).
-/

namespace DidRegistry.AnonCreds

/-- The change revokes the credential with this index. -/
def RevListUpdate.Names (update : RevListUpdate) (position : Nat) : Prop :=
  ∃ index ∈ update.revoked, index.toNat = position

instance (update : RevListUpdate) (position : Nat) : Decidable (update.Names position) :=
  inferInstanceAs (Decidable (∃ index ∈ update.revoked, index.toNat = position))

namespace RevocationStatusList

/-! ### Contents -/

/-- The content of a list, with its members in order. -/
theorem content_json (list : RevocationStatusList) :
    (ResourceContent.content list).json = .obj
      [("currentAccumulator", .str list.currentAccumulator),
        ("revocationList", .arr (list.revocationList.map fun entry => .int entry.toNat)),
        ("timestamp",
          (list.timestamp.map fun timestamp => Json.int timestamp.toInt).getD .null)] := by
  have first : ¬ "revocationList" < "currentAccumulator" := by decide
  have second : "currentAccumulator" < "timestamp" := by decide
  have third : "revocationList" < "timestamp" := by decide
  cases stamp : list.timestamp <;>
    simp [ResourceContent.content, Value.object, Value.sortedMembers, Json.insertAbsent,
      Value.text, Value.array, Value.int, Value.null, first, second, third, stamp,
      Function.comp_def]

theorem content_ne_null (list : RevocationStatusList) : ResourceContent.content list ≠ .null := by
  intro missing
  have json := congrArg Value.json missing
  rw [content_json] at json
  cases json

/-- A list is read back from its content, for the issuer that it is read for, and without its
registry. -/
theorem ofContent_content (issuer : String) (list : RevocationStatusList) :
    ResourceContent.ofContent issuer (ResourceContent.content list).json =
      .ok { list with issuerId := issuer, revRegDefId := "" } := by
  have entries := Decoder.list_byte list.revocationList
  have stamp := Decoder.nullable_long list.timestamp
  rw [content_json]
  generalize list.revocationList.map (fun entry => Json.int entry.toNat) = items at entries ⊢
  generalize (list.timestamp.map fun timestamp => Json.int timestamp.toInt).getD .null = time
    at stamp ⊢
  change (contentRecord issuer).decoder _ = _
  simp [Record.decoder, contentRecord, FieldRule.checkMembers, FieldRule.answersTo,
    Record.required, Record.defaulted, Record.field, entries, stamp, Decoder.text, bind,
    Except.bind, Except.map]

/-! ### Revocations -/

/-- Entries with credentials revoked: what is named is one, all else stays. -/
theorem getElem?_foldl_set (indexes : List UInt32) (entries : List UInt8) (position : Nat) :
    (indexes.foldl (fun entries index => entries.set index.toNat 1) entries)[position]? =
      if position < entries.length ∧ ∃ index ∈ indexes, index.toNat = position then some 1
      else entries[position]? := by
  induction indexes generalizing entries with
  | nil => simp
  | cons index rest ih =>
      rw [List.foldl_cons, ih, List.length_set]
      by_cases inside : position < entries.length
      · by_cases later : ∃ other ∈ rest, other.toNat = position
        · obtain ⟨other, member, same⟩ := later
          rw [if_pos ⟨inside, other, member, same⟩,
            if_pos ⟨inside, other, List.mem_cons_of_mem _ member, same⟩]
        · by_cases here : index.toNat = position
          · rw [if_neg (fun h => later h.2), if_pos ⟨inside, index, List.mem_cons_self, here⟩,
              here, List.getElem?_set_self inside]
          · have nowhere : ¬ ∃ other ∈ index :: rest, other.toNat = position := by
              rintro ⟨other, member, same⟩
              rcases List.mem_cons.mp member with rfl | inRest
              · exact here same
              · exact later ⟨other, inRest, same⟩
            rw [if_neg (fun h => later h.2), if_neg (fun h => nowhere h.2),
              List.getElem?_set_ne here]
      · have beyond : entries.length ≤ position := Nat.le_of_not_lt inside
        rw [if_neg (fun h => inside h.1), if_neg (fun h => inside h.1),
          List.getElem?_eq_none (by simpa using beyond), List.getElem?_eq_none beyond]

theorem length_foldl_set (indexes : List UInt32) (entries : List UInt8) :
    (indexes.foldl (fun entries index => entries.set index.toNat 1) entries).length =
      entries.length := by
  induction indexes generalizing entries with
  | nil => rfl
  | cons index rest ih => rw [List.foldl_cons, ih, List.length_set]

/-- Credentials are revoked if all of them have an entry. -/
theorem revoke_eq_ok_iff {list revoked : RevocationStatusList} {indexes : List UInt32} :
    list.revoke indexes = .ok revoked ↔
      (∀ index ∈ indexes, index.toNat < list.revocationList.length) ∧
      revoked = { list with
        revocationList :=
          indexes.foldl (fun entries index => entries.set index.toNat 1) list.revocationList } := by
  simp only [revoke]
  cases found : indexes.find? (list.revocationList.length ≤ ·.toNat) with
  | some index =>
      simp only [reduceCtorEq, false_iff, not_and]
      intro inside
      have outside := List.find?_some found
      have bound := inside index (List.mem_of_find?_eq_some found)
      simp only [decide_eq_true_eq] at outside
      omega
  | none =>
      have inside : ∀ index ∈ indexes, index.toNat < list.revocationList.length := by
        intro index member
        have bound := List.find?_eq_none.mp found index member
        simpa using bound
      simp only [Except.ok.injEq]
      constructor
      · rintro rfl
        exact ⟨inside, rfl⟩
      · rintro ⟨-, rfl⟩
        rfl

/-! ### Timestamps -/

/-- A second later, reckoned in whole numbers, unless there is no such second. -/
theorem toInt_add_one {timestamp : Int64} (notLast : timestamp ≠ Int64.maxValue) :
    (timestamp + 1).toInt = timestamp.toInt + 1 := by
  have high := timestamp.toInt_le
  have low := timestamp.minValue_le_toInt
  have below : timestamp.toInt ≠ Int64.maxValue.toInt :=
    fun same => notLast (Int64.toInt_inj.mp same)
  rw [Int64.toInt_add]
  simp only [Int64.toInt_maxValue, Int64.toInt_minValue] at high low below
  have one : (1 : Int64).toInt = 1 := rfl
  rw [one]
  exact Int.bmod_eq_of_le (by omega) (by omega)

theorem toInt_max (first second : Int64) :
    (max first second).toInt = max first.toInt second.toInt := by
  change (if first ≤ second then second else first).toInt =
    if first.toInt ≤ second.toInt then second.toInt else first.toInt
  simp only [Int64.le_iff_toInt_le]
  split <;> rfl

/-- The next version takes effect now, or a second after the list if that is later. -/
theorem nextTimestamp_of_ne {list : RevocationStatusList} {previous : Int64}
    (stamp : list.timestamp = some previous) (notLast : previous ≠ Int64.maxValue) (now : Int64) :
    ∃ next, list.nextTimestamp now = .ok next ∧
      next.toInt = max now.toInt (previous.toInt + 1) := by
  refine ⟨max now (previous + 1), ?_, ?_⟩
  · simp only [nextTimestamp, stamp, if_neg notLast]
  · rw [toInt_max, toInt_add_one notLast]

/-- There is a next version unless the list takes effect in the last second that there is. -/
theorem exists_nextTimestamp_iff {list : RevocationStatusList} {now : Int64} :
    (∃ next, list.nextTimestamp now = .ok next) ↔ list.timestamp ≠ some Int64.maxValue := by
  unfold nextTimestamp
  cases list.timestamp with
  | none => simp
  | some previous =>
      by_cases last : previous = Int64.maxValue
      · simp [last]
      · simp [last]

/-- A version takes effect later than the one that it replaces, whatever the clock reads. -/
theorem lt_of_nextTimestamp {list : RevocationStatusList} {previous now next : Int64}
    (stamp : list.timestamp = some previous) (advanced : list.nextTimestamp now = .ok next) :
    previous < next := by
  have notLast : previous ≠ Int64.maxValue := fun last =>
    exists_nextTimestamp_iff.mp ⟨next, advanced⟩ (by rw [stamp, last])
  obtain ⟨same, found, reckoned⟩ := nextTimestamp_of_ne stamp notLast now
  cases advanced.symm.trans found
  rw [Int64.lt_iff_toInt_lt, reckoned]
  omega

/-! ### Versions -/

/-- A version of a list that revokes what a change names and nothing else, and takes effect
later. -/
structure Supersedes (next list : RevocationStatusList) (update : RevListUpdate) : Prop where
  issuerId : next.issuerId = list.issuerId
  revRegDefId : next.revRegDefId = list.revRegDefId
  length : next.revocationList.length = list.revocationList.length
  /-- The change names entries of the list only. -/
  inside : ∀ position, update.Names position → position < list.revocationList.length
  entries : ∀ position, next.revocationList[position]? =
    if update.Names position then some 1 else list.revocationList[position]?
  currentAccumulator : next.currentAccumulator = update.currentAccumulator
  later : ∃ timestamp, next.timestamp = some timestamp ∧
    ∀ previous, list.timestamp = some previous → previous < timestamp

/-- The version that a change makes of a list. -/
def changed (revoked : RevocationStatusList) (update : RevListUpdate) (timestamp : Int64) :
    RevocationStatusList :=
  { revoked with
    currentAccumulator := update.currentAccumulator
    timestamp := some timestamp }

theorem supersedes_of_change {list revoked : RevocationStatusList} {update : RevListUpdate}
    {now timestamp : Int64} (revokes : list.revoke update.revoked = .ok revoked)
    (advanced : revoked.nextTimestamp now = .ok timestamp) :
    (changed revoked update timestamp).Supersedes list update := by
  obtain ⟨inside, rfl⟩ := revoke_eq_ok_iff.mp revokes
  have named : ∀ position, update.Names position → position < list.revocationList.length := by
    rintro position ⟨index, member, rfl⟩
    exact inside index member
  constructor
  case issuerId => rfl
  case revRegDefId => rfl
  case length => exact length_foldl_set _ _
  case inside => exact named
  case entries =>
      intro position
      simp only [changed, getElem?_foldl_set]
      by_cases names : update.Names position
      · rw [if_pos names, if_pos ⟨named position names, names⟩]
      · rw [if_neg names, if_neg (fun h => names h.2)]
  case currentAccumulator => rfl
  case later =>
      refine ⟨timestamp, rfl, ?_⟩
      intro previous stamp
      exact lt_of_nextTimestamp stamp advanced

end RevocationStatusList
end DidRegistry.AnonCreds
