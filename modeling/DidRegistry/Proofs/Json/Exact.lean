import DidRegistry.Proofs.Json.Decoding
import Mathlib.Data.List.Nodup
import Mathlib.Data.String.Basic

/-!
Decoders that lose nothing: a canonical document that they read is the one that is written for what
they have read (`Decoder.Exact`). So a field that is read in this way says what its member says
(`Record.Takes.required`), and the members that a record has been taken from are told by their keys
(`Json.filter_eq_of_subset`).
-/

namespace DidRegistry

namespace Decoder

variable {α : Type}

/-- Whatever canonical document the decoder reads is what is written for it. -/
def Exact (decoder : Decoder α) (encode : α → Json) : Prop :=
  ∀ ⦃document value⦄, document.IsCanonical → decoder document = .ok value →
    document = encode value

theorem text_exact : text.Exact .str := by
  intro document value _ read
  cases document with
  | str text => exact congrArg Json.str (Except.ok.inj read)
  | _ => cases read

theorem value_exact : value.Exact Value.json := by
  intro document value canonical read
  have readable := canonical.isReadable
  simp only [Decoder.value, Value.ofJson?, readable, dif_pos, Except.ok.injEq] at read
  rw [← read]
  exact (Json.canonical_eq_self canonical).symm

/-- A whole number is read from an integer in the range. -/
theorem whole_eq_ok {low high value : Int} {document : Json}
    (read : whole low high document = .ok value) :
    document = .int value ∧ low ≤ value ∧ value ≤ high := by
  unfold whole at read
  split at read
  · split at read
    · rename_i inside
      cases read
      exact ⟨rfl, inside⟩
    · cases read
  · cases read

theorem byte_exact : byte.Exact fun value => .int value.toNat := by
  intro document value _ read
  obtain ⟨number, found, rfl⟩ := exists_of_map_eq_ok read
  obtain ⟨rfl, low, high⟩ := whole_eq_ok found
  have same : ((UInt8.ofNat number.toNat).toNat : Int) = number := by
    rw [UInt8.toNat_ofNat']
    omega
  exact congrArg Json.int same.symm

theorem long_exact : long.Exact fun value => .int value.toInt := by
  intro document value _ read
  obtain ⟨number, found, rfl⟩ := exists_of_map_eq_ok read
  obtain ⟨rfl, low, high⟩ := whole_eq_ok found
  have same : (Int64.ofInt number).toInt = number :=
    Int64.toInt_ofInt_of_le low (Int.lt_add_one_of_le high)
  exact congrArg Json.int same.symm

theorem Exact.nullable {decoder : Decoder α} {encode : α → Json} (exact : decoder.Exact encode) :
    decoder.nullable.Exact fun value => (value.map encode).getD .null := by
  intro document value canonical read
  cases document with
  | null =>
      cases read
      rfl
  | _ =>
      obtain ⟨present, found, rfl⟩ : ∃ present, decoder _ = .ok present ∧ some present = value :=
        exists_of_map_eq_ok read
      exact exact canonical found

theorem Exact.items {decoder : Decoder α} {encode : α → Json} (exact : decoder.Exact encode)
    {documents : List Json} {values : List α} (canonical : Json.ItemsCanonical documents)
    (read : decoder.items documents = .ok values) : documents = values.map encode := by
  induction documents generalizing values with
  | nil =>
      cases read
      rfl
  | cons document rest ih =>
      obtain ⟨first, found, later⟩ := exists_of_bind_eq_ok read
      obtain ⟨others, behind, last⟩ := exists_of_bind_eq_ok later
      cases last
      rw [List.map_cons, ← exact canonical.1 found, ← ih canonical.2 behind]

theorem Exact.list {decoder : Decoder α} {encode : α → Json} (exact : decoder.Exact encode) :
    decoder.list.Exact fun values => .arr (values.map encode) := by
  intro document values canonical read
  cases document with
  | arr documents =>
      rw [Json.IsCanonical] at canonical
      exact congrArg Json.arr (exact.items canonical read)
  | _ => cases read

end Decoder

/-! ### What is taken from members -/

namespace Record

variable {α β : Type} {members : List (String × Json)}

/-- Whatever the description takes from the members has the property. -/
def Takes (record : Record α) (members : List (String × Json)) (property : α → Prop) : Prop :=
  ∀ ⦃value⦄, record.ofMembers members = .ok value → property value

theorem Takes.map {build : α → β} {record : Record α} {property : α → Prop}
    (takes : record.Takes members property) :
    (build <$> record).Takes members fun whole =>
      ∃ value, property value ∧ build value = whole := by
  intro whole read
  rw [ofMembers_map] at read
  obtain ⟨value, found, built⟩ := exists_of_map_eq_ok read
  exact ⟨value, takes found, built⟩

theorem Takes.seq {first : Record (α → β)} {second : Record α} {properties : (α → β) → Prop}
    {property : α → Prop} (takes : first.Takes members properties)
    (also : second.Takes members property) :
    (first <*> second).Takes members fun whole =>
      ∃ build value, properties build ∧ property value ∧ build value = whole := by
  intro whole read
  rw [ofMembers_seq] at read
  obtain ⟨build, before, field⟩ := exists_of_bind_eq_ok read
  obtain ⟨value, found, built⟩ := exists_of_map_eq_ok field
  exact ⟨build, value, takes before, also found, built⟩

/-- What is read from an object is taken from its members. -/
theorem Takes.of_decoder {record : Record α} {property : α → Prop}
    (takes : record.Takes members property) {value : α}
    (read : record.decoder (.obj members) = .ok value) : property value := by
  obtain ⟨-, -, taken⟩ := exists_of_bind_eq_ok read
  exact takes taken

/-- A field is taken from its member, or there is none. -/
theorem Takes.field {name : String} {decoder : Decoder α} {encode : α → Json}
    {noMember noItem : Except DecodeError α} (exact : decoder.Exact encode)
    (canonical : Json.MembersCanonical members) :
    (field name none decoder noMember noItem).Takes members fun value =>
      (name, encode value) ∈ members ∨
        (∀ member ∈ members, member.1 ≠ name) ∧ noMember = .ok value := by
  intro value read
  simp only [Record.field] at read
  split at read
  · rename_i key document found
    have answers := List.find?_some found
    have present := List.mem_of_find?_eq_some found
    obtain rfl : key = name := by simpa [FieldRule.answersTo] using answers
    rw [← exact (Json.IsCanonical.of_mem canonical present) read]
    exact Or.inl present
  · rename_i absent
    refine Or.inr ⟨?_, read⟩
    simpa [FieldRule.answersTo] using absent

/-- A required field is taken from its member. -/
theorem Takes.required {name : String} {decoder : Decoder α} {encode : α → Json}
    (exact : decoder.Exact encode) (canonical : Json.MembersCanonical members) :
    (required name decoder).Takes members fun value => (name, encode value) ∈ members := by
  intro value read
  rcases Takes.field exact canonical read with present | ⟨-, ⟨⟩⟩
  exact present

end Record

/-! ### Members of canonical objects -/

theorem Value.membersCanonical {value : Value} {members : List (String × Json)}
    (object : value.json = .obj members) : Json.MembersCanonical members := by
  have whole := value.canonical
  rwa [object, Json.IsCanonical] at whole

namespace Json

variable {members kept : List (String × Json)}

theorem MembersCanonical.pairwise (canonical : MembersCanonical members) :
    members.Pairwise fun member other => member.1 < other.1 := by
  induction members with
  | nil => exact .nil
  | cons member rest ih => exact .cons canonical.1 (ih canonical.2.2)

/-- A canonical object names each key once. -/
theorem MembersCanonical.nodup (canonical : MembersCanonical members) :
    (members.map Prod.fst).Nodup :=
  List.pairwise_map.mpr (canonical.pairwise.imp ne_of_lt)

/-- Some members of a canonical object, in order, are those with their keys. -/
theorem filter_eq_of_subset (canonical : MembersCanonical members)
    (ascending : MembersCanonical kept) (among : kept ⊆ members) :
    members.filter (·.1 ∈ kept.map Prod.fst) = kept := by
  have alone : ∀ ⦃member⦄, member ∈ members → ∀ ⦃other⦄, other ∈ members →
      member.1 = other.1 → member = other :=
    List.inj_on_of_nodup_map canonical.nodup
  have same : (members.filter (·.1 ∈ kept.map Prod.fst)).Perm kept := by
    refine (List.perm_ext_iff_of_nodup ((List.Nodup.of_map _ canonical.nodup).filter _)
      (List.Nodup.of_map _ ascending.nodup)).mpr ?_
    intro member
    simp only [List.mem_filter, List.mem_map, decide_eq_true_eq]
    constructor
    · rintro ⟨present, other, inKept, key⟩
      exact alone (among inKept) present key ▸ inKept
    · exact fun inKept => ⟨among inKept, member, inKept, rfl⟩
  refine same.eq_of_pairwise ?_ (canonical.pairwise.filter _) ascending.pairwise
  exact fun _ _ _ _ before after => absurd (lt_trans before after) (lt_irrefl _)

/-- A member is put among others if its key is not taken. -/
theorem mem_insertAbsent_iff {key : String} {value : Json} {member : String × Json}
    (canonical : MembersCanonical members) :
    member ∈ insertAbsent key value members ↔
      member ∈ members ∨ member = (key, value) ∧ ∀ other ∈ members, other.1 ≠ key := by
  induction members with
  | nil => simp [insertAbsent]
  | cons first rest ih =>
      obtain ⟨other, held⟩ := first
      obtain ⟨ascending, -, restCanonical⟩ := canonical
      simp only [insertAbsent]
      split
      · rename_i before
        have absent : ∀ later ∈ (other, held) :: rest, later.1 ≠ key := by
          refine List.forall_mem_cons.mpr ⟨ne_of_gt before, fun later inRest => ?_⟩
          exact ne_of_gt (lt_trans before (ascending later inRest))
        rw [List.mem_cons, and_iff_left absent, or_comm]
      · split
        · rename_i same
          refine (or_iff_left ?_).symm
          rintro ⟨-, absent⟩
          exact absent _ List.mem_cons_self same.symm
        · rename_i differs
          rw [List.mem_cons, ih restCanonical, List.mem_cons, List.forall_mem_cons, or_assoc,
            and_iff_right (a := other ≠ key) (Ne.symm differs)]

end Json
end DidRegistry
