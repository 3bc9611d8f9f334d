import DidRegistry.Proofs.AnonCreds.Contents
import DidRegistry.Proofs.AnonCreds.StatusList
import DidRegistry.Proofs.Json.Exact

/-!
The contents of all kinds of objects. A content has the members of its kind and no others
(`content_members`). What is read from an object is the kind's part of it: written again, it has
these members with the values that they had (`content_of_read`). Every kind has a member that no
other kind has, so no content of another kind is read.

Main statement: `content_codec`.
-/

namespace DidRegistry.AnonCreds

namespace ResourceType

@[reducible] def Object : ResourceType → Type
  | .schema => Schema
  | .credentialDefinition => CredentialDefinition
  | .revocationRegistryDefinition => RevocationRegistryDefinition
  | .statusList => RevocationStatusList

instance : (type : ResourceType) → ResourceContent type.Object
  | .schema => inferInstanceAs (ResourceContent Schema)
  | .credentialDefinition => inferInstanceAs (ResourceContent CredentialDefinition)
  | .revocationRegistryDefinition => inferInstanceAs (ResourceContent RevocationRegistryDefinition)
  | .statusList => inferInstanceAs (ResourceContent RevocationStatusList)

/-- The keys of a content's members, in order. -/
def memberNames : ResourceType → List String
  | .schema => ["attrNames", "name", "version"]
  | .credentialDefinition => ["schemaId", "tag", "type", "value"]
  | .revocationRegistryDefinition => ["credDefId", "revocDefType", "tag", "value"]
  | .statusList => ["currentAccumulator", "revocationList", "timestamp"]

/-- The object as far as its content tells: a status list's does not name the registry. -/
def told : (type : ResourceType) → type.Object → type.Object
  | .schema, value => value
  | .credentialDefinition, value => value
  | .revocationRegistryDefinition, value => value
  | .statusList, list => { list with revRegDefId := "" }

/-- Members with those that need not be written: a status list may leave its timestamp out. -/
def filled : ResourceType → List (String × Json) → List (String × Json)
  | .statusList, members => Json.insertAbsent "timestamp" .null members
  | _, members => members

variable {members : List (String × Json)}

theorem filled_canonical (type : ResourceType) (canonical : Json.MembersCanonical members) :
    Json.MembersCanonical (type.filled members) := by
  cases type with
  | statusList => exact Json.membersCanonical_insertAbsent trivial canonical
  | _ => exact canonical

theorem eq_timestamp_or_mem_of_mem_filled {type : ResourceType} {member : String × Json}
    (canonical : Json.MembersCanonical members) (present : member ∈ type.filled members) :
    member.1 = "timestamp" ∨ member ∈ members := by
  cases type with
  | statusList =>
      rcases (Json.mem_insertAbsent_iff canonical).mp present with held | ⟨rfl, -⟩
      · exact Or.inr held
      · exact Or.inl rfl
  | _ => exact Or.inr present

/-- Every type has a member that the others have not, and that must be written. -/
theorem exists_own_member {type other : ResourceType} (apart : type ≠ other) :
    ∃ name ∈ type.memberNames, name ≠ "timestamp" ∧ name ∉ other.memberNames := by
  revert apart
  cases type <;> cases other <;> decide

/-- A content has the members of its type. -/
theorem content_members (type : ResourceType) (value : type.Object) :
    ∃ members, (ResourceContent.content value).json = .obj members ∧
      members.map Prod.fst = type.memberNames := by
  cases type with
  | schema => exact ⟨_, Schema.content_json value, rfl⟩
  | credentialDefinition => exact ⟨_, CredentialDefinition.content_json value, rfl⟩
  | revocationRegistryDefinition =>
      exact ⟨_, RevocationRegistryDefinition.content_json value, rfl⟩
  | statusList => exact ⟨_, RevocationStatusList.content_json value, rfl⟩

/-- An object is read back from its content, as far as this tells. -/
theorem read_content (type : ResourceType) (value : type.Object) :
    ResourceContent.read (ResourceContent.issuerId value) (ResourceContent.content value) =
      .ok (type.told value) := by
  cases type with
  | schema => exact AnonCreds.read_content (α := Schema) value
  | credentialDefinition => exact AnonCreds.read_content (α := CredentialDefinition) value
  | revocationRegistryDefinition =>
      exact AnonCreds.read_content (α := RevocationRegistryDefinition) value
  | statusList =>
      change ResourceContent.read (α := RevocationStatusList) value.issuerId _ = _
      rw [ResourceContent.read, RevocationStatusList.ofContent_content]
      rfl

end ResourceType

/-! ### What is read -/

section Records

variable {issuer : String} {members : List (String × Json)}

/-- The object is of this issuer, and its content has no members but these. -/
def Keeps {α : Type} [ResourceContent α] (issuer : String) (members : List (String × Json))
    (value : α) : Prop :=
  ResourceContent.issuerId value = issuer ∧
    ∃ kept, (ResourceContent.content value).json = .obj kept ∧ kept ⊆ members

theorem takes_text (canonical : Json.MembersCanonical members) (name : String) :
    (Record.required name .text).Takes members fun text => (name, .str text) ∈ members :=
  .required Decoder.text_exact canonical

theorem takes_value (canonical : Json.MembersCanonical members) (name : String) :
    (Record.required name .value).Takes members fun value => (name, value.json) ∈ members :=
  .required Decoder.value_exact canonical

theorem Schema.takes (canonical : Json.MembersCanonical members) :
    (Schema.contentRecord issuer).Takes members (Keeps issuer members) := by
  intro schema read
  have attributes : (Record.required "attrNames" Decoder.text.list).Takes members
      fun values => ("attrNames", .arr (values.map .str)) ∈ members :=
    .required Decoder.text_exact.list canonical
  obtain ⟨_, _, ⟨_, _, ⟨_, first, rfl⟩, second, rfl⟩, third, rfl⟩ :=
    Record.Takes.seq (.seq (.map attributes) (takes_text canonical "name"))
      (takes_text canonical "version") read
  exact ⟨rfl, _, Schema.content_json _, by simp [first, second, third]⟩

theorem CredentialDefinition.takes (canonical : Json.MembersCanonical members) :
    (CredentialDefinition.contentRecord issuer).Takes members (Keeps issuer members) := by
  intro definition read
  obtain ⟨_, _, ⟨_, _, ⟨_, _, ⟨_, first, rfl⟩, second, rfl⟩, third, rfl⟩, fourth, rfl⟩ :=
    Record.Takes.seq (.seq (.seq (.map (takes_text canonical "schemaId"))
      (takes_text canonical "type")) (takes_text canonical "tag")) (takes_value canonical "value")
      read
  exact ⟨rfl, _, CredentialDefinition.content_json _, by simp [first, second, third, fourth]⟩

theorem RevocationRegistryDefinition.takes (canonical : Json.MembersCanonical members) :
    (RevocationRegistryDefinition.contentRecord issuer).Takes members (Keeps issuer members) := by
  intro definition read
  obtain ⟨_, _, ⟨_, _, ⟨_, _, ⟨_, first, rfl⟩, second, rfl⟩, third, rfl⟩, fourth, rfl⟩ :=
    Record.Takes.seq (.seq (.seq (.map (takes_text canonical "revocDefType"))
      (takes_text canonical "credDefId")) (takes_text canonical "tag"))
      (takes_value canonical "value") read
  exact ⟨rfl, _, RevocationRegistryDefinition.content_json _,
    by simp [first, second, third, fourth]⟩

theorem RevocationStatusList.takes (canonical : Json.MembersCanonical members) :
    (RevocationStatusList.contentRecord issuer).Takes members
      (Keeps issuer (Json.insertAbsent "timestamp" .null members)) := by
  intro list read
  have entries : (Record.required "revocationList" Decoder.byte.list).Takes members
      fun values => ("revocationList", .arr (values.map fun value => .int value.toNat)) ∈ members :=
    .required Decoder.byte_exact.list canonical
  have stamp : (Record.defaulted "timestamp" Decoder.long.nullable none).Takes members fun value =>
      ("timestamp", (value.map fun value => Json.int value.toInt).getD .null) ∈ members ∨
        (∀ member ∈ members, member.1 ≠ "timestamp") ∧ .ok none = Except.ok value :=
    .field Decoder.long_exact.nullable canonical
  obtain ⟨_, timestamp, ⟨_, _, ⟨_, first, rfl⟩, second, rfl⟩, third, rfl⟩ :=
    Record.Takes.seq (.seq (.map entries) (takes_text canonical "currentAccumulator")) stamp read
  have timed : ("timestamp",
      (timestamp.map fun timestamp => Json.int timestamp.toInt).getD .null) ∈
        Json.insertAbsent "timestamp" .null members := by
    refine (Json.mem_insertAbsent_iff canonical).mpr ?_
    rcases third with present | ⟨absent, missing⟩
    · exact Or.inl present
    · cases missing
      exact Or.inr ⟨rfl, absent⟩
  have others : ∀ member ∈ members, member ∈ Json.insertAbsent "timestamp" .null members :=
    fun _ present => (Json.mem_insertAbsent_iff canonical).mpr (Or.inl present)
  exact ⟨rfl, _, RevocationStatusList.content_json _,
    by simp [timed, others _ first, others _ second]⟩

end Records

namespace ResourceType

variable {type : ResourceType} {issuer : String} {document : Value} {value : type.Object}
  {members : List (String × Json)}

theorem keeps_of_read (object : document.json = .obj members)
    (read : ResourceContent.read issuer document = .ok value) :
    Keeps issuer (type.filled members) value := by
  have canonical := Value.membersCanonical object
  have decoded : ResourceContent.ofContent issuer (.obj members) = .ok value := by
    rw [ResourceContent.read, object] at read
    split at read
    · rename_i found
      rw [found, Except.ok.inj read]
    · cases read
  cases type with
  | schema => exact (Schema.takes canonical).of_decoder decoded
  | credentialDefinition => exact (CredentialDefinition.takes canonical).of_decoder decoded
  | revocationRegistryDefinition =>
      exact (RevocationRegistryDefinition.takes canonical).of_decoder decoded
  | statusList => exact (RevocationStatusList.takes canonical).of_decoder decoded

/-- Written again, what is read from an object is the object's members of the type. -/
theorem content_of_read (object : document.json = .obj members)
    (read : ResourceContent.read issuer document = .ok value) :
    ResourceContent.issuerId value = issuer ∧
      (ResourceContent.content value).json =
        .obj ((type.filled members).filter (·.1 ∈ type.memberNames)) := by
  obtain ⟨issued, kept, written, among⟩ := keeps_of_read object read
  obtain ⟨_, also, names⟩ := type.content_members value
  cases written.symm.trans also
  have filled := type.filled_canonical (Value.membersCanonical object)
  have same := Json.filter_eq_of_subset filled (Value.membersCanonical written) among
  refine ⟨issued, ?_⟩
  rw [written, ← names, same]

/-- The content of an object of another type is not read: it lacks a member. -/
theorem read_foreign {other : ResourceType} (apart : type ≠ other) (issuer : String)
    (value : other.Object) :
    ∃ reason, (ResourceContent.read issuer (ResourceContent.content value) :
      Except Error type.Object) = .error (.invalidResponse reason) := by
  cases result : (ResourceContent.read issuer (ResourceContent.content value) :
      Except Error type.Object) with
  | ok found =>
      obtain ⟨members, object, others⟩ := other.content_members value
      obtain ⟨-, kept, written, among⟩ := keeps_of_read object result
      obtain ⟨_, also, names⟩ := type.content_members found
      cases written.symm.trans also
      obtain ⟨name, own, required, foreign⟩ := exists_own_member apart
      rw [← names] at own
      obtain ⟨member, inKept, rfl⟩ := List.mem_map.mp own
      have canonical := Value.membersCanonical object
      have present :=
        (eq_timestamp_or_mem_of_mem_filled canonical (among inKept)).resolve_left required
      exact absurd (others ▸ List.mem_map_of_mem present) foreign
  | error error =>
      unfold ResourceContent.read at result
      split at result
      · cases result
      · cases result
        exact ⟨_, rfl⟩

/-- Contents and objects of a type correspond. An object is read back from its content, as far as
this tells; whatever object is read for an issuer from a document of members has the members of the
type for content, with their values, a timestamp that is missing being `null`; and the content of an
object of another type is refused, whoever it is read for. -/
theorem content_codec (type : ResourceType) :
    (∀ value : type.Object,
      ResourceContent.read (ResourceContent.issuerId value) (ResourceContent.content value) =
        .ok (type.told value)) ∧
    (∀ (issuer : String) (document : Value) (members : List (String × Json))
      (value : type.Object), document.json = .obj members →
      ResourceContent.read issuer document = .ok value →
      ResourceContent.issuerId value = issuer ∧
        (ResourceContent.content value).json =
          .obj ((type.filled members).filter (·.1 ∈ type.memberNames))) ∧
    ∀ other, type ≠ other → ∀ (issuer : String) (value : other.Object),
      ∃ reason, (ResourceContent.read issuer (ResourceContent.content value) :
        Except Error type.Object) = .error (.invalidResponse reason) := by
  refine ⟨type.read_content, ?_, ?_⟩
  · intro issuer document members value object read
    exact content_of_read object read
  · intro other apart issuer value
    exact read_foreign apart issuer value

/-- A list that is read from an object without timestamp, and beside a member of no type, has the
timestamp `null` for content; nobody takes it for a schema. -/
theorem content_codec_undated :
    let document : Value := .object [("currentAccumulator", .text "a"), ("note", .int 1),
      ("revocationList", .array [.int 0, .int 1])]
    let list : RevocationStatusList := ⟨"b", "", [0, 1], "a", none⟩
    ResourceContent.read "b" document = .ok list ∧
      (ResourceContent.content list).json = .obj [("currentAccumulator", .str "a"),
        ("revocationList", .arr [.int 0, .int 1]), ("timestamp", .null)] ∧
      ∃ reason, (ResourceContent.read "b" (ResourceContent.content list) : Except Error Schema) =
        .error (.invalidResponse reason) := by
  intro document list
  have read : ResourceContent.read "b" document = .ok list := by decide +kernel
  obtain ⟨-, kept, -⟩ := content_codec .statusList
  obtain ⟨-, -, foreign⟩ := content_codec .schema
  obtain ⟨-, same⟩ := kept "b" document _ list rfl read
  exact ⟨read, same, foreign .statusList (by decide) "b" list⟩

end ResourceType
end DidRegistry.AnonCreds
