import DidRegistry.AnonCreds.Object
import DidRegistry.AnonCreds.Registration
import DidRegistry.Did.Resolution
import DidRegistry.Job.State
import DidRegistry.Proofs.Json.Record

/-!
Documents that stay what they are. What is read from a document, in whichever form it came, is
written as one object, and that object is read as the same again (`Stable`).

Main statement: this holds of reports on jobs and their parts, of resolutions, of the objects of
AnonCreds and of the result of registering a schema (`wire_forms_stable`).
-/

namespace DidRegistry

/-- Whatever is read is written as an object that denotes a value, and the object is read as the same
again, whichever way it comes. -/
def Stable {α : Type} (decoder : Source → Decoder α) (encode : α → Json) : Prop :=
  ∀ source document value, decoder source document = .ok value →
    ∃ members, encode value = .obj members ∧ (encode value).isReadable = true ∧
      ∀ other, decoder other (encode value) = .ok value

/-- A record is stable if the members that it is written as are those of what is read. -/
theorem Stable.of_writes {α : Type} {record : Source → Record α} {members : α → List (String × Json)}
    {property : α → Prop} (distinct : ∀ source, (record source).Distinct)
    (yields : ∀ source, (record source).Yields property)
    (writes : ∀ source value, property value → (record source).Writes (members value) value) :
    Stable (fun source => (record source).decoder) fun value => .obj (members value) := by
  intro source document value read
  have present := (yields source).of_decoder read
  refine ⟨_, rfl, ?_, fun other => (writes other value present).decoder_eq (distinct other)⟩
  rw [Json.isReadable]
  exact (writes source value present).readable

/-! ### Fields -/

section Fields

variable {α : Type} {name : String} {noItem : Except DecodeError (Option String)}

theorem Value.isReadable_json (value : Value) : value.json.isReadable = true :=
  value.canonical.isReadable

theorem Json.itemsReadable_map {items : List α} {encode : α → Json}
    (readable : ∀ item, (encode item).isReadable = true) :
    itemsReadable (items.map encode) = true := by
  induction items with
  | nil => rfl
  | cons item rest ih => rw [List.map_cons, itemsReadable, readable, ih, Bool.and_self]

namespace Record.Writes

theorem text (value : String) : (Record.required name .text).Writes [(name, .str value)] value :=
  .field rfl rfl

theorem value (value : Value) :
    (Record.required name .value).Writes [(name, value.json)] value :=
  .field (Decoder.value_json value) value.isReadable_json

theorem optionalText (present : Option String) :
    (Record.field name none Decoder.text.nullable (.ok none) noItem).Writes
      (Json.member name .str present) present :=
  .member (fun _ _ => rfl) fun _ => rfl

/-- A list is written as an array of what its items are written as. -/
theorem list {item : Decoder α} {encode : α → Json} {noMember missing : Except DecodeError (List α)}
    (reads : ∀ value, item (encode value) = .ok value)
    (readable : ∀ value, (encode value).isReadable = true) (values : List α) :
    (Record.field name none item.list noMember missing).Writes
      [(name, .arr (values.map encode))] values := by
  refine .field (Decoder.list_map reads values) ?_
  rw [Json.isReadable]
  exact Json.itemsReadable_map readable

/-- A record is written in a record as an object. -/
theorem object {record : Record α} {members : List (String × Json)} {value : α}
    {noMember missing : Except DecodeError α} (writes : record.Writes members value)
    (distinct : record.Distinct) :
    (Record.field name none record.decoder noMember missing).Writes [(name, .obj members)] value := by
  refine .field (writes.decoder_eq distinct) ?_
  rw [Json.isReadable]
  exact writes.readable

end Record.Writes
end Fields

/-! ### Free-form values that may be missing -/

namespace Decoder

/-- A free-form value that may be missing is never `null`. -/
theorem ne_null_of_nullable {document : Json} {present : Option Value}
    (read : value.nullable document = .ok present) : present ≠ some .null := by
  rintro rfl
  have other : document ≠ .null := by
    rintro rfl
    cases read
  have whole : (value document).map some = .ok (some .null) := by
    cases document with
    | null => exact absurd rfl other
    | _ => exact read
  obtain ⟨_, found, ⟨⟩⟩ := exists_of_map_eq_ok whole
  unfold value Value.ofJson? at found
  split at found
  · rename_i taken
    split at taken
    · cases found
      have canonical := congrArg Value.json (Option.some.inj taken)
      cases document with
      | null => exact other rfl
      | _ => simp [Json.canonical, Value.null] at canonical
    · cases taken
  · cases found

theorem nullable_json {value : Value} (present : value ≠ .null) :
    Decoder.value.nullable value.json = .ok (some value) := by
  have whole : Decoder.value.nullable value.json = (Decoder.value value.json).map some := by
    obtain ⟨json, canonical⟩ := value
    cases json with
    | null => exact absurd rfl present
    | _ => rfl
  rw [whole, value_json]
  rfl

end Decoder

theorem Record.Writes.optionalValue {name : String} {noItem : Except DecodeError (Option Value)}
    {present : Option Value} (other : present ≠ some .null) :
    (Record.field name none Decoder.value.nullable (.ok none) noItem).Writes
      (Json.member name Value.json present) present := by
  refine .member ?_ Value.isReadable_json
  rintro value rfl
  exact Decoder.nullable_json fun null => other (congrArg some null)

/-- A free-form field that may be missing is never `null`. -/
theorem Record.Yields.optionalValue {name : String} {noItem : Except DecodeError (Option Value)}
    (missing : ∀ present, noItem = .ok present → present = none) :
    (Record.field name none Decoder.value.nullable (.ok none) noItem).Yields
      (· ≠ some .null) := by
  refine .field (fun _ _ read => Decoder.ne_null_of_nullable read) ?_ ?_
  · rintro _ ⟨⟩
    exact nofun
  · intro present item
    rw [missing present item]
    exact nofun

/-! ### Parts of reports -/

theorem SigningRequest.writes (request : SigningRequest) :
    record.Writes [("kid", .str request.kid),
      ("serializedPayload", .str request.serializedPayload)] request :=
  .seq (.map (.text request.kid) _) (.text request.serializedPayload)

theorem ResourceRef.writes (resource : ResourceRef) :
    record.Writes (Json.member "id" .str resource.id ++ Json.member "name" .str resource.name ++
      Json.member "type" .str resource.resourceType ++
      Json.member "version" .str resource.version) resource :=
  .seq (.seq (.seq (.map (.optionalText resource.id) _) (.optionalText resource.name))
    (.optionalText resource.resourceType)) (.optionalText resource.version)

/-- The document of an outcome is not `null`: where it would be, it counts as missing. -/
def Outcome.IsRead (outcome : Outcome) : Prop := outcome.didDocument ≠ some .null

theorem Outcome.yields : record.Yields IsRead := by
  have first : (Outcome.mk <$> .defaulted "did" Decoder.text.nullable none : Record _).Yields
      fun build => ∀ document : Option Value, document ≠ some .null →
        ∀ didUrl resourceId resource, (build document didUrl resourceId resource).IsRead :=
    .map fun _ _ other _ _ _ => other
  have second : (.defaulted "didDocument" Decoder.value.nullable none : Record _).Yields
      (· ≠ some .null) :=
    .optionalValue fun _ same => (Except.ok.inj same).symm
  exact .seq (.seq (.seq (first.seq_of second fun _ document follows => follows document)))

theorem Outcome.writes {outcome : Outcome} (present : outcome.IsRead) :
    record.Writes outcome.members outcome := by
  refine .seq (.seq (.seq (.seq (.map (.optionalText outcome.did) _) (.optionalValue present))
    (.optionalText outcome.didUrl)) (.optionalText outcome.resourceId)) (.member ?_ ?_)
  · intro resource _
    change (ResourceRef.record.decoder resource.toJson).map some = _
    have back : ResourceRef.record.decoder resource.toJson = .ok resource :=
      resource.writes.decoder_eq (by decide)
    rw [back]
    rfl
  · intro resource
    rw [ResourceRef.toJson, Json.isReadable]
    exact resource.writes.readable

/-! ### States of jobs -/

namespace JobState

def Case.name : Case → String
  | .action => "action"
  | .finished => "finished"
  | .error => "error"

def case : JobState → Case
  | .action _ _ => .action
  | .finished _ => .finished
  | .error _ => .error

/-- The members of a state beside its case. -/
def fields : JobState → List (String × Json)
  | .action requests description =>
      [("signingRequest", .arr (requests.map SigningRequest.toJson))] ++
        Json.member "description" .str description
  | .finished outcome => outcome.members
  | .error reason => Json.member "reason" .str reason

theorem toJson_eq (state : JobState) :
    state.toJson = .obj (("state", .str state.case.name) :: state.fields) := by
  cases state <;> rfl

/-- The outcome of a finished job is one that is read. -/
def IsRead : JobState → Prop
  | .finished outcome => outcome.IsRead
  | .action _ _ | .error _ => True

theorem Case.distinct (named : Case) : named.record.Distinct := by
  cases named <;> decide

/-- No field has the name under which the case stands. -/
theorem Case.answersTo_state (named : Case) :
    ∀ rule ∈ named.record.rules, rule.answersTo "state" ≠ true := by
  cases named <;> decide

theorem Case.yields (named : Case) : named.record.Yields IsRead := by
  cases named with
  | action => exact .seq (.map fun _ _ => trivial)
  | finished => exact Outcome.yields.map_of fun _ present => present
  | error => exact .map fun _ => trivial

/-- A state is read from the fields of a case. -/
theorem exists_of_decoder {document : Json} {state : JobState}
    (read : decoder document = .ok state) :
    ∃ named : Case, ∃ fields, named.record.decoder fields = .ok state := by
  cases document with
  | obj members =>
      obtain ⟨named, -, found⟩ := exists_of_bind_eq_ok read
      dsimp only at found
      split at found
      · exact ⟨named, _, found⟩
      · cases found
  | arr items =>
      cases items with
      | nil => cases read
      | cons name fields =>
          obtain ⟨named, -, found⟩ := exists_of_bind_eq_ok read
          split at found
          · exact ⟨named, _, found⟩
          · cases found
  | _ => cases read

theorem isRead_of_decoder {document : Json} {state : JobState}
    (read : decoder document = .ok state) : state.IsRead := by
  obtain ⟨named, fields, found⟩ := exists_of_decoder read
  exact named.yields.of_decoder found

theorem writes {state : JobState} (present : state.IsRead) :
    state.case.record.Writes state.fields state := by
  cases state with
  | action requests description =>
      refine .seq (.map (.list ?_ ?_ requests) _) (.optionalText description)
      · intro request
        exact request.writes.decoder_eq (by decide)
      · intro request
        rfl
  | finished outcome => exact .map (Outcome.writes present) _
  | error reason => exact .map (.optionalText reason) _

/-- The fields of a case are read beside its name. -/
theorem decoder_of_writes {named : Case} {fields : List (String × Json)} {state : JobState}
    (writes : named.record.Writes fields state) :
    decoder (.obj (("state", .str named.name) :: fields)) = .ok state := by
  have untagged : ∀ member ∈ fields, (member.1 == "state") = false := by
    intro member present
    rw [beq_eq_false_iff_ne]
    intro same
    obtain ⟨rule, among, picked⟩ := writes.own member present
    rw [FieldRule.picks, same] at picked
    exact named.answersTo_state rule among picked
  have tagged : caseOf (("state", .str named.name) :: fields) = .ok named := by
    have alone : (("state", Json.str named.name) :: fields).filter (·.1 == "state") =
        [("state", .str named.name)] := by
      rw [List.filter_cons, if_pos (beq_self_eq_true _), List.filter_eq_nil_iff.mpr]
      intro member present
      rw [untagged member present]
      exact Bool.false_ne_true
    unfold caseOf
    rw [alone]
    cases named <;> rfl
  have others : (("state", Json.str named.name) :: fields).filter (·.1 != "state") = fields := by
    rw [List.filter_cons, if_neg (by simp), List.filter_eq_self]
    intro member present
    rw [bne, untagged member present]
    rfl
  change (caseOf (("state", .str named.name) :: fields)).bind _ = _
  rw [tagged]
  change (if Json.membersReadable _ then named.record.decoder (.obj _) else _) = _
  rw [others, if_pos writes.readable]
  exact writes.decoder_eq named.distinct

theorem decoder_toJson {state : JobState} (present : state.IsRead) :
    decoder state.toJson = .ok state := by
  rw [toJson_eq]
  exact decoder_of_writes (writes present)

theorem isReadable_toJson {state : JobState} (present : state.IsRead) :
    state.toJson.isReadable = true := by
  rw [toJson_eq, Json.isReadable, Json.membersReadable, (writes present).readable]
  rfl

end JobState

/-! ### Reports and resolutions -/

namespace JobResponse

theorem yields : record.Yields fun response => response.state.IsRead := by
  have first : (JobResponse.mk <$> .defaulted "jobId" Decoder.text.nullable none : Record _).Yields
      fun build => ∀ state : JobState, state.IsRead → (build state).state.IsRead :=
    .map fun _ _ present => present
  have second : (.requiredAs "didState" "didUrlState" JobState.decoder : Record _).Yields
      JobState.IsRead :=
    .field (fun _ _ => JobState.isRead_of_decoder) nofun nofun
  exact first.seq_of second fun _ state follows => follows state

theorem writes {response : JobResponse} (present : response.state.IsRead) :
    record.Writes (Json.member "jobId" .str response.jobId ++
      [("didState", response.state.toJson)]) response :=
  .seq (.map (.optionalText response.jobId) _)
    (.field (JobState.decoder_toJson present) (JobState.isReadable_toJson present))

end JobResponse

theorem DocumentMetadata.writes (metadata : DocumentMetadata) :
    record.Writes (Json.member "created" .str metadata.created ++
      Json.member "updated" .str metadata.updated ++
      Json.member "deactivated" .bool metadata.deactivated ++
      Json.member "versionId" .str metadata.versionId) metadata :=
  .seq (.seq (.seq (.map (.optionalText metadata.created) _) (.optionalText metadata.updated))
    (.member (fun _ _ => rfl) fun _ => rfl)) (.optionalText metadata.versionId)

namespace DidResolution

/-- The document of a resolution is not `null`: where it would be, it counts as missing. -/
def IsRead (resolution : DidResolution) : Prop := resolution.didDocument ≠ some .null

theorem yields : record.Yields IsRead := by
  have first : (.optional "didDocument" .value : Record _).Yields (· ≠ some .null) :=
    .optionalValue nofun
  exact .seq (first.map_of fun _ present _ => present)

theorem writes {resolution : DidResolution} (present : resolution.IsRead) :
    record.Writes (Json.member "didDocument" Value.json resolution.didDocument ++
      [("didDocumentMetadata", resolution.didDocumentMetadata.toJson)]) resolution :=
  .seq (.map (.optionalValue present) _) (.object resolution.didDocumentMetadata.writes (by decide))

end DidResolution

/-! ### Objects of AnonCreds -/

namespace AnonCreds

theorem Schema.writes (schema : Schema) :
    record.Writes [("issuerId", .str schema.issuerId),
      ("attrNames", .arr (schema.attrNames.map .str)), ("name", .str schema.name),
      ("version", .str schema.version)] schema :=
  .seq (.seq (.seq (.map (.text schema.issuerId) _)
    (.list Decoder.text_str (fun _ => rfl) schema.attrNames)) (.text schema.name))
    (.text schema.version)

theorem CredentialDefinition.writes (definition : CredentialDefinition) :
    record.Writes [("issuerId", .str definition.issuerId),
      ("schemaId", .str definition.schemaId), ("type", .str definition.signatureType),
      ("tag", .str definition.tag), ("value", definition.value.json)] definition :=
  .seq (.seq (.seq (.seq (.map (.text definition.issuerId) _) (.text definition.schemaId))
    (.text definition.signatureType)) (.text definition.tag)) (.value definition.value)

theorem RevocationRegistryDefinition.writes (definition : RevocationRegistryDefinition) :
    record.Writes [("issuerId", .str definition.issuerId),
      ("revocDefType", .str definition.revocDefType), ("credDefId", .str definition.credDefId),
      ("tag", .str definition.tag), ("value", definition.value.json)] definition :=
  .seq (.seq (.seq (.seq (.map (.text definition.issuerId) _) (.text definition.revocDefType))
    (.text definition.credDefId)) (.text definition.tag)) (.value definition.value)

theorem RevocationStatusList.writes (list : RevocationStatusList) :
    record.Writes ([("issuerId", .str list.issuerId), ("revRegDefId", .str list.revRegDefId),
      ("revocationList", .arr (list.revocationList.map ofEntry)),
      ("currentAccumulator", .str list.currentAccumulator)] ++
      Json.member "timestamp" ofTimestamp list.timestamp) list := by
  refine .seq (.seq (.seq (.seq (.map (.text list.issuerId) _) (.text list.revRegDefId))
    (.list Decoder.byte_int (fun _ => rfl) list.revocationList)) (.text list.currentAccumulator))
    (.member ?_ fun _ => rfl)
  intro timestamp _
  exact Decoder.nullable_long (some timestamp)

theorem RegistrationState.decoder_toJson (source : Source) (state : RegistrationState) :
    decoder source state.toJson = .ok state := by
  cases state
  rfl

theorem ObjectState.distinct {α : Type} (source : Source) (object : Decoder α) :
    (record source object).Distinct := by
  change ["state", "id", "value"].Nodup
  decide

/-- An object that is written is written in the state of its publication. -/
theorem ObjectState.writes {α : Type} {source : Source} {object : Decoder α} {encode : α → Json}
    (reads : ∀ value, object (encode value) = .ok value)
    (readable : ∀ value, (encode value).isReadable = true) (state : ObjectState α) :
    (record source object).Writes [("state", state.state.toJson), ("id", .str state.id),
      ("value", encode state.value)] state :=
  .seq (.seq (.map (.field (RegistrationState.decoder_toJson source state.state)
    (by cases state.state; rfl)) _) (.text state.id)) (.field (reads _) (readable _))

theorem RegistrationMetadata.writes (metadata : RegistrationMetadata) :
    record.Writes [("resource_id", .str metadata.resourceId),
      ("resource_name", .str metadata.resourceName),
      ("resource_type", .str metadata.resourceType)] metadata :=
  .seq (.seq (.map (.text metadata.resourceId) _) (.text metadata.resourceName))
    (.text metadata.resourceType)

theorem RegistrationResult.distinct {α : Type} (source : Source) (object : Decoder α) :
    (record source object).Distinct := by
  change ["job_id", "state", "registration_metadata"].Nodup
  decide

/-- The result of a registration is written with its object. -/
theorem RegistrationResult.writes {α : Type} {source : Source} {object : Decoder α}
    {encode : α → Json} (reads : ∀ value, object (encode value) = .ok value)
    (readable : ∀ value, (encode value).isReadable = true) (result : RegistrationResult α) :
    (record source object).Writes [("job_id", Json.ofText result.jobId),
      ("state", result.state.toJson encode),
      ("registration_metadata", result.metadata.toJson)] result := by
  refine .seq (.seq (.map (.field ?_ ?_) _)
    (.object (ObjectState.writes reads readable result.state) (ObjectState.distinct source object)))
    (.object result.metadata.writes (by decide))
  · cases result.jobId <;> rfl
  · cases result.jobId <;> rfl

end AnonCreds

/-! ### All together -/

/-- States of jobs are stable, though they are no records. -/
theorem JobState.stable : Stable (fun _ => decoder) toJson := by
  intro source document state read
  have present := isRead_of_decoder read
  exact ⟨_, state.toJson_eq, isReadable_toJson present, fun _ => decoder_toJson present⟩

/-- A record of which every value is written is stable. -/
theorem Stable.of_writes_all {α : Type} {record : Source → Record α}
    {members : α → List (String × Json)} (distinct : ∀ source, (record source).Distinct)
    (writes : ∀ source value, (record source).Writes (members value) value) :
    Stable (fun source => (record source).decoder) fun value => .obj (members value) :=
  .of_writes distinct (fun source => .all (record source)) fun source value _ => writes source value

open AnonCreds in
/-- Reports on jobs and their parts, resolutions, the objects of AnonCreds and the result of
registering a schema are stable: what is read of a document, in any of the forms that are allowed,
is written as an object that is read as the same data, whichever way it comes. A report is written
with its state under the one name only, although it is read under either. -/
theorem wire_forms_stable :
    Stable (fun _ => JobResponse.record.decoder) JobResponse.toJson ∧
    Stable (fun _ => JobState.decoder) JobState.toJson ∧
    Stable (fun _ => Outcome.record.decoder) Outcome.toJson ∧
    Stable (fun _ => ResourceRef.record.decoder) ResourceRef.toJson ∧
    Stable (fun _ => SigningRequest.record.decoder) SigningRequest.toJson ∧
    Stable (fun _ => DidResolution.record.decoder) DidResolution.toJson ∧
    Stable (fun _ => Schema.record.decoder) Schema.toJson ∧
    Stable (fun _ => CredentialDefinition.record.decoder) CredentialDefinition.toJson ∧
    Stable (fun _ => RevocationRegistryDefinition.record.decoder)
      RevocationRegistryDefinition.toJson ∧
    Stable (fun _ => RevocationStatusList.record.decoder) RevocationStatusList.toJson ∧
    Stable (fun source => (RegistrationResult.record source Schema.record.decoder).decoder)
      (RegistrationResult.toJson Schema.toJson) ∧
    ∀ response : JobResponse, response.toJson.member? "didState" = some response.state.toJson ∧
      response.toJson.member? "didUrlState" = none := by
  refine ⟨?_, JobState.stable, ?_, ?_, ?_, ?_, ?_, ?_, ?_, ?_, ?_, ?_⟩
  · exact .of_writes (fun _ => by decide) (fun _ => JobResponse.yields)
      fun _ _ present => JobResponse.writes present
  · exact .of_writes (fun _ => by decide) (fun _ => Outcome.yields)
      fun _ _ present => Outcome.writes present
  · exact .of_writes_all (fun _ => by decide) fun _ resource => resource.writes
  · exact .of_writes_all (fun _ => by decide) fun _ request => request.writes
  · exact .of_writes (fun _ => by decide) (fun _ => DidResolution.yields)
      fun _ _ present => DidResolution.writes present
  · exact .of_writes_all (fun _ => by decide) fun _ schema => schema.writes
  · exact .of_writes_all (fun _ => by decide) fun _ definition => definition.writes
  · exact .of_writes_all (fun _ => by decide) fun _ definition => definition.writes
  · exact .of_writes_all (fun _ => by decide) fun _ list => list.writes
  · refine .of_writes_all (fun source => RegistrationResult.distinct source _) ?_
    intro source result
    exact result.writes (fun schema => schema.writes.decoder_eq (by decide)) fun schema => by
      rw [Schema.toJson, Json.isReadable]
      exact schema.writes.readable
  · intro response
    obtain ⟨jobId, state⟩ := response
    cases jobId <;> exact ⟨rfl, rfl⟩

/-- A report whose state comes as an array and under the other name is written as objects, under the
one name, and read as the same again. -/
theorem wire_forms_stable_positional :
    ∃ response, JobResponse.record.decoder
        (.obj [("rounds", .null), ("didUrlState", .arr [.str "finished", .str "d"])]) =
          .ok response ∧
      response.toJson = .obj [("didState", .obj [("state", .str "finished"), ("did", .str "d")])] ∧
      JobResponse.record.decoder response.toJson = .ok response := by
  have read : JobResponse.record.decoder
      (.obj [("rounds", .null), ("didUrlState", .arr [.str "finished", .str "d"])]) =
        .ok ⟨none, .finished ⟨some "d", none, none, none, none⟩⟩ := by decide +kernel
  obtain ⟨_, _, _, again⟩ := wire_forms_stable.1 .text _ _ read
  exact ⟨_, read, rfl, again .text⟩

end DidRegistry
