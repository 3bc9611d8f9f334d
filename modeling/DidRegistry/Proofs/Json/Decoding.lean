import DidRegistry.Json.Decoding

/-!
Laws of decoders. Numbers of a bounded range are read back from the documents that they are written
as, and the description of a record is read field by field.
-/

namespace DidRegistry

/-- A text is read from its octets. -/
@[simp] theorem Json.ofBytes?_ofText (text : String) :
    Json.ofBytes? (Bytes.ofText text) = Json.ofText? text := by
  rw [Json.ofBytes?, Bytes.characters_ofText, List.foldlM_map]
  rfl

-- A string with an octet that belongs to no character denotes no value; what is beside it does.
example : Json.ofBytes? [0x5B, 0x22, 0xFF, 0x22, 0x2C, 0x31, 0x5D] =
    some (.arr [.unreadable, .int 1]) := by
  decide

/-- A sequence that comes to a value has come to one on its way. -/
theorem exists_of_bind_eq_ok {ε α β : Type} {first : Except ε α} {next : α → Except ε β}
    {value : β} (ended : first.bind next = .ok value) :
    ∃ present, first = .ok present ∧ next present = .ok value := by
  cases first with
  | error problem => cases ended
  | ok present => exact ⟨present, rfl, ended⟩

theorem exists_of_map_eq_ok {ε α β : Type} {first : Except ε α} {build : α → β}
    {value : β} (ended : first.map build = .ok value) :
    ∃ present, first = .ok present ∧ build present = value := by
  cases first with
  | error problem => cases ended
  | ok present => exact ⟨present, rfl, Except.ok.inj ended⟩

namespace Record

variable {α β : Type}

@[simp] theorem rules_map (build : α → β) (record : Record α) :
    (build <$> record).rules = record.rules := rfl

@[simp] theorem rules_seq (first : Record (α → β)) (second : Record α) :
    (first <*> second).rules = first.rules ++ second.rules := rfl

@[simp] theorem ofMembers_map (build : α → β) (record : Record α) (members : List (String × Json)) :
    (build <$> record).ofMembers members = (record.ofMembers members).map build := by
  change (do let value ← record.ofMembers members; pure (build value)) = _
  cases record.ofMembers members <;> rfl

@[simp] theorem ofMembers_seq (first : Record (α → β)) (second : Record α)
    (members : List (String × Json)) :
    (first <*> second).ofMembers members = (first.ofMembers members).bind fun build =>
      (second.ofMembers members).map build := by
  change (do
    let build ← first.ofMembers members
    let value ← second.ofMembers members
    pure (build value)) = _
  cases first.ofMembers members with
  | error problem => rfl
  | ok build => cases second.ofMembers members <;> rfl

/-- All records that a description reads, from members or from items, have a property. -/
structure Yields (record : Record α) (property : α → Prop) : Prop where
  ofMembers : ∀ members value, record.ofMembers members = .ok value → property value
  ofItems : ∀ items value rest, record.ofItems items = .ok (value, rest) → property value

theorem Yields.all (record : Record α) : record.Yields fun _ => True :=
  ⟨fun _ _ _ => trivial, fun _ _ _ _ => trivial⟩

/-- What is built has a property that follows from that of what is read. -/
theorem Yields.map_of {build : α → β} {record : Record α} {property : α → Prop}
    {whole : β → Prop} (yields : record.Yields property)
    (follows : ∀ value, property value → whole (build value)) :
    (build <$> record).Yields whole := by
  constructor
  · intro members value read
    rw [ofMembers_map] at read
    obtain ⟨present, found, rfl⟩ := exists_of_map_eq_ok read
    exact follows present (yields.ofMembers members present found)
  · intro items value rest read
    obtain ⟨⟨present, left⟩, found, last⟩ := exists_of_bind_eq_ok read
    cases last
    exact follows present (yields.ofItems items present _ found)

/-- What two descriptions read together has a property that follows from those of the two. -/
theorem Yields.seq_of {first : Record (α → β)} {second : Record α} {properties : (α → β) → Prop}
    {property : α → Prop} {whole : β → Prop} (yields : first.Yields properties)
    (also : second.Yields property)
    (follows : ∀ build value, properties build → property value → whole (build value)) :
    (first <*> second).Yields whole := by
  constructor
  · intro members value read
    rw [ofMembers_seq] at read
    obtain ⟨build, before, field⟩ := exists_of_bind_eq_ok read
    obtain ⟨present, found, rfl⟩ := exists_of_map_eq_ok field
    exact follows _ _ (yields.ofMembers members build before)
      (also.ofMembers members present found)
  · intro items value rest read
    obtain ⟨⟨build, left⟩, before, field⟩ := exists_of_bind_eq_ok read
    obtain ⟨⟨present, behind⟩, found, last⟩ := exists_of_bind_eq_ok field
    cases last
    exact follows _ _ (yields.ofItems items build left before)
      (also.ofItems left present _ found)

theorem Yields.map {build : α → β} {record : Record α} {property : β → Prop}
    (built : ∀ value, property (build value)) : (build <$> record).Yields property :=
  (Yields.all record).map_of fun value _ => built value

theorem Yields.seq {first : Record (α → β)} {second : Record α} {property : β → Prop}
    (yields : first.Yields fun build => ∀ value, property (build value)) :
    (first <*> second).Yields property :=
  yields.seq_of (Yields.all second) fun _ value follows _ => follows value

/-- A field has the properties of what its decoder reads, and of what stands for it if it is
missing. -/
theorem Yields.field {name : String} {alternative : Option String} {decoder : Decoder α}
    {noMember noItem : Except DecodeError α} {property : α → Prop}
    (reads : ∀ document value, decoder document = .ok value → property value)
    (member : ∀ value, noMember = .ok value → property value)
    (item : ∀ value, noItem = .ok value → property value) :
    (field name alternative decoder noMember noItem).Yields property := by
  constructor
  · intro members value read
    unfold Record.field at read
    dsimp only at read
    split at read
    · exact reads _ value read
    · exact member value read
  · intro items value rest read
    cases items with
    | nil =>
        obtain ⟨present, missing, same⟩ := exists_of_map_eq_ok read
        cases same
        exact item _ missing
    | cons document others =>
        obtain ⟨present, found, same⟩ := exists_of_map_eq_ok read
        cases same
        exact reads document _ found

/-- Whatever a description reads has the property. -/
theorem Yields.of_decoder {record : Record α} {property : α → Prop}
    (yields : record.Yields property) {document : Json} {value : α}
    (read : record.decoder document = .ok value) : property value := by
  cases document with
  | obj members =>
      obtain ⟨-, -, taken⟩ := exists_of_bind_eq_ok read
      exact yields.ofMembers members value taken
  | arr items =>
      obtain ⟨⟨present, rest⟩, taken, last⟩ := exists_of_bind_eq_ok read
      simp only at last
      split at last
      · cases last
        exact yields.ofItems items _ rest taken
      · cases last
  | _ => cases read

end Record

namespace Decoder

theorem byte_int (value : UInt8) : byte (.int value.toNat) = .ok value := by
  have high : (value.toNat : Int) ≤ 255 := by
    have bound := value.toNat_lt
    omega
  simp [byte, whole, Json.int, high, Except.map]

/-- An array of documents, each of which is read back. -/
theorem list_map {α : Type} {decoder : Decoder α} {encode : α → Json}
    (reads : ∀ value, decoder (encode value) = .ok value) (values : List α) :
    decoder.list (.arr (values.map encode)) = .ok values := by
  induction values with
  | nil => rfl
  | cons value rest ih =>
      have others : decoder.items (rest.map encode) = .ok rest := ih
      change decoder.items (encode value :: rest.map encode) = _
      rw [items, reads, others]
      rfl

theorem list_byte (values : List UInt8) :
    byte.list (.arr (values.map fun value => .int value.toNat)) = .ok values :=
  list_map byte_int values

theorem text_str (value : String) : Decoder.text (.str value) = .ok value := rfl

theorem list_text (values : List String) :
    Decoder.text.list (.arr (values.map .str)) = .ok values :=
  list_map text_str values

theorem value_json (value : Value) : Decoder.value value.json = .ok value := by
  rw [Decoder.value, Value.ofJson?_json]

theorem long_int (value : Int64) : long (.int value.toInt) = .ok value := by
  have low := value.minValue_le_toInt
  have high := value.toInt_le
  simp only [long, whole, Json.int]
  rw [if_pos ⟨low, high⟩]
  simp [Except.map]

theorem nullable_long (value : Option Int64) :
    long.nullable ((value.map fun value => .int value.toInt).getD .null) = .ok value := by
  cases value with
  | none => rfl
  | some value =>
      change (long (.int value.toInt)).map some = _
      rw [long_int]
      rfl

/-- Text is read if all of its document denotes values and the document is read. -/
theorem ofText_eq_ok_iff {α : Type} {decoder : Decoder α} {text : String} {document : Json}
    (written : Json.ofText? text = some document) {value : α} :
    decoder.ofText text = .ok value ↔
      document.isReadable = true ∧ decoder document = .ok value := by
  unfold ofText
  rw [written]
  dsimp only
  by_cases readable : document.isReadable = true
  · rw [if_pos readable]
    exact (and_iff_right readable).symm
  · rw [if_neg readable]
    exact iff_of_false nofun fun read => readable read.1

/-- Octets are read if their document is. -/
theorem ofBytes_eq_ok_iff {α : Type} {decoder : Decoder α} {bytes : Bytes} {document : Json}
    (written : Json.ofBytes? bytes = some document) {value : α} :
    decoder.ofBytes bytes = .ok value ↔ decoder document = .ok value := by
  unfold ofBytes
  rw [written]
  dsimp only
  cases decoder document with
  | ok present => exact Iff.rfl
  | error problem => exact iff_of_false nofun nofun

end Decoder

/-- What does not come to a value comes to an error. -/
theorem exists_error_of_ne_ok {ε α : Type} {result : Except ε α}
    (refused : ∀ value, result ≠ .ok value) : ∃ problem, result = .error problem := by
  cases result with
  | error problem => exact ⟨problem, rfl⟩
  | ok value => exact absurd rfl (refused value)

end DidRegistry
