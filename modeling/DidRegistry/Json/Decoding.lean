import DidRegistry.Json.Reader
import DidRegistry.Json.Value

/-!
Decoding documents into typed data. A `Decoder` tells what a document stands for or why it stands
for nothing. `Record` describes a record by its fields once, and from that description reads both of
its forms, the object with named members and the array with positional items.

The rules for objects: members are looked at in the order in which they are written, and the first
problem wins; a member that is no field is ignored; a field that comes twice is refused where it
comes the second time; missing fields are noticed last, in the order of declaration.
-/

namespace DidRegistry

inductive DecodeError where
  | malformed
  | invalidType
  | invalidValue
  | invalidLength
  | unknownVariant (name : String)
  | missingField (name : String)
  | duplicateField (name : String)
  deriving DecidableEq, Repr

def DecodeError.message : DecodeError → String
  | .malformed => "malformed JSON"
  | .invalidType => "invalid type"
  | .invalidValue => "invalid value"
  | .invalidLength => "invalid length"
  | .unknownVariant name => s!"unknown variant `{name}`"
  | .missingField name => s!"missing field `{name}`"
  | .duplicateField name => s!"duplicate field `{name}`"

/-- How a document comes: as text, which is decoded while it is read, or as a value that is there as
a whole. -/
inductive Source where
  | text
  | value
  deriving DecidableEq, Repr

/-- Reads a document as typed data. -/
abbrev Decoder (α : Type) := Json → Except DecodeError α

namespace Decoder

variable {α : Type}

/-- The error for a document of the wrong kind. -/
def wrongKind : Json → DecodeError
  | .unreadable => .malformed
  | _ => .invalidType

def text : Decoder String
  | .str value => .ok value
  | document => .error (wrongKind document)

def bool : Decoder Bool
  | .bool value => .ok value
  | document => .error (wrongKind document)

/-- A whole number from `low` to `high`. -/
def whole (low high : Int) : Decoder Int
  | .num (.whole value) => if low ≤ value ∧ value ≤ high then .ok value else .error .invalidValue
  | document => .error (wrongKind document)

/-- A number that fits eight bits. -/
def byte : Decoder UInt8 := fun document =>
  (whole 0 255 document).map fun value => UInt8.ofNat value.toNat

/-- A number that fits thirty-two bits. -/
def word : Decoder UInt32 := fun document =>
  (whole 0 (UInt32.size - 1) document).map fun value => UInt32.ofNat value.toNat

/-- A signed number that fits sixty-four bits. -/
def long : Decoder Int64 := fun document =>
  (whole Int64.minValue.toInt Int64.maxValue.toInt document).map Int64.ofInt

/-- A free-form value. -/
def value : Decoder Value := fun document =>
  match Value.ofJson? document with
  | some value => .ok value
  | none => .error .malformed

/-- The members of a free-form object. -/
def metadata : Decoder Metadata
  | .obj members =>
    match Value.ofJson? (.obj members) >>= Metadata.ofValue? with
    | some metadata => .ok metadata
    | none => .error .malformed
  | document => .error (wrongKind document)

/-- Nothing for `null`, and otherwise what the decoder reads. -/
def nullable (decoder : Decoder α) : Decoder (Option α)
  | .null => .ok none
  | document => (decoder document).map some

/-- Every item in turn; the first problem wins. -/
def items (decoder : Decoder α) : List Json → Except DecodeError (List α)
  | [] => .ok []
  | item :: rest => do
    let first ← decoder item
    let others ← items decoder rest
    pure (first :: others)

def list (decoder : Decoder α) : Decoder (List α)
  | .arr documents => items decoder documents
  | document => .error (wrongKind document)

/-- One of finitely many names, written as a string or as an object whose one member has the name as
key and `null` as value. Text is judged member by member, so that its first member decides before
others are noticed; of a value it is known from the start how many members there are. -/
def variant (source : Source) (named? : String → Option α) : Decoder α
  | .str name => named name
  | .obj members =>
    match source, members with
    | .value, [] | .value, _ :: _ :: _ => .error .invalidValue
    | .text, [] => .error .invalidType
    | _, (name, payload) :: others => do
      let value ← named name
      if payload ≠ .null then throw (wrongKind payload)
      if others.isEmpty then pure value else .error .invalidType
  | document => .error (wrongKind document)
where
  /-- What a name stands for. -/
  named (name : String) : Except DecodeError α :=
    match named? name with
    | some value => .ok value
    | none => .error (.unknownVariant name)

/-- Decodes JSON text, every part of which has to denote a value. -/
def ofText (decoder : Decoder α) (text : String) : Except DecodeError α :=
  match Json.ofText? text with
  | none => .error .malformed
  | some document => if document.isReadable then decoder document else .error .malformed

/-- Decodes JSON text given as octets. A part that denotes no value is harmless if nothing looks at
it and the document decodes; if it does not decode, such a part makes it malformed. -/
def ofBytes (decoder : Decoder α) (bytes : Bytes) : Except DecodeError α :=
  match Json.ofBytes? bytes with
  | none => .error .malformed
  | some document =>
    match decoder document with
    | .ok value => .ok value
    | .error problem => .error (if document.isReadable then problem else .malformed)

end Decoder

/-! ### Records -/

/-- A field as a reader of members sees it: its name, a second name it answers to, and the test that
its value must pass. -/
structure FieldRule where
  name : String
  alternative : Option String
  check : Json → Except DecodeError Unit

namespace FieldRule

/-- Whether a member with this key is the field. -/
def answersTo (rule : FieldRule) (key : String) : Bool :=
  key == rule.name || some key == rule.alternative

/-- Looks at members in the order in which they are written, given the fields that came before. -/
def checkMembers (rules : List FieldRule) : List String → List (String × Json) →
    Except DecodeError Unit
  | _, [] => .ok ()
  | seen, (key, value) :: rest =>
    match rules.find? (·.answersTo key) with
    | none => checkMembers rules seen rest
    | some rule =>
      if seen.contains rule.name then .error (.duplicateField rule.name)
      else do
        rule.check value
        checkMembers rules (rule.name :: seen) rest

end FieldRule

/-- A description of records of a type: the rules for members, how to take the record from members
that keep the rules, and how to take it from positional items, giving back the items left over. -/
structure Record (α : Type) where
  rules : List FieldRule
  ofMembers : List (String × Json) → Except DecodeError α
  ofItems : List Json → Except DecodeError (α × List Json)

namespace Record

variable {α β : Type}

protected def pure (value : α) : Record α where
  rules := []
  ofMembers _ := .ok value
  ofItems documents := .ok (value, documents)

/-- The fields of two descriptions, those of the first in front. -/
protected def seq (first : Record (α → β)) (second : Unit → Record α) : Record β where
  rules := first.rules ++ (second ()).rules
  ofMembers members := do
    let build ← first.ofMembers members
    let value ← (second ()).ofMembers members
    pure (build value)
  ofItems documents := do
    let (build, documents) ← first.ofItems documents
    let (value, documents) ← (second ()).ofItems documents
    pure (build value, documents)

instance : Applicative Record where
  pure := Record.pure
  seq := Record.seq

/-- A field, given what a missing member and a missing item stand for. -/
def field (name : String) (alternative : Option String) (decoder : Decoder α)
    (noMember noItem : Except DecodeError α) : Record α where
  rules := [⟨name, alternative, fun document => (decoder document).map fun _ => ()⟩]
  ofMembers members :=
    let rule : FieldRule := ⟨name, alternative, fun _ => .ok ()⟩
    match members.find? fun member => rule.answersTo member.1 with
    | some (_, document) => decoder document
    | none => noMember
  ofItems
    | [] => noItem.map (·, [])
    | document :: rest => (decoder document).map (·, rest)

/-- A field that must be there. -/
def required (name : String) (decoder : Decoder α) : Record α :=
  field name none decoder (.error (.missingField name)) (.error .invalidLength)

/-- A field that must be there under one of two names. -/
def requiredAs (name alternative : String) (decoder : Decoder α) : Record α :=
  field name (some alternative) decoder (.error (.missingField name)) (.error .invalidLength)

/-- A field that an object may leave out or give as `null`; an array must have an item for it. -/
def optional (name : String) (decoder : Decoder α) : Record (Option α) :=
  field name none decoder.nullable (.ok none) (.error .invalidLength)

/-- A field with a default, which objects and arrays may leave out. -/
def defaulted (name : String) (decoder : Decoder α) (default : α) : Record α :=
  field name none decoder (.ok default) (.ok default)

/-- Reads a record from an object or an array. -/
def decoder (record : Record α) : Decoder α
  | .obj members => do
    FieldRule.checkMembers record.rules [] members
    record.ofMembers members
  | .arr documents => do
    let (value, rest) ← record.ofItems documents
    if rest.isEmpty then pure value else .error .invalidLength
  | document => .error (Decoder.wrongKind document)

end Record

/-! ### Writing records -/

namespace Json

/-- A member that is written only if there is a value for it. -/
def member {α : Type} (key : String) (encode : α → Json) : Option α → List (String × Json)
  | some value => [(key, encode value)]
  | none => []

def ofText (text : Option String) : Json := (text.map Json.str).getD .null

end Json
end DidRegistry
