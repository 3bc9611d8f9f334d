import DidRegistry.AnonCreds.Object
import DidRegistry.Proofs.Json.Decoding

/-!
Contents of the resources that schemas and definitions are published as. A content keeps the whole
object but its issuer, who is known from where the resource is; it is an object without the member
that a stream is wrapped in, so it is never mistaken for one (`LawfulContent`).
-/

namespace DidRegistry.AnonCreds

/-- Objects that are read back from their content, which no one takes for the wrapper of a
stream. -/
class LawfulContent (α : Type) [ResourceContent α] : Prop where
  ofContent_content : ∀ value : α, ResourceContent.ofContent (ResourceContent.issuerId value)
    (ResourceContent.content value).json = .ok value
  bare : ∀ value : α, ∃ members, (ResourceContent.content value).json = .obj members ∧
    members.lookup "contentStream" = none

section Lawful

variable {α : Type} [ResourceContent α] [LawfulContent α]

theorem content_ne_null (value : α) : ResourceContent.content value ≠ .null := by
  intro missing
  obtain ⟨members, object, -⟩ := LawfulContent.bare value
  rw [missing] at object
  cases object

theorem read_content (value : α) :
    ResourceContent.read (ResourceContent.issuerId value) (ResourceContent.content value) =
      .ok value := by
  rw [ResourceContent.read, LawfulContent.ofContent_content]

end Lawful

namespace Schema

/-- The content of a schema, with its members in order. -/
theorem content_json (schema : Schema) :
    (ResourceContent.content schema).json = .obj
      [("attrNames", .arr (schema.attrNames.map .str)), ("name", .str schema.name),
        ("version", .str schema.version)] := by
  change Json.obj [("attrNames", .arr ((schema.attrNames.map Value.text).map Value.json)), _, _] = _
  rw [List.map_map]
  rfl

instance : LawfulContent Schema where
  ofContent_content schema := by
    have attributes := Decoder.list_text schema.attrNames
    rw [content_json]
    generalize schema.attrNames.map Json.str = items at attributes ⊢
    change (contentRecord schema.issuerId).decoder _ = _
    simp [Record.decoder, contentRecord, FieldRule.checkMembers, FieldRule.answersTo,
      Record.required, Record.field, attributes, Decoder.text, bind, Except.bind, Except.map]
  bare schema := ⟨_, content_json schema, rfl⟩

end Schema

namespace CredentialDefinition

/-- The content of a credential definition, with its members in order. -/
theorem content_json (definition : CredentialDefinition) :
    (ResourceContent.content definition).json = .obj
      [("schemaId", .str definition.schemaId), ("tag", .str definition.tag),
        ("type", .str definition.signatureType), ("value", definition.value.json)] := rfl

instance : LawfulContent CredentialDefinition where
  ofContent_content definition := by
    have keys := Decoder.value_json definition.value
    rw [content_json]
    generalize definition.value.json = document at keys ⊢
    change (contentRecord definition.issuerId).decoder _ = _
    simp [Record.decoder, contentRecord, FieldRule.checkMembers, FieldRule.answersTo,
      Record.required, Record.field, keys, Decoder.text, bind, Except.bind, Except.map]
  bare definition := ⟨_, content_json definition, rfl⟩

end CredentialDefinition

namespace RevocationRegistryDefinition

/-- The content of a revocation registry definition, with its members in order. -/
theorem content_json (definition : RevocationRegistryDefinition) :
    (ResourceContent.content definition).json = .obj
      [("credDefId", .str definition.credDefId), ("revocDefType", .str definition.revocDefType),
        ("tag", .str definition.tag), ("value", definition.value.json)] := rfl

instance : LawfulContent RevocationRegistryDefinition where
  ofContent_content definition := by
    have keys := Decoder.value_json definition.value
    rw [content_json]
    generalize definition.value.json = document at keys ⊢
    change (contentRecord definition.issuerId).decoder _ = _
    simp [Record.decoder, contentRecord, FieldRule.checkMembers, FieldRule.answersTo,
      Record.required, Record.field, keys, Decoder.text, bind, Except.bind, Except.map]
  bare definition := ⟨_, content_json definition, rfl⟩

end RevocationRegistryDefinition
end DidRegistry.AnonCreds
