import DidRegistry.AnonCreds.Kind

/-!
AnonCreds objects: schemas, credential definitions, revocation registry definitions and revocation
status lists, each with its document, and with the content of the resource that it is published as.
-/

namespace DidRegistry.AnonCreds

/-- The attributes that credentials of a kind have. -/
structure Schema where
  issuerId : String
  attrNames : List String
  name : String
  version : String
  deriving DecidableEq, Repr

/-- An issuer's keys for credentials of a schema. -/
structure CredentialDefinition where
  issuerId : String
  schemaId : String
  signatureType : String
  /-- Tells definitions for one schema apart. -/
  tag : String
  value : Value
  deriving DecidableEq, Repr

/-- A registry in which credentials of a definition can be revoked. -/
structure RevocationRegistryDefinition where
  issuerId : String
  revocDefType : String
  credDefId : String
  /-- Tells registries for one definition apart. -/
  tag : String
  value : Value
  deriving DecidableEq, Repr

/-- Which credentials of a registry are revoked from a point in time on. -/
structure RevocationStatusList where
  issuerId : String
  revRegDefId : String
  /-- An entry for each credential: one if it is revoked, zero otherwise. -/
  revocationList : List UInt8
  currentAccumulator : String
  /-- The second since the epoch from which the list is in force. -/
  timestamp : Option Int64
  deriving DecidableEq, Repr

/-- A change to a revocation status list. -/
structure RevListUpdate where
  /-- The credentials to be revoked, by their index. -/
  revoked : List UInt32
  /-- The accumulator after the change. -/
  currentAccumulator : String
  deriving DecidableEq, Repr

/-- An integer document for a point in time. -/
def ofTimestamp (timestamp : Int64) : Json := .int timestamp.toInt

/-- An integer document for an entry of a list. -/
def ofEntry (entry : UInt8) : Json := .int entry.toNat

namespace Schema

def record : Record Schema :=
  Schema.mk <$> .required "issuerId" .text <*> .required "attrNames" Decoder.text.list
    <*> .required "name" .text <*> .required "version" .text

def toJson (schema : Schema) : Json :=
  .obj [("issuerId", .str schema.issuerId), ("attrNames", .arr (schema.attrNames.map .str)),
    ("name", .str schema.name), ("version", .str schema.version)]

def contentRecord (issuer : String) : Record Schema :=
  Schema.mk issuer <$> .required "attrNames" Decoder.text.list <*> .required "name" .text
    <*> .required "version" .text

instance : ResourceContent Schema where
  resourceType := .schema
  issuerId := Schema.issuerId
  content schema := .object [("attrNames", .array (schema.attrNames.map .text)),
    ("name", .text schema.name), ("version", .text schema.version)]
  ofContent issuer := (contentRecord issuer).decoder

end Schema

namespace CredentialDefinition

def record : Record CredentialDefinition :=
  CredentialDefinition.mk <$> .required "issuerId" .text <*> .required "schemaId" .text
    <*> .required "type" .text <*> .required "tag" .text <*> .required "value" .value

def toJson (definition : CredentialDefinition) : Json :=
  .obj [("issuerId", .str definition.issuerId), ("schemaId", .str definition.schemaId),
    ("type", .str definition.signatureType), ("tag", .str definition.tag),
    ("value", definition.value.json)]

def contentRecord (issuer : String) : Record CredentialDefinition :=
  CredentialDefinition.mk issuer <$> .required "schemaId" .text <*> .required "type" .text
    <*> .required "tag" .text <*> .required "value" .value

instance : ResourceContent CredentialDefinition where
  resourceType := .credentialDefinition
  issuerId := CredentialDefinition.issuerId
  content definition := .object [("type", .text definition.signatureType),
    ("tag", .text definition.tag), ("value", definition.value),
    ("schemaId", .text definition.schemaId)]
  ofContent issuer := (contentRecord issuer).decoder

end CredentialDefinition

namespace RevocationRegistryDefinition

def record : Record RevocationRegistryDefinition :=
  RevocationRegistryDefinition.mk <$> .required "issuerId" .text
    <*> .required "revocDefType" .text <*> .required "credDefId" .text
    <*> .required "tag" .text <*> .required "value" .value

def toJson (definition : RevocationRegistryDefinition) : Json :=
  .obj [("issuerId", .str definition.issuerId), ("revocDefType", .str definition.revocDefType),
    ("credDefId", .str definition.credDefId), ("tag", .str definition.tag),
    ("value", definition.value.json)]

def contentRecord (issuer : String) : Record RevocationRegistryDefinition :=
  RevocationRegistryDefinition.mk issuer <$> .required "revocDefType" .text
    <*> .required "credDefId" .text <*> .required "tag" .text <*> .required "value" .value

instance : ResourceContent RevocationRegistryDefinition where
  resourceType := .revocationRegistryDefinition
  issuerId := RevocationRegistryDefinition.issuerId
  content definition := .object [("revocDefType", .text definition.revocDefType),
    ("tag", .text definition.tag), ("value", definition.value),
    ("credDefId", .text definition.credDefId)]
  ofContent issuer := (contentRecord issuer).decoder

end RevocationRegistryDefinition

namespace RevocationStatusList

def record : Record RevocationStatusList :=
  RevocationStatusList.mk <$> .required "issuerId" .text <*> .required "revRegDefId" .text
    <*> .required "revocationList" Decoder.byte.list <*> .required "currentAccumulator" .text
    <*> .optional "timestamp" .long

def toJson (list : RevocationStatusList) : Json :=
  .obj ([("issuerId", .str list.issuerId), ("revRegDefId", .str list.revRegDefId),
    ("revocationList", .arr (list.revocationList.map ofEntry)),
    ("currentAccumulator", .str list.currentAccumulator)] ++
    Json.member "timestamp" ofTimestamp list.timestamp)

/-- The fields of a revocation status list's content. The content does not name the registry. -/
def contentRecord (issuer : String) : Record RevocationStatusList :=
  RevocationStatusList.mk issuer "" <$> .required "revocationList" Decoder.byte.list
    <*> .required "currentAccumulator" .text <*> .defaulted "timestamp" Decoder.long.nullable none

instance : ResourceContent RevocationStatusList where
  resourceType := .statusList
  issuerId := RevocationStatusList.issuerId
  content list := .object
    [("revocationList", .array (list.revocationList.map fun entry => .int entry.toNat)),
      ("currentAccumulator", .text list.currentAccumulator),
      ("timestamp", (list.timestamp.map fun timestamp => .int timestamp.toInt).getD .null)]
  ofContent issuer := (contentRecord issuer).decoder

end RevocationStatusList

namespace RevListUpdate

def record : Record RevListUpdate :=
  RevListUpdate.mk <$> .required "revoked" Decoder.word.list
    <*> .required "currentAccumulator" .text

def toJson (update : RevListUpdate) : Json :=
  .obj [("revoked", .arr (update.revoked.map fun index => .int index.toNat)),
    ("currentAccumulator", .str update.currentAccumulator)]

end RevListUpdate
end DidRegistry.AnonCreds
