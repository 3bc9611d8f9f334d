import DidRegistry.AnonCreds.Registry
import DidRegistry.Calendar
import DidRegistry.Text.Form

/-!
Revocation status lists. All lists of a registry are versions of one resource, which has the name of
the registry's own resource; the list in force at a point in time is found by asking for that name,
type and time. A new version takes effect after the one it replaces, whatever the clock reads.
-/

namespace DidRegistry.AnonCreds

namespace RevocationStatusList

/-- The list with credentials revoked. If an index is outside the list, nothing is revoked. -/
def revoke (list : RevocationStatusList) (indexes : List UInt32) :
    Except Error RevocationStatusList :=
  let size := list.revocationList.length
  match indexes.find? (size ≤ ·.toNat) with
  | some index =>
    .error (.invalidInput s!"credential index {index.toNat} is outside a list of {size}")
  | none =>
    .ok { list with
      revocationList :=
        indexes.foldl (fun entries index => entries.set index.toNat 1) list.revocationList }

/-- When a version takes effect that replaces the list: now, or a second after the list if that is
later. -/
def nextTimestamp (list : RevocationStatusList) (now : Int64) : Except Error Int64 :=
  match list.timestamp with
  | none => .ok now
  | some previous =>
    if previous = Int64.maxValue then
      .error (.invalidResponse s!"status list timestamp {previous.toInt} cannot be advanced")
    else .ok (max now (previous + 1))

end RevocationStatusList

/-- The version of a list that takes effect at a point in time. -/
def listVersion (timestamp : Int64) : String := toString timestamp.toInt

/-! ### The list in force -/

/-- The query for the list in force at a point in time. -/
def statusListQuery (name time : String) : String :=
  Form.encode [("resourceType", ResourceType.statusList.name), ("resourceName", name),
    ("resourceTime", time)]

/-- The DID URL of the list in force at a point in time. -/
def statusListUrl (issuer name : String) (epoch : Int64) : Except Error String :=
  match Calendar.timestamp? epoch.toInt with
  | some time => .ok (issuer ++ "?" ++ statusListQuery name time)
  | none => .error (.invalidInput s!"timestamp {epoch.toInt} is out of range")

/-- The list as it is handed on: with its registry, which its content does not name, and in force
from the time asked for if it does not say itself. -/
def placed (registryId : String) (epoch : Int64) (resolved : Resolved RevocationStatusList) :
    Resolved RevocationStatusList :=
  { resolved with
    value := { resolved.value with
      revRegDefId := registryId
      timestamp := some (resolved.value.timestamp.getD epoch) } }

/-- Finds the list in force at a point in time, now if none is given, together with the name that
all lists of the registry share. -/
def listInForce (services : Services) (registryId : String) (timestamp : Option Int64) :
    Program (String × Resolved RevocationStatusList) := do
  let definition ← getRevocationRegistryDefinition services registryId
  let name ← resourceName definition.metadata definition.id
  let (issuer, _) ← Identifier.split registryId
  let epoch ← match timestamp with
    | some timestamp => pure timestamp
    | none => Program.now
  let didUrl ← statusListUrl issuer name epoch
  let resolved ← resolve services didUrl issuer
  pure (name, placed registryId epoch resolved)

/-- Resolves the list in force at a point in time, now if none is given. -/
def getRevocationList (services : Services) (registryId : String) (timestamp : Option Int64) :
    Program (Resolved RevocationStatusList) := do
  let (_, resolved) ← listInForce services registryId timestamp
  pure resolved

/-! ### Publishing lists -/

/-- Publishes the first list of a registry. It takes effect now if it does not say itself. -/
def registerRevocationList (services : Services) (list : RevocationStatusList) :
    Program (RegistrationResult RevocationStatusList) := do
  let definition ← getRevocationRegistryDefinition services list.revRegDefId
  let name ← resourceName definition.metadata definition.id
  let timestamp ← match list.timestamp with
    | some timestamp => pure timestamp
    | none => Program.now
  publish services .create name (listVersion timestamp) { list with timestamp := some timestamp }

/-- Publishes the version of a list that a change makes of it. -/
def publishChange (services : Services) (name : String) (list : RevocationStatusList)
    (update : RevListUpdate) : Program (RegistrationResult RevocationStatusList) := do
  let revoked ← list.revoke update.revoked
  let now ← Program.now
  let timestamp ← revoked.nextTimestamp now
  publish services .update name (listVersion timestamp)
    { revoked with
      currentAccumulator := update.currentAccumulator
      timestamp := some timestamp }

/-- Revokes credentials: looks up the list in force and publishes its next version. -/
def updateRevocationList (services : Services) (registryId : String) (update : RevListUpdate) :
    Program (RegistrationResult RevocationStatusList) := do
  let (name, current) ← listInForce services registryId none
  publishChange services name current.value update

end DidRegistry.AnonCreds
