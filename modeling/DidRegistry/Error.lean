import DidRegistry.Json.Basic

/-!
What can go wrong in an operation, and how it is reported: a sentence for people, a short code for
programs, whether the caller's own key material or wallet is at fault, and the registrar's job if
there is one.
-/

namespace DidRegistry

/-- The reasons for which operations fail. -/
inductive Error where
  /-- The registrar returned no usable draft of a DID document. -/
  | documentConstruction
  /-- A seed was given where the settings allow none. -/
  | keyPolicy
  /-- A job waits for signatures but asks for none. -/
  | noSigningRequests (operation : String)
  /-- The wallet did not sign, or not what was asked for. -/
  | signing (reason : String)
  /-- The wallet could not create or bind a key. -/
  | wallet (reason : String)
  /-- The registrar gave a job up. -/
  | registration (operation : String) (jobId : Option String) (reason : String)
  /-- The DID is deactivated or unknown. -/
  | didNotFound (did : String)
  /-- There is no such resource. -/
  | resourceNotFound (id : String)
  /-- A peer answered with a status that means failure. -/
  | transport (url : String) (status : Nat)
  /-- A request could not be sent, or its answer could not be read. -/
  | request
  /-- A job still waits for signatures after the last round allowed. -/
  | protocolExhausted (jobId : String) (rounds : Nat)
  /-- The DID method has no such operation. -/
  | notSupported (reason : String)
  /-- An identifier does not have the form it should have. -/
  | invalidIdentifier (reason : String)
  /-- A value given by the caller is out of range. -/
  | invalidInput (reason : String)
  /-- A peer's answer cannot be interpreted. -/
  | invalidResponse (reason : String)
  /-- The settings cannot be used. -/
  | config (reason : String)
  /-- A document does not have the form it should have. -/
  | serialization (reason : String)
  deriving DecidableEq, Repr

namespace Error

def code : Error → String
  | .documentConstruction => "document_construction_error"
  | .keyPolicy => "key_policy_error"
  | .noSigningRequests _ => "no_signing_requests"
  | .signing _ => "signing_error"
  | .wallet _ => "wallet_error"
  | .registration _ _ _ => "registration_error"
  | .didNotFound _ => "did_not_found"
  | .resourceNotFound _ => "resource_not_found"
  | .transport _ _ | .request => "transport_error"
  | .protocolExhausted _ _ => "protocol_exhausted"
  | .notSupported _ => "not_supported"
  | .invalidIdentifier _ => "invalid_identifier"
  | .invalidInput _ => "invalid_input"
  | .invalidResponse _ => "invalid_response"
  | .config _ => "invalid_config"
  | .serialization _ => "serialization_error"

def message : Error → String
  | .documentConstruction => "Error constructing DID Document"
  | .keyPolicy => "Insecure seed is not allowed"
  | .noSigningRequests operation => s!"No signing requests available for {operation}."
  | .signing reason => s!"signing failed: {reason}"
  | .wallet reason => s!"wallet error: {reason}"
  | .registration operation _ reason => s!"registrar {operation} job failed: {reason}"
  | .didNotFound did => s!"DID is already deactivated or not found: {did}"
  | .resourceNotFound id => s!"resource not found: {id}"
  | .transport url status => s!"request to {url} failed with status {status}"
  | .request => "request error"
  | .protocolExhausted jobId rounds =>
    s!"job {jobId} still awaiting action after {rounds} signing rounds"
  | .notSupported reason => reason
  | .invalidIdentifier reason => s!"invalid identifier: {reason}"
  | .invalidInput reason => s!"invalid input: {reason}"
  | .invalidResponse reason => s!"invalid response: {reason}"
  | .config reason => s!"invalid configuration: {reason}"
  | .serialization reason => s!"serialization error: {reason}"

/-- Whether the caller's key material or wallet is at fault. -/
def isClientError : Error → Bool
  | .keyPolicy | .signing _ | .wallet _ => true
  | _ => false

def jobId? : Error → Option String
  | .registration _ jobId _ => jobId
  | .protocolExhausted jobId _ => some jobId
  | _ => none

/-- The error as an object of the form that authorization servers answer with. -/
def toJson (error : Error) : Json :=
  .obj [("error", .str error.code), ("error_description", .str error.message)]

end Error
end DidRegistry
