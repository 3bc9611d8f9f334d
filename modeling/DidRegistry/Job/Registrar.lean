import DidRegistry.Interaction.Program
import DidRegistry.Job.State
import DidRegistry.Text.Form
import DidRegistry.Url.Host

/-!
Requests to a registrar: the draft of a DID document for a key, and the submission of an envelope to
one of the endpoints for jobs. Each is one request with one reply.
-/

namespace DidRegistry

inductive Endpoint where
  | create
  | update
  | deactivate
  | createResource
  | updateResource
  deriving DecidableEq, Repr

namespace Endpoint

/-- The name of an endpoint beneath the base URL. -/
def path : Endpoint → String
  | .create => "create"
  | .update => "update"
  | .deactivate => "deactivate"
  | .createResource => "createResource"
  | .updateResource => "updateResource"

/-- The statuses with which a registrar takes a submission. -/
def accepts : Endpoint → Nat → Bool
  | .create, status | .createResource, status => status == 200 || status == 201
  | .update, status | .deactivate, status | .updateResource, status => status == 200

end Endpoint

/-- The free-form value that octets write as JSON. -/
def Value.ofBytes? (bytes : Bytes) : Option Value := Json.ofBytes? bytes >>= Value.ofJson?

namespace Registrar

/-- The form of answer that a registrar is asked for. -/
def accept : String := "application/json"

/-- The URL of an endpoint. A base URL whose path has no structure has no endpoints. -/
def endpointUrl (base : Url) (name : String) : Except Error Url :=
  match base.sibling? name with
  | some url => .ok url
  | none => .error (.config s!"invalid endpoint {name}: {UrlError.relativeOnRootless.message}")

def draftQuery (network publicKeyHex verificationMethod : String) : String :=
  Form.encode [("methodSpecificIdAlgo", "uuid"), ("network", network),
    ("publicKeyHex", publicKeyHex), ("verificationMethod", verificationMethod)]

/-- The draft of a DID document for a key. -/
def draft (base : Url) (network publicKeyHex verificationMethod : String) : Program Value := do
  let url ← endpointUrl base "did-document"
  let reply ← Program.fetch
    ⟨url.withQuery (draftQuery network publicKeyHex verificationMethod), accept, none⟩
  if reply.status ≠ 200 then .fail (.transport url.render reply.status)
  else match Value.ofBytes? reply.body with
    | some document => .done document
    | none => .fail .request

/-- Reads the reply to a submission. -/
def report (url : Url) (endpoint : Endpoint) (reply : HttpReply) : Except Error JobResponse :=
  if endpoint.accepts reply.status then
    match JobResponse.record.decoder.ofBytes reply.body with
    | .ok response => .ok response
    | .error problem =>
      .error (.invalidResponse s!"{endpoint.path} response: {problem.message}")
  else .error (.transport url.render reply.status)

def submit (base : Url) (endpoint : Endpoint) (envelope : Json) : Program JobResponse := do
  let url ← endpointUrl base endpoint.path
  let reply ← Program.fetch ⟨url, accept, some envelope⟩
  report url endpoint reply

/-- Resources stay: the method has no way to deactivate one. -/
def deactivateResource : Program JobResponse :=
  .fail (.notSupported "This method will not be implemented for did:cheqd.")

end Registrar
end DidRegistry
