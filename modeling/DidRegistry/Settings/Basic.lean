import DidRegistry.Error
import DidRegistry.Url.Reader

/-!
Settings of a registry: where its peers are, which network it works on, and the limits it keeps.
Settings can be used if both base URLs can be read and at least one round of signing is allowed.
-/

namespace DidRegistry

structure Settings where
  /-- Base URL of the registrar. -/
  registrarUrl : String
  /-- Base URL of the resolver. -/
  resolverUrl : String
  /-- Network that new DIDs are created on. -/
  network : String
  /-- Type of the verification method in drafts of DID documents. -/
  verificationMethod : String
  /-- Rounds of signing after which a job is given up. -/
  maxRounds : Nat
  /-- Whether keys may be derived from seeds that callers supply. -/
  allowInsecureSeed : Bool
  /-- Seconds after which a request is given up. -/
  timeoutSecs : Nat
  deriving DecidableEq, Repr

namespace Settings

/-- The settings of a registry whose peers run on the same machine. -/
def standard : Settings where
  registrarUrl := "http://localhost:3000/1.0/"
  resolverUrl := "http://localhost:8080/1.0/identifiers/"
  network := "testnet"
  verificationMethod := "Ed25519VerificationKey2020"
  maxRounds := 10
  allowInsecureSeed := false
  timeoutSecs := 30

/-- The text of a base URL with a slash at its end, so that names join beneath it. -/
def slashEnded (text : String) : String := if text.endsWith "/" then text else text ++ "/"

/-- Reads a base URL. -/
def baseUrl (text : String) : Except Error Url :=
  match Url.parse (slashEnded text) with
  | .ok url => .ok url
  | .error problem =>
    .error (.config s!"invalid base URL {slashEnded text}: {problem.message}")

/-- Checks that the settings can be used. -/
def validate (settings : Settings) : Except Error Unit := do
  let _ ← baseUrl settings.registrarUrl
  let _ ← baseUrl settings.resolverUrl
  if settings.maxRounds = 0 then throw (.config "max_rounds must be greater than zero")

end Settings
end DidRegistry
