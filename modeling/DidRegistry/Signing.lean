import DidRegistry.Error
import DidRegistry.Json.Decoding

/-!
Requests for signatures, the signatures that answer them, and the check that a batch of signatures
answers a batch of requests: the key IDs of the signatures are those of the requests, each as often
as it was asked for, in any order.
-/

namespace DidRegistry

/-- A payload that a key has to sign. -/
structure SigningRequest where
  /-- ID of the key. -/
  kid : String
  /-- The payload, as the registrar wrote it. -/
  serializedPayload : String
  deriving DecidableEq, Repr

structure SigningResponse where
  /-- ID of the key that signed. -/
  kid : String
  /-- The signature, encoded as text. -/
  signature : String
  deriving DecidableEq, Repr

namespace SigningRequest

def record : Record SigningRequest :=
  SigningRequest.mk <$> .required "kid" .text <*> .required "serializedPayload" .text

def toJson (request : SigningRequest) : Json :=
  .obj [("kid", .str request.kid), ("serializedPayload", .str request.serializedPayload)]

end SigningRequest

namespace SigningResponse

def record : Record SigningResponse :=
  SigningResponse.mk <$> .required "kid" .text <*> .required "signature" .text

def toJson (response : SigningResponse) : Json :=
  .obj [("kid", .str response.kid), ("signature", .str response.signature)]

end SigningResponse

namespace Signing

/-- What is wrong with a batch of signatures. -/
inductive Mismatch where
  | count (expected received : Nat)
  | duplicate (kid : String)
  | unexpected (kid : String)
  deriving DecidableEq, Repr

def Mismatch.message : Mismatch → String
  | .count expected received => s!"expected {expected} signatures, received {received}"
  | .duplicate kid => s!"duplicate signature for {kid}"
  | .unexpected kid => s!"unexpected signature for {kid}"

/-- The first signature that is not asked for, given the key IDs asked for in all and those of them
that still wait for a signature. -/
def firstSurplus (requested : List String) : List String → List String → Option Mismatch
  | _, [] => none
  | waiting, kid :: rest =>
    if kid ∈ waiting then firstSurplus requested (waiting.erase kid) rest
    else if kid ∈ requested then some (.duplicate kid)
    else some (.unexpected kid)

/-- Accepts a batch of signatures for a batch of requests, unchanged. -/
def check (requests : List SigningRequest) (responses : List SigningResponse) :
    Except Mismatch (List SigningResponse) :=
  let requested := requests.map (·.kid)
  if responses.length ≠ requests.length then
    .error (.count requests.length responses.length)
  else match firstSurplus requested requested (responses.map (·.kid)) with
    | some mismatch => .error mismatch
    | none => .ok responses

end Signing
end DidRegistry
