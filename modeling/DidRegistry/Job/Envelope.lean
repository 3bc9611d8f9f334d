import DidRegistry.Signing

/-!
What is submitted to a registrar: the envelopes that begin jobs, and the envelope that carries
signatures for a job that waits for them.
-/

namespace DidRegistry.Envelope

/-- Method-specific options: the network of a DID. -/
def options (network : String) : Json := .obj [("network", .str network)]

def create (document : Value) (network : String) : Json :=
  .obj [("didDocument", document.json), ("network", .str network)]

def update (did : String) (document : Value) : Json :=
  .obj [("did", .str did), ("didDocumentOperation", .arr [.str "setDidDocument"]),
    ("didDocument", .arr [document.json])]

def deactivate (did : String) : Json := .obj [("did", .str did)]

/-- What a job repeats with every submission of signatures: the network for a new DID, the DID and
its options for a resource. -/
structure Context where
  network : Option String
  did : Option String
  options : Option Json
  deriving DecidableEq, Repr

/-- A job that repeats nothing. -/
def Context.none : Context := ⟨.none, .none, .none⟩

/-- Continues a job with signatures. -/
def signatures (jobId : String) (context : Context) (responses : List SigningResponse) : Json :=
  .obj (("jobId", .str jobId) :: Json.member "network" .str context.network ++
    Json.member "did" .str context.did ++ Json.member "options" id context.options ++
    [("secret", .obj [("signingResponse", .arr (responses.map SigningResponse.toJson))])])

end DidRegistry.Envelope
