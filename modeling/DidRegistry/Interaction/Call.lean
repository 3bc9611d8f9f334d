import DidRegistry.Json.Basic
import DidRegistry.Signing
import DidRegistry.Text.Utf8
import DidRegistry.Url.Basic

/-!
What operations ask of their surroundings: requests over HTTP, work for the wallet, and the time.
Each kind of call has its own type of answers.
-/

namespace DidRegistry

/-- A request over HTTP. One with a body is a POST of that document as `application/json`, one
without is a GET. -/
structure HttpRequest where
  url : Url
  /-- The form of answer that is asked for. -/
  accept : String
  body : Option Json
  deriving DecidableEq, Repr

structure HttpReply where
  status : Nat
  body : Bytes
  deriving DecidableEq, Repr

/-- What becomes of a request: it is replied to, or the peer takes it and hangs up, or no peer can
be reached. -/
inductive Delivery where
  | replied (reply : HttpReply)
  | dropped
  | refused
  deriving DecidableEq, Repr

inductive Call where
  /-- Sends a request. -/
  | fetch (request : HttpRequest)
  /-- Has the wallet create a key, from a seed if there is one. -/
  | createKey (seed : Option String)
  /-- Has the wallet bind a key ID to the key with this public part. -/
  | assignKid (verkey : Bytes) (kid : String)
  /-- Has the wallet sign a batch. -/
  | sign (requests : List SigningRequest)
  /-- Reads the clock, in seconds since the epoch. -/
  | clock
  deriving DecidableEq, Repr

/-- The answers to a call. The wallet may fail for a reason of its own. -/
def Call.Answer : Call → Type
  | .fetch _ => Delivery
  | .createKey _ => Except String Bytes
  | .assignKid _ _ => Except String Unit
  | .sign _ => Except String (List SigningResponse)
  | .clock => Int64

structure Exchange where
  call : Call
  answer : call.Answer

/-- What an observer of the peers and the wallet sees. -/
inductive Event where
  | request (request : HttpRequest)
  | createKey (seed : Option String)
  | assignKid (verkey : Bytes) (kid : String)
  | sign (requests : List SigningRequest)
  deriving DecidableEq, Repr

/-- What an observer sees of an exchange. A request that reaches no peer and a look at the clock
leave no trace. -/
def Exchange.event? : Exchange → Option Event
  | ⟨.fetch _, .refused⟩ => none
  | ⟨.fetch request, _⟩ => some (.request request)
  | ⟨.createKey seed, _⟩ => some (.createKey seed)
  | ⟨.assignKid verkey kid, _⟩ => some (.assignKid verkey kid)
  | ⟨.sign requests, _⟩ => some (.sign requests)
  | ⟨.clock, _⟩ => none

end DidRegistry
