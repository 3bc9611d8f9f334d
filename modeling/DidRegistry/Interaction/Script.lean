import DidRegistry.Interaction.Program

/-!
Scripted surroundings: peers and a wallet that answer from queues, one entry per call, and a clock
that stands still. What happens once a queue is empty is fixed as well, so that every program can be
run against every script.
-/

namespace DidRegistry

/-- How a scripted wallet answers a batch of signing requests. -/
inductive SigningScript where
  /-- A signature for each request, in order. -/
  | inOrder
  /-- The same signatures, the last first. -/
  | reversed
  /-- These signatures. -/
  | given (responses : List SigningResponse)
  /-- No signatures, for this reason. -/
  | fails (reason : String)
  deriving DecidableEq, Repr

structure Script where
  /-- Whether the peers can be reached at all. -/
  reachable : Bool
  /-- What becomes of requests that reach a peer. -/
  deliveries : List Delivery
  /-- The wallet's new keys. -/
  createKey : List (Except String Bytes)
  /-- Whether the wallet binds key IDs. -/
  assignKid : List (Except String Unit)
  /-- The wallet's signatures. -/
  sign : List SigningScript
  /-- What the clock reads. -/
  now : Int64

namespace Script

/-- The reply of a peer that has nothing to say. -/
def unavailable : Delivery := .replied ⟨503, []⟩

/-- The public part of a key that no script gives. -/
def plainKey : Bytes := [0, 1, 2, 3]

/-- The signature that a scripted wallet makes of a payload: the payload, in view. -/
def signature (request : SigningRequest) : SigningResponse :=
  ⟨request.kid, "sig(" ++ request.serializedPayload ++ ")"⟩

def signatures (requests : List SigningRequest) :
    SigningScript → Except String (List SigningResponse)
  | .inOrder => .ok (requests.map signature)
  | .reversed => .ok (requests.map signature).reverse
  | .given responses => .ok responses
  | .fails reason => .error reason

/-- Replies with these statuses have no body. -/
def bodiless (delivery : Delivery) : Delivery :=
  match delivery with
  | .replied reply =>
    if reply.status = 204 ∨ reply.status = 304 then .replied { reply with body := [] }
    else .replied reply
  | other => other

/-- Answers a call from the queues. -/
def answer : (call : Call) → Script → call.Answer × Script
  | .fetch _, script =>
    if script.reachable then
      (bodiless (script.deliveries.head?.getD unavailable),
        { script with deliveries := script.deliveries.tail })
    else (Delivery.refused, script)
  | .createKey _, script =>
    (script.createKey.head?.getD (.ok plainKey), { script with createKey := script.createKey.tail })
  | .assignKid _ _, script =>
    (script.assignKid.head?.getD (.ok ()), { script with assignKid := script.assignKid.tail })
  | .sign requests, script =>
    (signatures requests (script.sign.head?.getD .inOrder),
      { script with sign := script.sign.tail })
  | .clock, script => (script.now, script)

def surroundings : Surroundings Script := ⟨answer⟩

end Script
end DidRegistry
