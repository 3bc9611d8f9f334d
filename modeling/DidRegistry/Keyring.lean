import DidRegistry.Interaction.Call
import DidRegistry.Text.Base64

/-!
A wallet in memory. It holds keys of a signature scheme by their public parts, binds key IDs to keys
it holds, and keeps all requests that reached its signer. Any scheme will do whose signatures verify
under the public part of the key. The scheme that wallets are tried out with hides nothing: a
signature is the public part of the key in front of what was signed, so that it shows under which
key it verifies.
-/

namespace DidRegistry

/-- The octets of a public key, and of a seed. -/
def keyLength : Nat := 32

/-! ### Signature schemes -/

/-- A signature scheme, as far as wallets depend on it. -/
structure SignatureScheme where
  /-- Keys, secret parts included. -/
  Key : Type
  /-- The public part of a key. -/
  verkey : Key → Bytes
  /-- The key of a seed. -/
  ofSeed : Bytes → Key
  /-- The keys that are drawn, one after the other. -/
  drawn : Nat → Key
  /-- The signature of a key on octets. -/
  sign : Key → Bytes → Bytes
  /-- Whether this is a signature on octets, given the public part of the key. -/
  verifies : (verkey message signature : Bytes) → Bool
  verifies_sign : ∀ key message, verifies (verkey key) message (sign key message) = true

namespace SignatureScheme

/-- The key of a seed: its octets, every bit of them turned over. -/
def seededKey (seed : Bytes) : Bytes := seed.map (255 - ·)

/-- The keys that are drawn, one after the other. They begin with an octet that no key of a seed
begins with, since no text has an octet of all ones. -/
def drawnKey (index : Nat) : Bytes :=
  0 :: (List.range (keyLength - 1)).reverse.map fun place =>
    UInt8.ofNat ((index + 1) >>> (8 * place))

/-- The scheme that hides nothing. -/
def transparent : SignatureScheme where
  Key := Bytes
  verkey key := key
  ofSeed := seededKey
  drawn := drawnKey
  sign key message := key ++ message
  verifies verkey message signature := signature == verkey ++ message
  verifies_sign _ _ := beq_self_eq_true _

end SignatureScheme

structure Keyring (scheme : SignatureScheme := .transparent) where
  /-- Whether its signer always fails. -/
  failing : Bool
  /-- How many keys it has drawn without a seed. -/
  drawn : Nat
  /-- The keys it holds, each with its public part, the latest first. -/
  keys : List (Bytes × scheme.Key)
  /-- The bindings of key IDs, the latest first. -/
  kids : List (String × Bytes)
  /-- The requests that reached its signer, in order. -/
  signed : List SigningRequest

namespace Keyring

variable {scheme : SignatureScheme}

def empty (failing : Bool) : Keyring scheme := ⟨failing, 0, [], [], []⟩

/-! ### Keys -/

def key? (ring : Keyring scheme) (verkey : Bytes) : Option scheme.Key := ring.keys.lookup verkey

def hold (ring : Keyring scheme) (key : scheme.Key) : Keyring scheme :=
  { ring with keys := (scheme.verkey key, key) :: ring.keys }

/-- Creates a key. From a seed always the same key comes. -/
def createKey (ring : Keyring scheme) : Option String → Except String Bytes × Keyring scheme
  | none =>
    let key := scheme.drawn ring.drawn
    (.ok (scheme.verkey key), { ring with drawn := ring.drawn + 1 }.hold key)
  | some seed =>
    let octets := Bytes.ofText seed
    if octets.length = keyLength then
      (.ok (scheme.verkey (scheme.ofSeed octets)), ring.hold (scheme.ofSeed octets))
    else (.error "seed must be 32 bytes", ring)

/-! ### Bindings -/

/-- The key that a key ID is bound to. -/
def verkey? (ring : Keyring scheme) (kid : String) : Option Bytes := ring.kids.lookup kid

/-- The ring with a key ID bound to a key. -/
def bind (ring : Keyring scheme) (verkey : Bytes) (kid : String) : Keyring scheme :=
  { ring with kids := (kid, verkey) :: ring.kids }

/-- Binds a key ID to a key of the ring, whatever it was bound to before. -/
def assignKid (ring : Keyring scheme) (verkey : Bytes) (kid : String) :
    Except String Unit × Keyring scheme :=
  if (ring.key? verkey).isSome then (.ok (), ring.bind verkey kid)
  else (.error "key not found", ring)

/-! ### Signatures -/

/-- What is signed of a payload: the octets it writes in base64, or else the octets of its text. -/
def signedOctets (payload : String) : Bytes := (Base64.decode? payload).getD (Bytes.ofText payload)

/-- The signature of a key on a payload, as text. -/
def signature (key : scheme.Key) (payload : String) : String :=
  Base64.encode (scheme.sign key (signedOctets payload))

/-- The key and the octets that a signature shows, if the scheme hides nothing. -/
def opened? (signature : String) : Option (Bytes × Bytes) :=
  (Base64.decode? signature).map fun octets => (octets.take keyLength, octets.drop keyLength)

/-- Answers one request. -/
def signOne (ring : Keyring scheme) (request : SigningRequest) : Except String SigningResponse :=
  match ring.verkey? request.kid with
  | none => .error s!"no key bound to {request.kid}"
  | some verkey =>
    match ring.key? verkey with
    | none => .error "key not found"
    | some key => .ok ⟨request.kid, signature key request.serializedPayload⟩

/-- Signs a batch. A batch that reaches the signer is kept, even if the signer then lacks a key. -/
def sign (ring : Keyring scheme) (requests : List SigningRequest) :
    Except String (List SigningResponse) × Keyring scheme :=
  if ring.failing then (.error "signer unavailable", ring)
  else (requests.mapM ring.signOne, { ring with signed := ring.signed ++ requests })

/-! ### Sessions -/

/-- What can be asked of a wallet in memory. -/
inductive Request where
  /-- A new key, from a seed if there is one. -/
  | createKey (seed : Option String)
  /-- That a key ID be bound to a key. -/
  | assignKid (verkey : Bytes) (kid : String)
  /-- The key that a key ID is bound to. -/
  | verkey (kid : String)
  /-- The signatures for a batch. -/
  | sign (requests : List SigningRequest)
  /-- The requests that reached the signer. -/
  | signed
  deriving DecidableEq, Repr

inductive Reply where
  | created (verkey : Bytes)
  | bound
  | verkey (verkey : Option Bytes)
  | signatures (responses : List SigningResponse)
  | signed (requests : List SigningRequest)
  | failed (reason : String)
  deriving DecidableEq, Repr

def Reply.ofExcept {α : Type} (reply : α → Reply) : Except String α → Reply
  | .ok value => reply value
  | .error reason => .failed reason

def answer (ring : Keyring scheme) : Request → Reply × Keyring scheme
  | .createKey seed =>
    let (result, ring) := ring.createKey seed
    (.ofExcept .created result, ring)
  | .assignKid verkey kid =>
    let (result, ring) := ring.assignKid verkey kid
    (.ofExcept (fun _ => .bound) result, ring)
  | .verkey kid => (.verkey (ring.verkey? kid), ring)
  | .sign requests =>
    let (result, ring) := ring.sign requests
    (.ofExcept .signatures result, ring)
  | .signed => (.signed ring.signed, ring)

/-- Answers requests one after the other. -/
def session (ring : Keyring scheme) : List Request → List Reply × Keyring scheme
  | [] => ([], ring)
  | request :: rest =>
    let (reply, ring) := ring.answer request
    let (replies, ring) := ring.session rest
    (reply :: replies, ring)

end Keyring
end DidRegistry
