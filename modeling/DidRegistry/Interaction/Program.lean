import DidRegistry.Interaction.Call

/-!
Operations as programs: trees of calls whose branches are the possible answers. A program can be run
against any surroundings that answer its calls, step by step with a state of their own; a run keeps
all exchanges in order.
-/

namespace DidRegistry

/-- A program that ends with a value or an error after calls on its surroundings. -/
inductive Program (α : Type) where
  | done (value : α)
  | fail (error : Error)
  | ask (call : Call) (next : call.Answer → Program α)

namespace Program

variable {α β : Type}

/-- One program after the other. An error ends both. -/
protected def bind : Program α → (α → Program β) → Program β
  | .done value, next => next value
  | .fail error, _ => .fail error
  | .ask call answered, next => .ask call fun answer => (answered answer).bind next

instance : Monad Program where
  pure := .done
  bind := Program.bind

/-- A value that may be an error. -/
def ofExcept : Except Error α → Program α
  | .ok value => .done value
  | .error error => .fail error

instance : MonadLift (Except Error) Program where
  monadLift := ofExcept

/-! ### Calls -/

/-- The reply to a request. URLs that are not of HTTP are not asked for, and a request without a
reply is an error. -/
def fetch (request : HttpRequest) : Program HttpReply :=
  if request.url.isWeb then
    .ask (.fetch request) fun
      | .replied reply => .done reply
      | .dropped | .refused => .fail .request
  else .fail .request

def createKey (seed : Option String) : Program Bytes :=
  .ask (.createKey seed) fun
    | .ok verkey => .done verkey
    | .error reason => .fail (.wallet reason)

def assignKid (verkey : Bytes) (kid : String) : Program Unit :=
  .ask (.assignKid verkey kid) fun
    | .ok () => .done ()
    | .error reason => .fail (.wallet reason)

/-- Binds key IDs to a key, one after the other. -/
def assignKids (verkey : Bytes) : List String → Program Unit
  | [] => .done ()
  | kid :: rest => (assignKid verkey kid).bind fun _ => assignKids verkey rest

/-- The signatures for a batch of requests, checked to answer it. -/
def sign (requests : List SigningRequest) : Program (List SigningResponse) :=
  .ask (.sign requests) fun
    | .error reason => .fail (.signing reason)
    | .ok responses =>
      match Signing.check requests responses with
      | .ok responses => .done responses
      | .error mismatch => .fail (.signing mismatch.message)

/-- What the clock reads. -/
def now : Program Int64 := .ask .clock .done

end Program

/-! ### Runs -/

/-- Surroundings with a state: how they answer a call, and the state they are in afterwards. -/
structure Surroundings (σ : Type) where
  answer : (call : Call) → σ → call.Answer × σ

/-- A finished run: all exchanges in order, how the program ended, and the state of the surroundings
at the end. -/
structure Run (σ α : Type) where
  exchanges : List Exchange
  result : Except Error α
  state : σ

namespace Run

variable {σ α : Type}

def after (exchange : Exchange) (run : Run σ α) : Run σ α :=
  { run with exchanges := exchange :: run.exchanges }

/-- What an observer sees of a run. -/
def events (run : Run σ α) : List Event := run.exchanges.filterMap Exchange.event?

end Run

def Program.run {σ α : Type} (surroundings : Surroundings σ) : Program α → σ → Run σ α
  | .done value, state => ⟨[], .ok value, state⟩
  | .fail error, state => ⟨[], .error error, state⟩
  | .ask call next, state =>
    let (answer, state) := surroundings.answer call state
    ((next answer).run surroundings state).after ⟨call, answer⟩

end DidRegistry
