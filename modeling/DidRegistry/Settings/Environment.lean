import DidRegistry.Settings.Basic

/-!
Settings from environment variables. A variable that is not set leaves the standard setting; numbers
and switches are read in a fixed order, and the settings are validated last.
-/

namespace DidRegistry.Settings

/-- Why a text is no number of 64 bits. -/
inductive NumberError where
  | empty
  | invalidDigit
  | tooLarge
  deriving DecidableEq, Repr

def NumberError.message : NumberError → String
  | .empty => "cannot parse integer from empty string"
  | .invalidDigit => "invalid digit found in string"
  | .tooLarge => "number too large to fit in target type"

/-- Appends a digit to a number, as long as it fits. -/
def appendDigit (value : Nat) (c : Char) : Except NumberError Nat :=
  match Digits.decimal? c with
  | none => .error .invalidDigit
  | some digit =>
    if 10 * value + digit < UInt64.size then .ok (10 * value + digit) else .error .tooLarge

/-- Reads a number of 64 bits: decimal digits, behind a plus sign or not. The first character that
breaks the rule tells the reason. -/
def readNumber (text : String) : Except NumberError Nat :=
  match text.toList with
  | [] => .error .empty
  | '+' :: digit :: digits => (digit :: digits).foldlM appendDigit 0
  | digits => digits.foldlM appendDigit 0

/-- The environment: the values of the variables that are set. -/
abbrev Environment := String → Option String

def Environment.number (environment : Environment) (name : String) (standard : Nat) :
    Except Error Nat :=
  match environment name with
  | none => .ok standard
  | some text => match readNumber text with
    | .ok value => .ok value
    | .error problem => .error (.config s!"{name}: {problem.message}")

def Environment.switch (environment : Environment) (name : String) (standard : Bool) :
    Except Error Bool :=
  match environment name with
  | none => .ok standard
  | some "true" => .ok true
  | some "false" => .ok false
  | some _ => .error (.config s!"{name}: provided string was not `true` or `false`")

/-- Settings from the environment. -/
def ofEnvironment (environment : Environment) : Except Error Settings := do
  let maxRounds ← environment.number "CHEQD_MAX_ROUNDS" standard.maxRounds
  let allowInsecureSeed ←
    environment.switch "CHEQD_ALLOW_INSECURE_SEED" standard.allowInsecureSeed
  let timeoutSecs ← environment.number "CHEQD_TIMEOUT_SECS" standard.timeoutSecs
  let settings : Settings :=
    { registrarUrl := (environment "CHEQD_REGISTRAR_URL").getD standard.registrarUrl
      resolverUrl := (environment "CHEQD_RESOLVER_URL").getD standard.resolverUrl
      network := (environment "CHEQD_NETWORK").getD standard.network
      verificationMethod := standard.verificationMethod
      maxRounds
      allowInsecureSeed
      timeoutSecs }
  settings.validate
  pure settings

end DidRegistry.Settings
