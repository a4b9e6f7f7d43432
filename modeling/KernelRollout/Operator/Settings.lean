import KernelRollout.Net.SocketAddress
import KernelRollout.Operator.Error
import KernelRollout.Text.Blank
import KernelRollout.Time.Duration

namespace KernelRollout

abbrev Environment := String → Option String

-- Seconds fit into 64 bits.
structure Settings where
  ns               : Option String := none
  requeueDelaySecs : Nat := 5
  apiTimeoutSecs   : Nat := 10
  backoffMinSecs   : Nat := 5
  backoffMaxSecs   : Nat := 300
  probeAddress     : Net.SocketAddress := .v4 ⟨0, 0, 0, 0⟩ 8081
deriving DecidableEq

namespace Settings

def readSecs (raw : String) : Except ValueProblem Nat :=
  (Text.readNumeral Text.wordBound (Text.trim raw)).mapError .numeral

def readAddress (raw : String) : Except ValueProblem Net.SocketAddress :=
  match Net.SocketAddress.parse (Text.trim raw) with
  | some a => .ok a
  | none   => .error .address

-- A variable that is not set leaves the default.
def readVariable (env : Environment) (read : String → Except ValueProblem α) (default : α)
    (name : String) : Except OperatorError α :=
  match env name with
  | none     => .ok default
  | some raw => (read raw).mapError fun problem => .invalidConfig (.unreadable name raw problem)

-- A blank namespace counts as none. Then all namespaces are watched.
def readNamespace (env : Environment) : Option String :=
  (env "WATCH_NAMESPACE").filter fun ns => !Text.allBlank ns

-- Calls need some time, and the delays some room to grow.
def check (s : Settings) : Except OperatorError Settings :=
  if s.apiTimeoutSecs = 0 then .error (.invalidConfig .zeroTimeout)
  else if s.backoffMinSecs = 0 ∨ s.backoffMaxSecs < s.backoffMinSecs then
    .error (.invalidConfig (.backoffBounds s.backoffMinSecs s.backoffMaxSecs))
  else .ok s

def read (env : Environment) : Except OperatorError Settings := do
  let defaults : Settings := {}
  let requeue ← readVariable env readSecs defaults.requeueDelaySecs "REQUEUE_DELAY_SECS"
  let timeout ← readVariable env readSecs defaults.apiTimeoutSecs "API_TIMEOUT_SECS"
  let min ← readVariable env readSecs defaults.backoffMinSecs "ERROR_BACKOFF_MIN_SECS"
  let max ← readVariable env readSecs defaults.backoffMaxSecs "ERROR_BACKOFF_MAX_SECS"
  let address ← readVariable env readAddress defaults.probeAddress "PROBE_ADDR"
  check {
    ns := readNamespace env, requeueDelaySecs := requeue, apiTimeoutSecs := timeout,
    backoffMinSecs := min, backoffMaxSecs := max, probeAddress := address }

def requeueDelay (s : Settings) : Duration := .ofSecs s.requeueDelaySecs

end Settings

end KernelRollout
