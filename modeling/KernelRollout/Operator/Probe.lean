import KernelRollout.Operator.Metrics

namespace KernelRollout.Probe

structure Response where
  status : Nat
  body   : String
deriving DecidableEq

-- What is served at a path.
def resource? (ready : Bool) (metrics : Metrics) : String → Option Response
  | "/healthz" => some ⟨200, "ok"⟩
  | "/readyz"  => some (if ready then ⟨200, "ready"⟩ else ⟨503, "starting"⟩)
  | "/metrics" => some ⟨200, metrics.text⟩
  | _          => none

-- The target of a request without its query.
def pathOf (target : String) : String := String.ofList (target.toList.takeWhile (· ≠ '?'))

-- Resources can be read, and HEAD leaves the body out.
def respond (ready : Bool) (metrics : Metrics) (method target : String) : Response :=
  match resource? ready metrics (pathOf target) with
  | none => ⟨404, ""⟩
  | some r =>
    if method = "GET" then r
    else if method = "HEAD" then { r with body := "" }
    else ⟨405, ""⟩

end KernelRollout.Probe
