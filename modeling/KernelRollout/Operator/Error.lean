import KernelRollout.Cluster.Error
import KernelRollout.Resource.Metadata
import KernelRollout.Text.Numeral

namespace KernelRollout

-- Why the value of a setting cannot be read.
inductive ValueProblem where
  | numeral (e : Text.NumeralError)
  | address
deriving DecidableEq

namespace ValueProblem

def message : ValueProblem → String
  | numeral e => e.message
  | address   => "invalid socket address syntax"

end ValueProblem

-- What is wrong with a configuration, of the operator or of an Onload resource.
inductive ConfigProblem where
  | blankVersion
  | preloadAndMount
  | unreadable (setting raw : String) (problem : ValueProblem)
  | zeroTimeout
  | backoffBounds (min max : Nat)
deriving DecidableEq

namespace ConfigProblem

def message : ConfigProblem → String
  | blankVersion => "spec.onload.version must not be empty"
  | preloadAndMount =>
    "spec.devicePlugin.setPreload and spec.devicePlugin.mountOnload are mutually exclusive"
  | unreadable setting raw problem =>
    setting ++ " has invalid value '" ++ raw ++ "': " ++ problem.message
  | zeroTimeout => "API_TIMEOUT_SECS must be greater than zero"
  | backoffBounds min max =>
    "error backoff bounds are inconsistent: min " ++ toString min ++ "s, max " ++ toString max ++ "s"

end ConfigProblem

-- A field of an Onload resource that the operator cannot do without.
inductive NeededField where
  | name
  | ns (onload : String)
  | uid (id : Identity)
deriving DecidableEq

namespace NeededField

def text : NeededField → String
  | name      => "Onload metadata.name"
  | ns onload => "Onload " ++ onload ++ " metadata.namespace"
  | uid id    => "Onload " ++ id.text ++ " metadata.uid"

end NeededField

inductive OperatorError where
  | cluster (e : ClusterError)
  | invalidConfig (p : ConfigProblem)
  | missingField (f : NeededField)
  | watchEnded
deriving DecidableEq

namespace OperatorError

def message? : OperatorError → Option String
  | cluster e       => e.message?.map ("Cluster error: " ++ ·)
  | invalidConfig p => some ("Invalid configuration: " ++ p.message)
  | missingField f  => some ("Missing field: " ++ f.text)
  | watchEnded      => some "Resource watch failed: Onload deletion stream ended"

end OperatorError

end KernelRollout
