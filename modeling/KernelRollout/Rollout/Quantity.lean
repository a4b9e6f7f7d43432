import KernelRollout.Resource.Pod
import KernelRollout.Rollout.Marker
import KernelRollout.Text.Blank
import KernelRollout.Text.Scan

namespace KernelRollout

namespace Quantity

def isNumeralChar (c : Char) : Bool := c.isDigit || c = '.'

-- The longest run of digits and points in front.
def numeral (raw : String) : List Char := (Text.trim raw).takeWhile isNumeralChar

-- Digits before and after at most one point, and at least one digit.
def parts? (cs : List Char) : Option (List Char × List Char) :=
  let whole := cs.takeWhile Char.isDigit
  let fraction := (cs.dropWhile Char.isDigit).drop 1
  if (whole ++ fraction).isEmpty || !fraction.all Char.isDigit then none else some (whole, fraction)

-- Half of the smallest double and anything less is rounded to zero.
def positive (whole fraction : List Char) : Bool :=
  Nat.pow 10 fraction.length < Text.natOf (whole ++ fraction) * Nat.pow 2 1075

-- A unit may follow the numeral.
def nonzero (raw : String) : Bool :=
  match parts? (numeral raw) with
  | some (whole, fraction) => positive whole fraction
  | none                   => false

end Quantity

namespace ResourceRequirements

-- A limit stands in for a request that is not there.
def amount? (r : ResourceRequirements) (resource : String) : Option String :=
  (r.requests.bind (·.get? resource)).or (r.limits.bind (·.get? resource))

end ResourceRequirements

namespace Pod

def allContainers (p : Pod) : List Container :=
  match p.spec with
  | none   => []
  | some s => s.containers ++ s.initContainers.getD []

def requestsOnload (p : Pod) : Bool :=
  p.allContainers.any fun c =>
    (c.resources.bind (·.amount? onloadResource)).any Quantity.nonzero

end Pod

end KernelRollout
