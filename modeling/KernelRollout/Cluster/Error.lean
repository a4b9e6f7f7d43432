namespace KernelRollout

inductive ClusterError where
  -- The object does not exist.
  | notFound (object : String)
  -- The object changed since it was read, or exists already.
  | conflict (detail : String)
  -- An eviction was refused.
  | evictionBlocked (detail : String)
  -- The call did not end within the time allowed for it.
  | timeout (operation : String) (secs : Nat)
  -- The server answered with an error.
  | api (detail : String)
  -- The call did not get through, or its answer could not be read.
  | transport
deriving DecidableEq

namespace ClusterError

-- A transport failure has no text of its own.
def message? : ClusterError → Option String
  | notFound object         => some ("Not found: " ++ object)
  | conflict detail         => some ("Conflict: " ++ detail)
  | evictionBlocked detail  => some ("Eviction blocked: " ++ detail)
  | timeout operation secs  => some ("Timed out after " ++ toString secs ++ "s: " ++ operation)
  | api detail              => some ("API error: " ++ detail)
  | transport               => none

-- The code in an error status decides what it means.
def ofStatus (code : Nat) (reason message object : String) : ClusterError :=
  if code = 404 then notFound object
  else if code = 409 then conflict (object ++ ": " ++ message)
  else api (reason ++ " (" ++ toString code ++ ") on " ++ object ++ ": " ++ message)

-- For an eviction, too many requests means that a disruption budget refused it.
def ofEvictionStatus (code : Nat) (reason message object : String) : ClusterError :=
  if code = 429 then evictionBlocked (object ++ ": " ++ message)
  else ofStatus code reason message object

end ClusterError

end KernelRollout
