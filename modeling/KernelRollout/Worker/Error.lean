namespace KernelRollout

-- Why a file cannot be used.
inductive FileError where
  | notFound
  | permissionDenied
  | notADirectory
  | isADirectory
  | nameTooLong
  | nulInPath
deriving DecidableEq, Repr

namespace FileError

def message : FileError → String
  | notFound         => "No such file or directory (os error 2)"
  | permissionDenied => "Permission denied (os error 13)"
  | notADirectory    => "Not a directory (os error 20)"
  | isADirectory     => "Is a directory (os error 21)"
  | nameTooLong      => "File name too long (os error 36)"
  | nulInPath        => "file name contained an unexpected NUL byte"

end FileError

inductive WorkerError where
  | missingVariable (name : String)
  | deviceUnavailable (path : String) (e : FileError)
  | invalidContainerId (raw : String)
  | timeout (ns pod container : String) (secs : Nat)
  | kernelParameter (parameter : String) (e : FileError)
  | transport
deriving DecidableEq

namespace WorkerError

-- A transport failure has no text of its own.
def message? : WorkerError → Option String
  | missingVariable name     => some ("Missing environment variable: " ++ name)
  | deviceUnavailable path e => some ("Onload device " ++ path ++ " is not available: " ++ e.message)
  | invalidContainerId raw   => some ("Unexpected format of container ID " ++ raw)
  | timeout ns pod container secs =>
    some ("Container " ++ container ++ " of pod " ++ ns ++ "/" ++ pod ++ " did not start within " ++
      toString secs ++ "s")
  | kernelParameter p e => some ("Failed to write kernel parameter " ++ p ++ ": " ++ e.message)
  | transport           => none

end WorkerError

end KernelRollout
