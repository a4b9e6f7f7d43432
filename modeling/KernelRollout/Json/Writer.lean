import KernelRollout.Json.Value

namespace KernelRollout.Json

namespace Writer

def hexDigit (n : Nat) : Char := (Nat.toDigits 16 (n % 16)).headD '0'

-- Only quotes, backslashes and controls are escaped.
def escapeChar (c : Char) : String :=
  if c = '"' then "\\\""
  else if c = '\\' then "\\\\"
  else if c.toNat < 0x20 then
    ("\\u00".push (hexDigit (c.toNat / 16))).push (hexDigit c.toNat)
  else c.toString

def text (s : String) : String :=
  "\"" ++ s.foldl (fun acc c => acc ++ escapeChar c) "" ++ "\""

end Writer

open Writer

mutual

def compress : Json → String
  | null         => "null"
  | bool b       => if b then "true" else "false"
  | int n        => toString n
  | real literal => literal
  | str s        => text s
  | arr items    => "[" ++ ",".intercalate (compressItems items) ++ "]"
  | obj fields   => "\x7b" ++ ",".intercalate (compressFields fields) ++ "\x7d"

def compressItems : List Json → List String
  | []      => []
  | v :: vs => compress v :: compressItems vs

def compressFields : List (String × Json) → List String
  | []           => []
  | (k, v) :: fs => (text k ++ ":" ++ compress v) :: compressFields fs

end

end KernelRollout.Json
