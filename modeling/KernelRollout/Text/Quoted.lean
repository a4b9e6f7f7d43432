import KernelRollout.Text.Visible

namespace KernelRollout.Text

namespace Quoted

def hexDigits (n : Nat) : List Char := Nat.toDigits 16 n

-- Quotes and backslashes get a backslash, four controls have letters of their own, and a character
-- that does not print as itself is given by its number.
def encodeChar (c : Char) : List Char :=
  if c = '"' then ['\\', '"']
  else if c = '\\' then ['\\', '\\']
  else if c = '\n' then ['\\', 'n']
  else if c = '\r' then ['\\', 'r']
  else if c = '\t' then ['\\', 't']
  else if c.toNat = 0 then ['\\', '0']
  else if isVisible c then [c]
  else ['\\', 'u', '\x7b'] ++ hexDigits c.toNat ++ ['\x7d']

def encode (cs : List Char) : List Char := cs.flatMap encodeChar

end Quoted

-- The text between quotes.
def quoted (s : String) : String := String.ofList (['"'] ++ Quoted.encode s.toList ++ ['"'])

-- A text that may be missing: the word `None`, or `Some` around the quoted text.
def quotedOption : Option String → String
  | none   => "None"
  | some s => "Some(" ++ quoted s ++ ")"

end KernelRollout.Text
