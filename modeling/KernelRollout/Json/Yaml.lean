import KernelRollout.Json.Writer
import KernelRollout.Text.Blank

namespace KernelRollout.Json

namespace Yaml

-- Whether a colon or a hash in the text would end it.
def breaksOff (cs : List Char) : Bool :=
  match cs with
  | ':' :: ' ' :: _ => true
  | [':']           => true
  | ' ' :: '#' :: _ => true
  | _ :: cs         => breaksOff cs
  | []              => false

-- Characters that mean something at the beginning of a value.
def isIndicator (c : Char) : Bool :=
  "#,[]\x7b\x7d&*!|>'\"%@\x60".contains c

-- Words that are no text in some version of the format.
def reserved : List String :=
  ["~", "null", "true", "false", "y", "yes", "n", "no", "on", "off"]

def mayBeNumber (c : Char) : Bool := c.isDigit || c = '+' || c = '-' || c = '.'

-- Texts that could be read as anything else are quoted.
def isPlain (s : String) : Bool :=
  match s.toList with
  | []      => false
  | c :: cs =>
    !(isIndicator c || mayBeNumber c || c = '?' || c = ':' || c = ' ')
      && cs.getLast? ≠ some ' ' && !breaksOff (c :: cs)
      && !reserved.contains (s.map Char.toLower)

def isControl (c : Char) : Bool := c.toNat < 0x20 || c.toNat = 0x7f

def quoted (s : String) : String :=
  "'" ++ s.foldl (fun acc c => acc ++ if c = '\'' then "''" else c.toString) "" ++ "'"

-- A text on one line. One with controls is written as in JSON, which is YAML too.
def scalar (s : String) : String :=
  if s.any isControl then compress (str s) else if isPlain s then s else quoted s

def isLiteral (s : String) : Bool :=
  s.contains '\n' && s.all (fun c => c = '\n' || !isControl c) && !s.startsWith " "
    && !s.startsWith "\n" && !s.endsWith " "

-- The sign behind `|` tells what becomes of the line ends at the end of the text.
def literal (s : String) : List String :=
  if s.endsWith "\n\n" then "|+" :: ((s.dropEnd 1).toString.splitOn "\n")
  else if s.endsWith "\n" then "|" :: ((s.dropEnd 1).toString.splitOn "\n")
  else "|-" :: s.splitOn "\n"

def indent (lines : List String) : List String :=
  lines.map fun l => if l.isEmpty then l else "  " ++ l

-- Puts a mark before the first line and the others below it.
def hang (mark : String) : List String → List String
  | []        => [mark]
  | l :: rest => (mark ++ l) :: indent rest

-- A value without parts.
def leaf : Json → List String
  | str s => if isLiteral s then literal s else [scalar s]
  | v     => [compress v]

end Yaml

open Yaml

mutual

-- The items of a list stand below its key without indentation.
def yamlLines : Json → List String
  | arr (v :: vs)      => hang "- " (yamlLines v) ++ yamlItems vs
  | obj ((k, v) :: fs) => yamlField k v ++ yamlFields fs
  | v                  => leaf v

def yamlItems : List Json → List String
  | []      => []
  | v :: vs => hang "- " (yamlLines v) ++ yamlItems vs

def yamlField (name : String) : Json → List String
  | arr (v :: vs)      => (scalar name ++ ":") :: (hang "- " (yamlLines v) ++ yamlItems vs)
  | obj ((k, v) :: fs) => (scalar name ++ ":") :: indent (yamlField k v ++ yamlFields fs)
  | v                  => hang (scalar name ++ ": ") (leaf v)

def yamlFields : List (String × Json) → List String
  | []           => []
  | (k, v) :: fs => yamlField k v ++ yamlFields fs

end

def yaml (v : Json) : String :=
  String.join ((yamlLines v).map (· ++ "\n"))

end KernelRollout.Json
