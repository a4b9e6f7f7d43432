import KernelRollout.Json.Value
import KernelRollout.Text.Numeral

namespace KernelRollout.Json

namespace Pointer

-- The parts between slashes.
def segments : List Char → List (List Char)
  | [] => [[]]
  | c :: cs =>
    match segments cs with
    | []      => [[c]]
    | s :: ss => if c = '/' then [] :: s :: ss else (c :: s) :: ss

-- In a name `~1` stands for a slash and `~0` for a tilde.
def unescape : List Char → List Char
  | '~' :: '1' :: cs => '/' :: unescape cs
  | '~' :: '0' :: cs => '~' :: unescape cs
  | c :: cs          => c :: unescape cs
  | []               => []

-- A position has no sign and no leading zero.
def index? (cs : List Char) : Option Nat :=
  if cs.head? = some '+' || (cs.head? = some '0' && cs.length ≠ 1) then none
  else (Text.readNumeral Text.wordBound cs).toOption

def child? (v : Json) (segment : List Char) : Option Json :=
  match v with
  | obj fields => fields.lookup (String.ofList (unescape segment))
  | arr items  => (index? (unescape segment)).bind fun i => items[i]?
  | _          => none

end Pointer

-- A path of field names and array positions, each after a slash.
def pointer? (v : Json) (path : String) : Option Json :=
  match path.toList with
  | []        => some v
  | '/' :: cs => (Pointer.segments cs).foldlM Pointer.child? v
  | _         => none

end KernelRollout.Json
