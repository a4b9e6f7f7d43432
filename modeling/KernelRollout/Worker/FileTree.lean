import KernelRollout.Dict
import KernelRollout.Worker.Error

namespace KernelRollout

inductive FileNode where
  | file (text : String)
  | directory
deriving DecidableEq

-- Files and directories by the names on the way to them. The root is not listed, and nothing is
-- known above it.
structure FileTree where
  nodes : List (List String × FileNode)

namespace FileTree

def node? (t : FileTree) (path : List String) : Option FileNode :=
  if path = [] then some .directory else t.nodes.lookup path

def put (t : FileTree) (path : List String) (n : FileNode) : FileTree :=
  ⟨(path, n) :: t.nodes.filter (·.1 ≠ path)⟩

-- Names in a path are separated by slashes.
def segments (path : String) : List String := go [] path.toList
where
  go (read : List Char) : List Char → List String
    | [] => [String.ofList read.reverse]
    | c :: cs => if c = '/' then String.ofList read.reverse :: go [] cs else go (c :: read) cs

-- One name further from a place. Empty names and points stay there, and two points go back.
def enter (t : FileTree) (place : List String) (name : String) : Except FileError (List String) :=
  match t.node? place with
  | some .directory =>
    if name = "" ∨ name = "." then .ok place
    else if name = ".." then .ok place.dropLast
    else if 255 < name.utf8ByteSize then .error .nameTooLong
    else .ok (place ++ [name])
  | some (.file _) => .error .notADirectory
  | none           => .error .notFound

-- The place that a path names, which need not exist as long as its parent does.
def resolve (t : FileTree) (path : String) : Except FileError (List String) :=
  if path.toList.contains '\x00' then .error .nulInPath
  else if path = "" then .error .notFound
  else if 4095 < path.utf8ByteSize then .error .nameTooLong
  else (segments path).foldlM t.enter []

def exists? (t : FileTree) (path : String) : Except FileError Unit := do
  match t.node? (← t.resolve path) with
  | some _ => .ok ()
  | none   => .error .notFound

-- Replaces the text of a file, which is created if it does not exist.
def write (t : FileTree) (path text : String) : Except FileError FileTree := do
  let place ← t.resolve path
  match t.node? place with
  | some .directory => .error .isADirectory
  | _               => .ok (t.put place (.file text))

def read? (t : FileTree) (path : String) : Option String :=
  match t.resolve path with
  | .ok place =>
    match t.node? place with
    | some (.file text) => some text
    | _                 => none
  | .error _ => none

-- A tree that holds named files, and directories where there is no text.
def ofFiles (files : List (String × Option String)) : FileTree :=
  files.foldl (fun t (name, text) =>
    t.put ((segments name).filter (· ≠ "")) ((text.map .file).getD .directory)) ⟨[]⟩

def join (dir name : String) : String := if dir = "" then name else dir ++ "/" ++ name

end FileTree

-- The device exists once the module is loaded, which may be after the container has started.
def checkDevice (t : FileTree) (path : String) : Except WorkerError Unit :=
  (t.exists? path).mapError (.deviceUnavailable path)

end KernelRollout
