import KernelRollout.Text.Scan

namespace KernelRollout.Net

open Text (Scan skip hexDigit?)

structure IPv4 where
  a : Nat
  b : Nat
  c : Nat
  d : Nat
deriving DecidableEq, Repr

-- Eight groups of 16 bits.
structure IPv6 where
  groups : List Nat
deriving DecidableEq, Repr

inductive SocketAddress where
  | v4 (ip : IPv4) (port : Nat)
  | v6 (ip : IPv6) (scope port : Nat)
deriving DecidableEq, Repr

-- An octet has up to three digits, no leading zero, and is at most 255.
def scanOctet : Scan Nat := fun cs =>
  let ds := cs.takeWhile Char.isDigit
  let n := Text.natOf ds
  if ds.isEmpty || 3 < ds.length || (ds.head? = some '0' && ds.length ≠ 1) || 255 < n then none
  else some (n, cs.drop ds.length)

def scanIPv4 : Scan IPv4 := fun cs => do
  let (a, cs) ← scanOctet cs
  let cs ← skip '.' cs
  let (b, cs) ← scanOctet cs
  let cs ← skip '.' cs
  let (c, cs) ← scanOctet cs
  let cs ← skip '.' cs
  let (d, cs) ← scanOctet cs
  some (⟨a, b, c, d⟩, cs)

-- A decimal number up to `max`, leading zeros allowed.
def scanUpTo (max : Nat) : Scan Nat := fun cs => do
  let (n, cs) ← Text.scanNat cs
  if n ≤ max then some (n, cs) else none

-- A group has up to four hexadecimal digits.
def scanGroup : Scan Nat := fun cs =>
  let ds := cs.takeWhile fun c => (hexDigit? c).isSome
  if ds.isEmpty || 4 < ds.length then none
  else some (ds.foldl (fun n c => n * 16 + (hexDigit? c).getD 0) 0, cs.drop ds.length)

def skipColonUnlessFirst (first : Bool) (cs : List Char) : Option (List Char) :=
  if first then some cs else skip ':' cs

-- Up to `room` groups with colons between them, as many as there are. An IPv4 address may stand for
-- the last two of them; the flag tells that it did.
def scanGroups (room : Nat) (first : Bool) (cs : List Char) : List Nat × Bool × List Char :=
  match room with
  | 0 => ([], false, cs)
  | room + 1 =>
    let embedded := if room = 0 then none else (skipColonUnlessFirst first cs).bind scanIPv4
    match embedded with
    | some (ip, rest) => ([ip.a * 256 + ip.b, ip.c * 256 + ip.d], true, rest)
    | none =>
      match (skipColonUnlessFirst first cs).bind scanGroup with
      | some (g, rest) =>
        let (gs, ipv4, rest) := scanGroups room false rest
        (g :: gs, ipv4, rest)
      | none => ([], false, cs)

-- Eight groups, or fewer with `::` for one or more groups of zeros.
def scanIPv6 : Scan IPv6 := fun cs => do
  let (front, ipv4, cs) := scanGroups 8 true cs
  if front.length = 8 then some (⟨front⟩, cs)
  else if ipv4 then none
  else
    let cs ← skip ':' cs
    let cs ← skip ':' cs
    let (back, _, cs) := scanGroups (7 - front.length) true cs
    some (⟨front ++ List.replicate (8 - front.length - back.length) 0 ++ back⟩, cs)

def scanScope : Scan Nat := fun cs =>
  match cs with
  | '%' :: cs => scanUpTo 4294967295 cs
  | cs        => some (0, cs)

def scanPort : Scan Nat := fun cs => (skip ':' cs).bind (scanUpTo 65535)

def scanV4 : Scan SocketAddress := fun cs => do
  let (ip, cs) ← scanIPv4 cs
  let (port, cs) ← scanPort cs
  some (.v4 ip port, cs)

def scanV6 : Scan SocketAddress := fun cs => do
  let cs ← skip '[' cs
  let (ip, cs) ← scanIPv6 cs
  let (scope, cs) ← scanScope cs
  let cs ← skip ']' cs
  let (port, cs) ← scanPort cs
  some (.v6 ip scope port, cs)

def SocketAddress.parse (cs : List Char) : Option SocketAddress :=
  match scanV4 cs with
  | some (a, []) => some a
  | _ =>
    match scanV6 cs with
    | some (a, []) => some a
    | _            => none

def IPv4.text (ip : IPv4) : String :=
  ".".intercalate [toString ip.a, toString ip.b, toString ip.c, toString ip.d]

def hexText (n : Nat) : String := String.ofList (Nat.toDigits 16 n)

-- How many zeros each group starts.
def zeroRuns : List Nat → List Nat
  | []      => []
  | g :: gs => (if g = 0 then 1 + (zeroRuns gs).headD 0 else 0) :: zeroRuns gs

-- Where the first of the longest runs of zeros starts, and its length.
def longestZeroRun (gs : List Nat) : Nat × Nat :=
  (zeroRuns gs).zipIdx.foldl (fun best (len, i) => if best.2 < len then (i, len) else best) (0, 0)

def groupsText (gs : List Nat) : String := ":".intercalate (gs.map hexText)

def IPv6.text (ip : IPv6) : String :=
  match ip.groups with
  | [0, 0, 0, 0, 0, 0xFFFF, g, h] => "::ffff:" ++ (IPv4.mk (g / 256) (g % 256) (h / 256) (h % 256)).text
  | gs =>
    let (start, len) := longestZeroRun gs
    if 1 < len then groupsText (gs.take start) ++ "::" ++ groupsText (gs.drop (start + len))
    else groupsText gs

-- Any accepted spelling is printed in one form.
def SocketAddress.text : SocketAddress → String
  | v4 ip port => ip.text ++ ":" ++ toString port
  | v6 ip scope port =>
    "[" ++ ip.text ++ (if scope = 0 then "" else "%" ++ toString scope) ++ "]:" ++ toString port

end KernelRollout.Net
