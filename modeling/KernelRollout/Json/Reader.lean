import KernelRollout.Json.Value
import KernelRollout.Text.Scan

namespace KernelRollout.Json

namespace Reader

inductive Token where
  | arrayOpen
  | arrayClose
  | objectOpen
  | objectClose
  | comma
  | colon
  | scalar (v : Json)

-- What the last characters belong to. Characters that are collected stand in reverse.
inductive Mode where
  | idle
  | word (read : List Char)
  | number (read : List Char)
  | text (read : List Char)
  | escape (read : List Char)
  | code (read : List Char) (digits value : Nat) (high : Option Nat)
  | lowEscape (read : List Char) (high : Nat)
  | lowCode (read : List Char) (high : Nat)

structure Lexer where
  mode   : Mode
  tokens : List Token

def isSpace (c : Char) : Bool := c = ' ' || c = '\n' || c = '\r' || c = '\t'

def isNumberChar (c : Char) : Bool :=
  c.isDigit || c = '+' || c = '-' || c = '.' || c = 'e' || c = 'E'

-- Digits, then the rest.
def digits (cs : List Char) : List Char × List Char := (cs.takeWhile Char.isDigit, cs.dropWhile Char.isDigit)

def validFraction : List Char → Bool
  | '.' :: cs =>
    let (ds, rest) := digits cs
    !ds.isEmpty && validExponent rest
  | cs => validExponent cs
where
  validExponent : List Char → Bool
    | [] => true
    | e :: cs =>
      let cs := match cs with
        | '+' :: r => r
        | '-' :: r => r
        | r        => r
      (e = 'e' || e = 'E') && !cs.isEmpty && cs.all Char.isDigit

-- A minus sign, a whole part without leading zeros, a fraction and an exponent. Minus zero is no
-- integer.
def number? (cs : List Char) : Option Json :=
  let (negative, body) := match cs with
    | '-' :: r => (true, r)
    | r        => (false, r)
  let (whole, rest) := digits body
  if whole.isEmpty || (whole.head? = some '0' && whole.length ≠ 1) then none
  else if rest.isEmpty then
    match negative, Text.natOf whole with
    | true, 0  => some (.real (String.ofList cs))
    | true, n  => some (.int (-n))
    | false, n => some (.int n)
  else if validFraction rest then some (.real (String.ofList cs))
  else none

def word? : List Char → Option Json
  | ['t', 'r', 'u', 'e']      => some (.bool true)
  | ['f', 'a', 'l', 's', 'e'] => some (.bool false)
  | ['n', 'u', 'l', 'l']      => some .null
  | _                         => none

def escaped? (c : Char) : Option Char :=
  match c with
  | '"'  => some '"'
  | '\\' => some '\\'
  | '/'  => some '/'
  | 'b'  => some '\x08'
  | 'f'  => some '\x0c'
  | 'n'  => some '\n'
  | 'r'  => some '\r'
  | 't'  => some '\t'
  | _    => none

def start (tokens : List Token) (c : Char) : Option Lexer :=
  if isSpace c then some ⟨.idle, tokens⟩
  else if c = '[' then some ⟨.idle, .arrayOpen :: tokens⟩
  else if c = ']' then some ⟨.idle, .arrayClose :: tokens⟩
  else if c = '\x7b' then some ⟨.idle, .objectOpen :: tokens⟩
  else if c = '\x7d' then some ⟨.idle, .objectClose :: tokens⟩
  else if c = ',' then some ⟨.idle, .comma :: tokens⟩
  else if c = ':' then some ⟨.idle, .colon :: tokens⟩
  else if c = '"' then some ⟨.text [], tokens⟩
  else if c.isDigit || c = '-' then some ⟨.number [c], tokens⟩
  else if c.isLower then some ⟨.word [c], tokens⟩
  else none

-- The code unit that ends an escape. A high surrogate waits for its low one, and no surrogate
-- stands alone.
def finishCode (read : List Char) (tokens : List Token) (high : Option Nat) (unit : Nat) :
    Option Lexer :=
  match high with
  | none =>
    if 0xD800 ≤ unit ∧ unit < 0xDC00 then some ⟨.lowEscape read unit, tokens⟩
    else if 0xDC00 ≤ unit ∧ unit < 0xE000 then none
    else some ⟨.text (Char.ofNat unit :: read), tokens⟩
  | some h =>
    if 0xDC00 ≤ unit ∧ unit < 0xE000 then
      some ⟨.text (Char.ofNat (0x10000 + (h - 0xD800) * 0x400 + (unit - 0xDC00)) :: read), tokens⟩
    else none

def step (l : Lexer) (c : Char) : Option Lexer :=
  match l.mode with
  | .idle => start l.tokens c
  | .word read =>
    if c.isLower then some ⟨.word (c :: read), l.tokens⟩
    else (word? read.reverse).bind fun v => start (.scalar v :: l.tokens) c
  | .number read =>
    if isNumberChar c then some ⟨.number (c :: read), l.tokens⟩
    else (number? read.reverse).bind fun v => start (.scalar v :: l.tokens) c
  | .text read =>
    if c = '"' then some ⟨.idle, .scalar (.str (String.ofList read.reverse)) :: l.tokens⟩
    else if c = '\\' then some ⟨.escape read, l.tokens⟩
    else if c.toNat < 0x20 then none
    else some ⟨.text (c :: read), l.tokens⟩
  | .escape read =>
    if c = 'u' then some ⟨.code read 0 0 none, l.tokens⟩
    else (escaped? c).map fun c => ⟨.text (c :: read), l.tokens⟩
  | .code read n value high =>
    (Text.hexDigit? c).bind fun d =>
      let value := value * 16 + d
      if n = 3 then finishCode read l.tokens high value
      else some ⟨.code read (n + 1) value high, l.tokens⟩
  | .lowEscape read high => if c = '\\' then some ⟨.lowCode read high, l.tokens⟩ else none
  | .lowCode read high => if c = 'u' then some ⟨.code read 0 0 (some high), l.tokens⟩ else none

-- The tokens in order. A text must have been closed.
def finish (l : Lexer) : Option (List Token) :=
  match l.mode with
  | .idle        => some l.tokens.reverse
  | .word read   => (word? read.reverse).map fun v => (Token.scalar v :: l.tokens).reverse
  | .number read => (number? read.reverse).map fun v => (Token.scalar v :: l.tokens).reverse
  | _            => none

def lex (cs : List Char) : Option (List Token) :=
  (cs.foldlM step ⟨.idle, []⟩).bind finish

-- An array or object that is still open. Items stand in reverse, and `key` waits for its value.
inductive Frame where
  | arr (items : List Json)
  | obj (fields : Fields) (key : Option String)

-- What may come next.
inductive Phase where
  | value
  | valueOrClose
  | key
  | keyOrClose
  | colon
  | commaOrClose
  | done (v : Json)

structure Parser where
  frames : List Frame
  phase  : Phase

-- Deeper values are refused.
def maxDepth : Nat := 127

-- The fields in order, without those that a later field of the same name replaces.
def lastOfEach (reversed : Fields) : Fields :=
  (reversed.foldl (fun (kept : Fields × List String) e =>
    if kept.2.contains e.1 then kept else (e :: kept.1, e.1 :: kept.2)) ([], [])).1

def deliver (v : Json) : List Frame → Option Parser
  | [] => some ⟨[], .done v⟩
  | .arr items :: frames => some ⟨.arr (v :: items) :: frames, .commaOrClose⟩
  | .obj fields (some k) :: frames => some ⟨.obj ((k, v) :: fields) none :: frames, .commaOrClose⟩
  | .obj _ none :: _ => none

def openFrame (f : Frame) (p : Phase) (frames : List Frame) : Option Parser :=
  if frames.length < maxDepth then some ⟨f :: frames, p⟩ else none

def shift (p : Parser) (t : Token) : Option Parser :=
  match p.phase, t with
  | .value, .scalar v | .valueOrClose, .scalar v => deliver v p.frames
  | .value, .arrayOpen | .valueOrClose, .arrayOpen => openFrame (.arr []) .valueOrClose p.frames
  | .value, .objectOpen | .valueOrClose, .objectOpen =>
    openFrame (.obj [] none) .keyOrClose p.frames
  | .key, .scalar (.str k) | .keyOrClose, .scalar (.str k) =>
    match p.frames with
    | .obj fields none :: frames => some ⟨.obj fields (some k) :: frames, .colon⟩
    | _ => none
  | .colon, .colon => some ⟨p.frames, .value⟩
  | .commaOrClose, .comma =>
    match p.frames with
    | .arr _ :: _ => some ⟨p.frames, .value⟩
    | .obj _ _ :: _ => some ⟨p.frames, .key⟩
    | [] => none
  | .valueOrClose, .arrayClose | .commaOrClose, .arrayClose =>
    match p.frames with
    | .arr items :: frames => deliver (.arr items.reverse) frames
    | _ => none
  | .keyOrClose, .objectClose | .commaOrClose, .objectClose =>
    match p.frames with
    | .obj fields _ :: frames => deliver (.obj (lastOfEach fields)) frames
    | _ => none
  | _, _ => none

end Reader

-- Characters are folded into tokens and tokens into a value, each by a machine that looks at one
-- item at a time.
def parse (s : String) : Option Json :=
  match (Reader.lex s.toList).bind (·.foldlM Reader.shift ⟨[], .value⟩) with
  | some ⟨_, .done v⟩ => some v
  | _                 => none

end KernelRollout.Json
