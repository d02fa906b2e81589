import Concentrator.Text.Decimal

/-!
# JSON text

A JSON text is read in two passes, both a fold: characters are gathered into
tokens, and tokens into a tree with the open containers on a stack, so there is
no limit on nesting. The tree keeps strings and numbers as they were written;
what they mean, if anything, is for a later reader to say.
-/

namespace Concentrator.Json

/-- An element of a written string: a character or an escaped UTF-16 unit. -/
inductive Piece where
  | char (c : Char)
  | unit (code : Nat)
deriving DecidableEq

structure Numeral where
  negative : Bool
  whole : List Char
  fraction : List Char
  exponent : Option (Bool × List Char)
deriving DecidableEq

namespace Numeral

def digits (cs : List Char) : List Char × List Char :=
  (cs.takeWhile (Text.isDigit 10), cs.dropWhile (Text.isDigit 10))

def sign : List Char → Bool × List Char
  | '-' :: rest => (true, rest)
  | '+' :: rest => (false, rest)
  | rest => (false, rest)

def exponentOf? : List Char → Option (Option (Bool × List Char))
  | [] => some none
  | mark :: rest =>
    if mark = 'e' ∨ mark = 'E' then
      let (negative, rest) := sign rest
      let (ds, rest) := digits rest
      if ds ≠ [] ∧ rest = [] then some (some (negative, ds)) else none
    else none

def fractionOf? : List Char → Option (List Char × List Char)
  | '.' :: rest =>
    let (ds, rest) := digits rest
    if ds ≠ [] then some (ds, rest) else none
  | rest => some ([], rest)

/-- A number has no leading zero, and digits wherever its form announces some. -/
def ofChars? (cs : List Char) : Option Numeral := do
  let (negative, rest) := match cs with
    | '-' :: rest => (true, rest)
    | rest => (false, rest)
  let (whole, rest) := digits rest
  guard (whole ≠ [] ∧ (whole.head? = some '0' → whole.length = 1))
  let (fraction, rest) ← fractionOf? rest
  let exponent ← exponentOf? rest
  return { negative, whole, fraction, exponent }

/-- Written as an integer. -/
def isInteger (n : Numeral) : Bool := n.fraction = [] ∧ n.exponent = none

end Numeral

inductive Token where
  | openArray
  | closeArray
  | openObject
  | closeObject
  | colon
  | comma
  | null
  | bool (b : Bool)
  | number (n : Numeral)
  | text (pieces : List Piece)
deriving DecidableEq

/-- What a lexer is in the middle of; characters and pieces stand in reverse order. -/
inductive Mode where
  | idle
  | bare (chars : List Char)
  | quoted (pieces : List Piece)
  | escaped (pieces : List Piece)
  | hex (pieces : List Piece) (missing code : Nat)
deriving DecidableEq

structure Lexer where
  /-- The finished tokens in reverse order. -/
  tokens : List Token := []
  mode : Mode := .idle
deriving DecidableEq

namespace Lexer

def isBlank (c : Char) : Bool := c = ' ' ∨ c = '\t' ∨ c = '\n' ∨ c = '\r'

def punctuation? : Char → Option Token
  | '[' => some .openArray
  | ']' => some .closeArray
  | '\x7b' => some .openObject
  | '\x7d' => some .closeObject
  | ':' => some .colon
  | ',' => some .comma
  | _ => none

/-- A run of characters outside strings is a word or a number. -/
def bareToken? (cs : List Char) : Option Token :=
  if cs = ['n', 'u', 'l', 'l'] then some .null
  else if cs = ['t', 'r', 'u', 'e'] then some (.bool true)
  else if cs = ['f', 'a', 'l', 's', 'e'] then some (.bool false)
  else (Numeral.ofChars? cs).map .number

/-- A character between tokens. -/
def outside (tokens : List Token) (c : Char) : Lexer :=
  if isBlank c then ⟨tokens, .idle⟩
  else if c = '"' then ⟨tokens, .quoted []⟩
  else match punctuation? c with
    | some t => ⟨t :: tokens, .idle⟩
    | none => ⟨tokens, .bare [c]⟩

def isDelimiter (c : Char) : Bool :=
  isBlank c ∨ c = '"' ∨ (punctuation? c).isSome

/-- The character that a backslash and `c` stand for. -/
def escape? : Char → Option Char
  | '"' => some '"'
  | '\\' => some '\\'
  | '/' => some '/'
  | 'b' => some '\x08'
  | 'f' => some '\x0c'
  | 'n' => some '\n'
  | 'r' => some '\r'
  | 't' => some '\t'
  | _ => none

def step (l : Lexer) (c : Char) : Option Lexer :=
  match l.mode with
  | .idle => some (outside l.tokens c)
  | .bare cs =>
    if isDelimiter c then (bareToken? cs.reverse).map fun t => outside (t :: l.tokens) c
    else some { l with mode := .bare (c :: cs) }
  | .quoted ps =>
    if c = '"' then some ⟨.text ps.reverse :: l.tokens, .idle⟩
    else if c = '\\' then some { l with mode := .escaped ps }
    else if c.toNat < 32 then none
    else some { l with mode := .quoted (.char c :: ps) }
  | .escaped ps =>
    if c = 'u' then some { l with mode := .hex ps 4 0 }
    else (escape? c).map fun d => { l with mode := .quoted (.char d :: ps) }
  | .hex ps missing code =>
    (Text.digitValue? 16 c).map fun d =>
      let code := code * 16 + d
      { l with mode := if missing ≤ 1 then .quoted (.unit code :: ps)
          else .hex ps (missing - 1) code }

def finish? (l : Lexer) : Option (List Token) :=
  match l.mode with
  | .idle => some l.tokens.reverse
  | .bare cs => (bareToken? cs.reverse).map fun t => (t :: l.tokens).reverse
  | _ => none

end Lexer

def tokens? (s : String) : Option (List Token) := do
  let l ← s.toList.foldlM Lexer.step {}
  l.finish?

/-- A JSON text with strings and numbers as written and members in order. -/
inductive Tree where
  | null
  | bool (b : Bool)
  | number (n : Numeral)
  | text (pieces : List Piece)
  | array (items : List Tree)
  | object (members : List (List Piece × Tree))

/-- A container that has not been closed; what it holds stands in reverse order. -/
inductive Open where
  | array (items : List Tree)
  | object (members : List (List Piece × Tree))
  /-- An object with a key that waits for its value. -/
  | member (members : List (List Piece × Tree)) (key : List Piece)

/-- What may come next. -/
inductive Expected where
  | value
  | valueOrClose
  | keyOrClose
  | key
  | colon
  | commaOrClose
  | nothing (root : Tree)

structure Builder where
  stack : List Open := []
  expected : Expected := .value

namespace Builder

/-- Puts a finished tree where it belongs. -/
def place (t : Tree) : List Open → Option Builder
  | [] => some ⟨[], .nothing t⟩
  | .array items :: rest => some ⟨.array (t :: items) :: rest, .commaOrClose⟩
  | .member members key :: rest => some ⟨.object ((key, t) :: members) :: rest, .commaOrClose⟩
  | .object _ :: _ => none

def value (stack : List Open) : Token → Option Builder
  | .null => place .null stack
  | .bool b => place (.bool b) stack
  | .number n => place (.number n) stack
  | .text ps => place (.text ps) stack
  | .openArray => some ⟨.array [] :: stack, .valueOrClose⟩
  | .openObject => some ⟨.object [] :: stack, .keyOrClose⟩
  | _ => none

/-- Closes the innermost container. -/
def close (stack : List Open) (t : Token) : Option Builder :=
  match stack, t with
  | .array items :: rest, .closeArray => place (.array items.reverse) rest
  | .object members :: rest, .closeObject => place (.object members.reverse) rest
  | _, _ => none

def key (stack : List Open) (t : Token) : Option Builder :=
  match stack, t with
  | .object members :: rest, .text ps => some ⟨.member members ps :: rest, .colon⟩
  | _, _ => none

/-- Goes on after a comma. -/
def next : List Open → Option Builder
  | .array items :: rest => some ⟨.array items :: rest, .value⟩
  | .object members :: rest => some ⟨.object members :: rest, .key⟩
  | _ => none

def step (b : Builder) (t : Token) : Option Builder :=
  match b.expected with
  | .value => value b.stack t
  | .valueOrClose => if t = .closeArray then close b.stack t else value b.stack t
  | .key => key b.stack t
  | .keyOrClose => if t = .closeObject then close b.stack t else key b.stack t
  | .colon => if t = .colon then some ⟨b.stack, .value⟩ else none
  | .commaOrClose => if t = .comma then next b.stack else close b.stack t
  | .nothing _ => none

end Builder

namespace Tree

/-- The tree of a text, if it is one JSON value and nothing else. -/
def parse? (s : String) : Option Tree := do
  let ts ← tokens? s
  match ← ts.foldlM Builder.step {} with
  | ⟨_, .nothing root⟩ => some root
  | _ => none

end Tree

/-- The text of a written string. Units above the basic plane come in pairs; a unit of a pair that
stands alone makes the string meaningless. -/
def textFrom? (read : List Char) : List Piece → Option (List Char)
  | [] => some read.reverse
  | .char c :: rest => textFrom? (c :: read) rest
  | .unit high :: .unit low :: rest =>
    if 0xD800 ≤ high ∧ high < 0xDC00 then
      if 0xDC00 ≤ low ∧ low < 0xE000 then
        textFrom? (Char.ofNat (0x10000 + (high - 0xD800) * 0x400 + (low - 0xDC00)) :: read) rest
      else none
    else if 0xDC00 ≤ high ∧ high < 0xE000 then none
    else textFrom? (Char.ofNat high :: read) (.unit low :: rest)
  | .unit code :: rest =>
    if 0xD800 ≤ code ∧ code < 0xE000 then none else textFrom? (Char.ofNat code :: read) rest

def text? (pieces : List Piece) : Option String :=
  (textFrom? [] pieces).map String.ofList

end Concentrator.Json
