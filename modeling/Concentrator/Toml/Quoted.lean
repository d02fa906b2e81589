import Concentrator.Text.Scan

/-!
# TOML strings

Basic strings know escapes and literal strings do not. Strings between three
quotes may run over several lines; a line ending counts as one line feed, and
one right after the opening quotes does not count.
-/

namespace Concentrator.Toml

open Text

/-- A character that a comment or a string on one line may hold. -/
def isPlain (c : Char) : Bool :=
  c = '\t' ∨ (32 ≤ c.toNat ∧ c ≠ '\x7f')

def isBlank (c : Char) : Bool := c = ' ' ∨ c = '\t'

/-- The character of a Unicode escape. -/
def scalar? (ds : List Char) : Option Char :=
  let n := numeral 16 ds
  if ds.all (isDigit 16) ∧ n.isValidChar then some (Char.ofNat n) else none

def escape? : Char → Option Char
  | 'b' => some '\x08'
  | 't' => some '\t'
  | 'n' => some '\n'
  | 'f' => some '\x0c'
  | 'r' => some '\r'
  | '"' => some '"'
  | '\\' => some '\\'
  | _ => none

/-- The character that an escape stands for, given what follows the backslash. -/
def escaped? (cs : List Char) : Option (Char × List Char) :=
  match cs with
  | 'u' :: rest =>
    if 4 ≤ rest.length then (scalar? (rest.take 4)).map fun c => (c, rest.drop 4) else none
  | 'U' :: rest =>
    if 8 ≤ rest.length then (scalar? (rest.take 8)).map fun c => (c, rest.drop 8) else none
  | c :: rest => (escape? c).map fun d => (d, rest)
  | [] => none

theorem escaped?_shorter {cs rest : List Char} {c : Char} (h : escaped? cs = some (c, rest)) :
    rest.length < cs.length := by
  unfold escaped? at h
  split at h
  · split at h
    · obtain ⟨_, _, same⟩ := Option.map_eq_some_iff.1 h
      cases same
      simp only [List.length_drop, List.length_cons]
      omega
    · cases h
  · split at h
    · obtain ⟨_, _, same⟩ := Option.map_eq_some_iff.1 h
      cases same
      simp only [List.length_drop, List.length_cons]
      omega
    · cases h
  · obtain ⟨_, _, same⟩ := Option.map_eq_some_iff.1 h
    cases same
    simp
  · cases h

/-- The rest of a basic string on one line, after its opening quote. -/
def basic (read : List Char) (cs : List Char) : Option (List Char × List Char) :=
  match cs with
  | [] => none
  | '"' :: rest => some (read.reverse, rest)
  | '\\' :: rest =>
    match _h : escaped? rest with
    | some (c, rest') => basic (c :: read) rest'
    | none => none
  | c :: rest => if isPlain c then basic (c :: read) rest else none
termination_by cs.length
decreasing_by
  · have := escaped?_shorter _h
    simp only [List.length_cons]
    omega
  · simp

/-- The rest of a literal string on one line. -/
def literal (read : List Char) : List Char → Option (List Char × List Char)
  | [] => none
  | '\'' :: rest => some (read.reverse, rest)
  | c :: rest => if isPlain c then literal (c :: read) rest else none

/-- The end of a string between three quotes. Up to two quotes just before the closing ones belong
to the string. -/
def closing (quote : Char) (read : List Char) (rest : List Char) :
    Option (List Char × List Char) :=
  let more := (rest.takeWhile (· = quote)).length
  if more ≤ 2 then some ((List.replicate more quote ++ read).reverse, rest.drop more) else none

/-- A backslash before these characters joins its line to the next one. -/
def endsLine (cs : List Char) : Bool :=
  match cs.dropWhile isBlank with
  | '\n' :: _ => true
  | '\r' :: '\n' :: _ => true
  | _ => false

/-- The rest of a basic string between three quotes; `joining` while the blanks and line endings
after a backslash are left out. -/
def multiBasic (joining : Bool) (read : List Char) (cs : List Char) :
    Option (List Char × List Char) :=
  match cs with
  | [] => none
  | '"' :: '"' :: '"' :: rest => closing '"' read rest
  | '\r' :: '\n' :: rest => multiBasic joining (if joining then read else '\n' :: read) rest
  | '\n' :: rest => multiBasic joining (if joining then read else '\n' :: read) rest
  | '\\' :: rest =>
    if endsLine rest then multiBasic true read rest
    else
      match _h : escaped? rest with
      | some (c, rest') => multiBasic false (c :: read) rest'
      | none => none
  | c :: rest =>
    if joining ∧ isBlank c then multiBasic true read rest
    else if isPlain c then multiBasic false (c :: read) rest
    else none
termination_by cs.length
decreasing_by
  · simp only [List.length_cons]
    omega
  · simp
  · simp
  · have := escaped?_shorter _h
    simp only [List.length_cons]
    omega
  · simp
  · simp

def multiLiteral (read : List Char) : List Char → Option (List Char × List Char)
  | [] => none
  | '\'' :: '\'' :: '\'' :: rest => closing '\'' read rest
  | '\r' :: '\n' :: rest => multiLiteral ('\n' :: read) rest
  | '\n' :: rest => multiLiteral ('\n' :: read) rest
  | c :: rest => if isPlain c then multiLiteral (c :: read) rest else none

/-- What follows a line ending, if there is one right here. -/
def dropNewline : List Char → List Char
  | '\n' :: rest => rest
  | '\r' :: '\n' :: rest => rest
  | cs => cs

def finish (r : Option (List Char × List Char)) : Option (String × List Char) :=
  r.map fun (cs, rest) => (String.ofList cs, rest)

def lineString : Scan String
  | '"' :: rest => finish (basic [] rest)
  | '\'' :: rest => finish (literal [] rest)
  | _ => none

def string : Scan String
  | '"' :: '"' :: '"' :: rest => finish (multiBasic false [] (dropNewline rest))
  | '\'' :: '\'' :: '\'' :: rest => finish (multiLiteral [] (dropNewline rest))
  | cs => lineString cs

end Concentrator.Toml
