import Concentrator.Document
import Concentrator.Toml.Number
import Concentrator.Toml.Quoted

/-!
# TOML values

A value is read to the depth that its reader allows. Inline tables may be
built with dotted keys; a table that a dotted key has begun can only be
continued by dotted keys.
-/

namespace Concentrator.Toml

open Text Scan

def blanks : Scan Unit := do
  let _ ← run isBlank

def newline : Scan Unit :=
  char '\n' <|> do
    char '\r'
    char '\n'

def comment : Scan Unit := do
  char '#'
  let _ ← run isPlain

/-- As many repetitions as there are. -/
def manyFrom (p : Scan Unit) : Nat → Scan Unit
  | 0 => pure ()
  | n + 1 => (do p; manyFrom p n) <|> pure ()

def gap : Scan Unit := do
  blanks
  manyFrom (do comment <|> pure (); newline; blanks) (← get).length

def bareKey : Scan String := do
  let cs ← run fun c =>
    isDigit 10 c ∨ ('a' ≤ c ∧ c ≤ 'z') ∨ ('A' ≤ c ∧ c ≤ 'Z') ∨ c = '-' ∨ c = '_'
  guard (cs ≠ [])
  pure (String.ofList cs)

def keyPart : Scan String := do
  blanks
  let part ← lineString <|> bareKey
  blanks
  pure part

/-- The parts of a key after the first. -/
def keyParts : Nat → Scan (List String)
  | 0 => pure []
  | n + 1 => (do
    char '.'
    let part ← keyPart
    return part :: (← keyParts n)) <|> pure []

/-- Keys and values may not be nested this deep. -/
def maxDepth : Nat := 80

/-- The parts of a dotted key: those before the last, and the last. -/
def key : Scan (List String × String) := do
  let first ← keyPart
  let rest ← keyParts (← get).length
  guard (rest.length + 1 < maxDepth)
  let parts := first :: rest
  pure (parts.dropLast, parts.getLast (by simp [parts]))

/-- A value inside an inline table, and whether dotted keys have begun it. -/
inductive Inline where
  | value (d : Document)
  | dotted (members : List (String × Inline))

namespace Inline

/-- Puts a value at a path into the members of an inline table. -/
def place (last : String) (d : Document) :
    List String → List (String × Inline) → Option (List (String × Inline))
  | [], members =>
    if members.any fun m => m.1 = last then none else some (members ++ [(last, .value d)])
  | part :: path, members =>
    match members.find? fun m => m.1 = part with
    | none => do
      let inner ← place last d path []
      return members ++ [(part, .dotted inner)]
    | some (_, .value _) => none
    | some (_, .dotted old) => do
      let inner ← place last d path old
      return members.map fun m => if m.1 = part then (part, .dotted inner) else m

mutual

def document : Inline → Document
  | .value d => d
  | .dotted members => .table (documents members)

def documents : List (String × Inline) → List (String × Document)
  | [] => []
  | (name, v) :: rest => (name, document v) :: documents rest

end

end Inline

/-- The rest of an array after its opening bracket. -/
def elements (item : Scan Document) : Nat → Scan (List Document)
  | 0 => failure
  | n + 1 => do
    gap
    (do char ']'; pure []) <|> do
      let v ← item
      gap
      (do char ']'; pure [v]) <|> do
        char ','
        return v :: (← elements item n)

/-- A key with its value inside an inline table. -/
def member (item : Scan Document) (members : List (String × Inline)) :
    Scan (List (String × Inline)) := do
  let (path, last) ← key
  char '='
  blanks
  let v ← item
  blanks
  (Inline.place last v path members : Option _)

/-- The rest of an inline table after its first member. -/
def moreMembers (item : Scan Document) : Nat → List (String × Inline) →
    Scan (List (String × Inline))
  | 0, _ => failure
  | n + 1, members =>
    (do char '\x7d'; pure members) <|> do
      char ','
      moreMembers item n (← member item members)

/-- The rest of an inline table after its opening brace. -/
def members (item : Scan Document) : Scan (List (String × Inline)) := do
  blanks
  (do char '\x7d'; pure []) <|> do
    moreMembers item (← get).length (← member item [])

def scalar : Scan Document :=
  (do return .text (← string)) <|>
  (do word "true"; return .bool true) <|>
  (do word "false"; return .bool false) <|>
  (do date; return .date) <|>
  (do fraction; return .float) <|>
  (do special; return .float) <|>
  (do return .integer (← integer))

/-- A value whose containers are nested less than `depth` deep. -/
def value : Nat → Scan Document
  | 0 => failure
  | depth + 1 =>
    scalar <|>
    (do
      char '['
      guard (0 < depth)
      return .list (← elements (value depth) ((← get).length + 1))) <|>
    (do
      char '\x7b'
      guard (0 < depth)
      return .table (Inline.documents (← members (value depth))))

end Concentrator.Toml
