import Concentrator.Json.Value

/-!
# Documents

The values that a configuration can be read from, whatever they were written
in. Numbers that are not integers and dates occur in documents, but no setting
takes one.
-/

namespace Concentrator

inductive Document where
  | null
  | bool (b : Bool)
  | integer (n : Int)
  | float
  | date
  | text (s : String)
  | list (items : List Document)
  | table (members : List (String × Document))

namespace Document

mutual

def ofJson : Json.Value → Document
  | .null => .null
  | .bool b => .bool b
  | .natural n => .integer n
  | .negative n => .integer (-n)
  | .float _ => .float
  | .text s => .text s
  | .array items => .list (ofJsonItems items)
  | .object members => .table (ofJsonMembers members)

def ofJsonItems : List Json.Value → List Document
  | [] => []
  | v :: rest => ofJson v :: ofJsonItems rest

def ofJsonMembers : List (String × Json.Value) → List (String × Document)
  | [] => []
  | (key, v) :: rest => (key, ofJson v) :: ofJsonMembers rest

end

def member? (members : List (String × Document)) (key : String) : Option Document :=
  (members.find? fun m => m.1 = key).map Prod.snd

def text? : Document → Option String
  | .text s => some s
  | _ => none

/-- An integer from zero to `bound`, exclusive. -/
def below? (bound : Nat) : Document → Option Nat
  | .integer (.ofNat n) => if n < bound then some n else none
  | _ => none

end Document

end Concentrator
