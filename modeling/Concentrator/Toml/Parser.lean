import Concentrator.Toml.Value

/-!
# TOML texts

A text is a list of statements: members and table headers. Each header closes
the table before it and opens its own. A header may give a table its members
only once, and a dotted key may extend only what dotted keys have begun or
nothing has defined yet.
-/

namespace Concentrator.Toml

open Text Scan

inductive Statement where
  | member (path : List String) (last : String) (v : Document)
  | header (path : List String) (last : String)
  /-- A header in double brackets adds a table to an array. -/
  | element (path : List String) (last : String)

/-- How a table came about. -/
structure Origin where
  /-- Only as a step on the way to another table. -/
  implicit : Bool
  /-- By a dotted key. -/
  dotted : Bool
deriving DecidableEq

inductive Item where
  | value (d : Document)
  | table (origin : Origin) (members : List (String × Item))
  /-- The tables of an array, the newest first. -/
  | tables (newest : List (String × Item)) (older : List (List (String × Item)))

abbrev Members := List (String × Item)

def Members.find? (members : Members) (name : String) : Option Item :=
  (List.find? (fun m => m.1 = name) members).map Prod.snd

def Members.put (members : Members) (name : String) (item : Item) : Members :=
  if members.any fun m => m.1 = name then
    members.map fun m => if m.1 = name then (name, item) else m
  else members ++ [(name, item)]

/-- A table that a header or an array element opens. -/
def Origin.explicit : Origin := ⟨false, false⟩

def within (byDots : Bool) (change : Origin → Members → Option Members) :
    List String → Origin → Members → Option Members
  | [], origin, members => change origin members
  | part :: path, _, members =>
    match members.find? part with
    | none => do
      let origin := ⟨true, byDots⟩
      return members.put part (.table origin (← within byDots change path origin []))
    | some (.value _) => none
    | some (.tables newest older) => do
      return members.put part (.tables (← within byDots change path .explicit newest) older)
    | some (.table origin inner) => do
      guard (¬ byDots ∨ origin.implicit)
      return members.put part (.table origin (← within byDots change path origin inner))

/-- Adds a member to the table at a path. A table that dotted keys have not begun takes no dotted
members, and the other way round. -/
def addMember (path : List String) (last : String) (v : Document) (origin : Origin)
    (members : Members) : Option Members :=
  within true (fun origin members => do
    guard (origin.dotted ≠ decide (path = []))
    guard (members.find? last).isNone
    return members.put last (.value v)) path origin members

/-- The tables that are closed, and the one that takes members. -/
structure Builder where
  root : Members := []
  current : Members := []
  /-- Where the current table belongs, and whether to an array; none for the root. -/
  place : Option (List String × String × Bool) := none

namespace Builder

def close (b : Builder) : Option Members :=
  match b.place with
  | none => some b.current
  | some (path, last, true) =>
    within false (fun _ members =>
      match members.find? last with
      | none => some (members.put last (.tables b.current []))
      | some (.tables newest older) =>
        some (members.put last (.tables b.current (newest :: older)))
      | some _ => none) path .explicit b.root
  | some (path, last, false) =>
    within false (fun _ members =>
      match members.find? last with
      | none => some (members.put last (.table .explicit b.current))
      | some (.table origin _) =>
        if origin.implicit then some (members.put last (.table .explicit b.current)) else none
      | some _ => none) path .explicit b.root

/-- The members that a header finds under its name: those of a table that so far was only on the
way to others. -/
def opened (path : List String) (last : String) (root : Members) : Option (Members × Members) :=
  let taken (members : Members) : Option Members :=
    match members.find? last with
    | none => some []
    | some (.table origin inner) =>
      if origin.implicit ∧ ¬ origin.dotted then some inner else none
    | some _ => none
  let rec at? : List String → Members → Option Members
    | [], members => taken members
    | part :: path, members =>
      match members.find? part with
      | none => some []
      | some (.value _) => none
      | some (.tables newest _) => at? path newest
      | some (.table _ inner) => at? path inner
  do
    let inner ← at? path root
    let root ← within false (fun _ members =>
      some (List.filter (fun m => m.1 ≠ last) members)) path .explicit root
    return (inner, root)

def step (b : Builder) : Statement → Option Builder
  | .member path last v => do
    return { b with current := ← addMember path last v ⟨false, false⟩ b.current }
  | .header path last => do
    let (current, root) ← opened path last (← b.close)
    return ⟨root, current, some (path, last, false)⟩
  | .element path last => do
    let root ← b.close
    let _ ← within false (fun _ members =>
      match members.find? last with
      | none => some members
      | some (.tables ..) => some members
      | some _ => none) path .explicit root
    return ⟨root, [], some (path, last, true)⟩

end Builder

mutual

def Item.document : Item → Document
  | .value d => d
  | .table _ members => .table (Item.documents members)
  | .tables newest older => .list (Item.elements older ++ [.table (Item.documents newest)])

def Item.documents : List (String × Item) → List (String × Document)
  | [] => []
  | (name, item) :: rest => (name, Item.document item) :: Item.documents rest

def Item.elements : List (List (String × Item)) → List Document
  | [] => []
  | members :: rest => Item.elements rest ++ [.table (Item.documents members)]

end

/-! ### Statements -/

def lineEnd : Scan Unit := do
  blanks
  comment <|> pure ()
  newline <|> do
    guard ((← get) = [])

def assignment : Scan Statement := do
  let (path, last) ← key
  char '='
  blanks
  return .member path last (← value maxDepth)

def tableHeader : Scan Statement := do
  char '['
  let (path, last) ← key
  char ']'
  return .header path last

def elementHeader : Scan Statement := do
  word "[["
  let (path, last) ← key
  word "]]"
  return .element path last

/-- The statements of a text; each begins a line. -/
def statements : Nat → Scan (List Statement)
  | 0 => failure
  | n + 1 => do
    blanks
    if (← get) = [] then return []
    (do newline; statements n) <|>
    (do comment; lineEnd; statements n) <|> do
      let s ← elementHeader <|> tableHeader <|> assignment
      lineEnd
      return s :: (← statements n)

/-- A byte order mark may stand before the first statement. -/
def textOf (cs : List Char) : List Char :=
  if cs.head? = some '\ufeff' then cs.tail else cs

def parse? (s : String) : Option Document := do
  let cs := textOf s.toList
  let (all, _) ← statements (cs.length + 1) cs
  let b ← all.foldlM Builder.step {}
  return .table (Item.documents (← b.close))

end Concentrator.Toml
