import Concentrator.Json.Value
import Concentrator.Text.Base64

/-!
# Frames

The message relay and its peers exchange frames, small JSON objects with four
known members. A reported error outweighs the answer to an authentication, and
that outweighs a payload.
-/

namespace Concentrator

inductive Frame where
  /-- The answer to an authentication. -/
  | authentication (accepted : Bool)
  /-- The relay has a complaint. -/
  | reported (message : String)
  | data (sender : String) (payload : Bytes)
  /-- Something that concerns nobody here. -/
  | other
deriving DecidableEq

namespace Frame

open Json

/-- An object with text members, in the given order. -/
def objectText (members : List (String × String)) : String :=
  "\x7b" ++ ",".intercalate (members.map fun (key, v) => Value.quote key ++ ":" ++ Value.quote v) ++
    "\x7d"

/-- A frame that carries a payload; `party` is the name of the member that holds the peer. -/
def carry (party peer : String) (payload : Bytes) : String :=
  objectText [(party, peer), ("data", String.ofList (Text.Base64.encode payload))]

/-- The frame that asks the relay to send a payload to a peer. -/
def outgoing (peer : String) (payload : Bytes) : String :=
  carry "to" peer payload

/-- The frame in which a payload from a peer arrives. -/
def incoming (peer : String) (payload : Bytes) : String :=
  carry "FROM" peer payload

def authenticationRequest (id password : String) : String :=
  objectText [("auth", id), ("passwd", password)]

/-- The known members of a frame; the outer option says whether a member has been seen. -/
structure Members where
  auth : Option (Option String) := none
  error : Option (Option Value) := none
  sender : Option (Option String) := none
  data : Option (Option String) := none

/-- A member that is a text or null. -/
def optionalText? : Tree → Option (Option String)
  | .null => some none
  | .text pieces => (text? pieces).map some
  | _ => none

/-- An error may have any form, nested as deep as one container inside a frame may be. -/
def optionalValue? : Tree → Option (Option Value)
  | .null => some none
  | tree => (Value.ofTree? (Value.maxDepth - 1) tree).map some

namespace Members

/-- The members with one more; a known one may not come twice, and others may hold anything. -/
def add? (m : Members) (key : String) (tree : Tree) : Option Members :=
  if key = "auth" then do
    guard m.auth.isNone
    return { m with auth := some (← optionalText? tree) }
  else if key = "error" then do
    guard m.error.isNone
    return { m with error := some (← optionalValue? tree) }
  else if key = "FROM" then do
    guard m.sender.isNone
    return { m with sender := some (← optionalText? tree) }
  else if key = "data" then do
    guard m.data.isNone
    return { m with data := some (← optionalText? tree) }
  else some m

/-- The members of an object, or the four of them in an array. -/
def ofTree? : Tree → Option Members
  | .object members => members.foldlM (fun m (key, tree) => do m.add? (← text? key) tree) {}
  | .array [first, second, third, fourth] => do
    let m ← ({} : Members).add? "auth" first
    let m ← m.add? "error" second
    let m ← m.add? "FROM" third
    m.add? "data" fourth
  | _ => none

end Members

/-- The wording of a reported error: a text as it is, anything else as JSON. -/
def complaint : Value → String
  | .text s => s
  | v => v.render

/-- An authentication succeeds with "ok" in any case. -/
def accepts (answer : String) : Bool :=
  answer.toList.map Char.toLower = ['o', 'k']

def ofMembers? (m : Members) : Option Frame :=
  match m.error.join, m.auth.join, m.sender.join, m.data.join with
  | some error, _, _, _ => some (.reported (complaint error))
  | none, some auth, _, _ => some (.authentication (accepts auth))
  | none, none, some sender, some body =>
    (Text.Base64.decode? body.toList).map fun payload => .data sender payload
  | none, none, _, _ => some .other

/-- The frame of a text; none if it is malformed. -/
def decode? (text : String) : Option Frame := do
  let tree ← Tree.parse? text
  ofMembers? (← Members.ofTree? tree)

end Frame

end Concentrator
