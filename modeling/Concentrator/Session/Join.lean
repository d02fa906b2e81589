import Concentrator.Payload

/-!
# Join requests

A join request names the shared secret and the group that the client wants to
enter. The secret ends at the first semicolon; the group is all that follows
and is never empty.
-/

namespace Concentrator

structure JoinRequest where
  secret : String
  group : String
deriving DecidableEq

namespace JoinRequest

def encode (r : JoinRequest) : Bytes :=
  joinTag :: (Bytes.ofText r.secret ++ Bytes.ofText ";" ++ Bytes.ofText r.group)

/-- The characters before and after the first semicolon. -/
def split? (cs : List Char) : Option (List Char × List Char) :=
  match cs.dropWhile (· ≠ ';') with
  | [] => none
  | _ :: after => some (cs.takeWhile (· ≠ ';'), after)

def parse? : Bytes → Option JoinRequest
  | [] => none
  | tag :: body => do
    guard (tag = joinTag)
    let text ← Bytes.toText? body
    let (secret, group) ← split? text.toList
    guard (group ≠ [])
    return ⟨String.ofList secret, String.ofList group⟩

end JoinRequest

end Concentrator
